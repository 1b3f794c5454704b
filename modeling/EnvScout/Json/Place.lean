import EnvScout.Json.Decode

/-!
Where in its text a value went wrong. The decoder works on tokens and only says how many of them are
left, so the place is found by passing over the others again.
-/

namespace EnvScout.Json

/-- A place in a text: lines are counted from one, and columns in bytes from the line's start. -/
structure Place where
  line : Nat
  column : Nat
  deriving DecidableEq

namespace Place

/-- The place behind a text. -/
def behind (passed : List Char) : Place :=
  let last := (passed.reverse.takeWhile fun c => c != '\n').reverse
  ⟨1 + passed.count '\n', last.foldl (fun size c => size + c.utf8Size) 0⟩

/-- What follows the first `n` tokens of a text. -/
def dropTokens : Nat → List Char → List Char
  | 0, cs => cs
  | n + 1, cs =>
    match Token.readOne (cs.dropWhile Token.isWhite) with
    | some (_, rest) => dropTokens n rest
    | none => cs

/-- What follows all tokens of a text but the last `left`. -/
def lastTokens (text : String) (left : Nat) : List Char :=
  dropTokens ((Token.ofText text).length - left) text.toList

def describe (place : Place) : String :=
  " at line " ++ toString place.line ++ " column " ++ toString place.column

end Place

namespace DecodeError

/-- What follows the place of an error. A scalar has been passed over, a sequence or a map has not;
behind a name that comes twice, a closing brace is passed over too. -/
def rest? (text : String) : DecodeError → Option (List Char)
  | wrongType .sequence _ left => some ((Place.lastTokens text (left + 1)).dropWhile Token.isWhite)
  | wrongType .map _ left => some ((Place.lastTokens text (left + 1)).dropWhile Token.isWhite)
  | wrongType _ _ left => some (Place.lastTokens text left)
  | duplicateField _ left =>
    let rest := (Place.lastTokens text left).dropWhile Token.isWhite
    some (if rest.head? = some '}' then rest.drop 1 else rest)
  | _ => none

/-- The message of an error in a text with its place, where it has one. -/
def messageIn (text : String) (error : DecodeError) : String :=
  match error.rest? text with
  | some rest =>
    error.message ++
      (Place.behind (text.toList.take (text.toList.length - rest.length))).describe
  | none => error.message

end DecodeError

end EnvScout.Json
