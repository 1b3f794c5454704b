import EnvScout.Json.Decode
import EnvScout.Json.Value

/-!
Reading any JSON value off its text. Of members with the same name the last one counts and the first
one gives the place. A number is kept as the text of what it stands for.
-/

namespace EnvScout.Json

def Number.text : Number → String
  | whole n => toString n
  | float x => floatText x

namespace Decoder

/-- The members up to the closing brace, put behind those in `before`; `begun` says whether one
stands before them already. -/
def membersOf (value : Decoder Json) :
    Nat → Bool → List (String × Json) → Decoder (List (String × Json))
  | 0, _, _, _ => .error .malformed
  | _ + 1, _, before, .closeBrace :: rest => .ok (before, rest)
  | n + 1, true, before, .comma :: .string (some key) :: .colon :: rest =>
    next n before key rest
  | n + 1, false, before, .string (some key) :: .colon :: rest => next n before key rest
  | _ + 1, _, _, _ => .error .malformed
where
  next (n : Nat) (before : List (String × Json)) (key : String) (tokens : List Token) :
      Except DecodeError (List (String × Json) × List Token) :=
    match value tokens with
    | .error e => .error e
    | .ok (v, rest) => membersOf value n true (setMember key v before) rest

/-- Any value, nested less than `depth` levels deep. -/
def value : Nat → Decoder Json
  | 0, _ => .error .malformed
  | depth + 1, tokens =>
    match tokens with
    | .null :: rest => .ok (.null, rest)
    | .bool b :: rest => .ok (.bool b, rest)
    | .string (some s) :: rest => .ok (.string s, rest)
    | .number literal :: rest =>
      match Number.ofLiteral? literal with
      | some n => .ok (.number n.text, rest)
      | none => .error .malformed
    | .openBracket :: rest =>
      (items (value depth) (rest.length + 1) false rest).map fun (found, rest) =>
        (.array found, rest)
    | .openBrace :: rest =>
      (membersOf (value depth) (rest.length + 1) false [] rest).map fun (found, rest) =>
        (.object found, rest)
    | _ => .error .malformed

end Decoder

/-- The value a text gives. No value is nested more deeply than the text has characters. -/
def ofText? (text : String) : Option Json :=
  match Decoder.decode (Decoder.value (text.toList.length + 1)) text with
  | .ok value => some value
  | .error _ => none

end EnvScout.Json
