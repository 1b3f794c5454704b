import EnvScout.Text.Hex

/-!
The tokens of a JSON text. Reading a text into tokens always comes to an end; where the text breaks
the rules, the last token says so, so that what comes before the mistake can still be judged first.
-/

namespace EnvScout.Json

inductive Token where
  | openBrace
  | closeBrace
  | openBracket
  | closeBracket
  | colon
  | comma
  | null
  | bool (value : Bool)
  | number (literal : String)
  /-- A string; it has no text when its escapes leave half of a surrogate pair. -/
  | string (text : Option String)
  | invalid
  deriving DecidableEq

namespace Token

/-- A character of a string, or a code unit given by an escape. -/
inductive Unit16 where
  | char (c : Char)
  | unit (n : Nat)

def isWhite (c : Char) : Bool :=
  c == ' ' || c == '\n' || c == '\t' || c == '\r'

def hexUnit? (a b c d : Char) : Option Nat := do
  let a ← Text.hexDigit? a
  let b ← Text.hexDigit? b
  let c ← Text.hexDigit? c
  let d ← Text.hexDigit? d
  pure (((a * 16 + b) * 16 + c) * 16 + d)

def simpleEscape? : Char → Option Char
  | '"' => some '"'
  | '\\' => some '\\'
  | '/' => some '/'
  | 'b' => some '\x08'
  | 'f' => some '\x0c'
  | 'n' => some '\n'
  | 'r' => some '\r'
  | 't' => some '\t'
  | _ => none

/-- The characters up to the closing quote, and what follows it. -/
def readString : List Char → Option (List Unit16 × List Char)
  | [] => none
  | '"' :: rest => some ([], rest)
  | '\\' :: 'u' :: a :: b :: c :: d :: rest =>
    match hexUnit? a b c d, readString rest with
    | some n, some (units, rest) => some (.unit n :: units, rest)
    | _, _ => none
  | '\\' :: e :: rest =>
    match simpleEscape? e, readString rest with
    | some c, some (units, rest) => some (.char c :: units, rest)
    | _, _ => none
  | c :: rest =>
    if c = '\\' ∨ c.toNat < 0x20 then none
    else match readString rest with
      | some (units, rest) => some (.char c :: units, rest)
      | none => none

/-- The text of the units of a string, with surrogates put together in pairs. -/
def assemble : List Unit16 → Option (List Char)
  | [] => some []
  | .char c :: rest => (assemble rest).map (c :: ·)
  | .unit n :: rest =>
    if n < 0xD800 ∨ 0xDFFF < n then (assemble rest).map (Char.ofNat n :: ·)
    else if n < 0xDC00 then
      match rest with
      | .unit m :: rest =>
        if 0xDC00 ≤ m ∧ m ≤ 0xDFFF then
          (assemble rest).map (Char.ofNat (0x10000 + (n - 0xD800) * 0x400 + (m - 0xDC00)) :: ·)
        else none
      | _ => none
    else none

/-- The digits at the front of a text, which has to begin with one. -/
def readDigits (cs : List Char) : Option (List Char × List Char) :=
  match cs.takeWhile Char.isDigit with
  | [] => none
  | digits => some (digits, cs.dropWhile Char.isDigit)

/-- The whole part of a number: no zero in front of another digit. -/
def readWhole : List Char → Option (List Char × List Char)
  | '0' :: rest => if rest.head?.any Char.isDigit then none else some (['0'], rest)
  | cs => readDigits cs

def readFraction : List Char → Option (List Char × List Char)
  | '.' :: rest => (readDigits rest).map fun (digits, rest) => ('.' :: digits, rest)
  | cs => some ([], cs)

def readExponent : List Char → Option (List Char × List Char)
  | e :: rest =>
    if e = 'e' ∨ e = 'E' then
      match rest with
      | '+' :: rest => (readDigits rest).map fun (digits, rest) => (e :: '+' :: digits, rest)
      | '-' :: rest => (readDigits rest).map fun (digits, rest) => (e :: '-' :: digits, rest)
      | _ => (readDigits rest).map fun (digits, rest) => (e :: digits, rest)
    else some ([], e :: rest)
  | [] => some ([], [])

def readUnsigned (cs : List Char) : Option (List Char × List Char) := do
  let (whole, rest) ← readWhole cs
  let (fraction, rest) ← readFraction rest
  let (exponent, rest) ← readExponent rest
  pure (whole ++ fraction ++ exponent, rest)

/-- The number at the front of a text. -/
def readNumber : List Char → Option (List Char × List Char)
  | '-' :: rest => (readUnsigned rest).map fun (literal, rest) => ('-' :: literal, rest)
  | cs => readUnsigned cs

/-- The token at the front of a text that begins with none of white space, and what follows it. -/
def readOne : List Char → Option (Token × List Char)
  | '{' :: rest => some (.openBrace, rest)
  | '}' :: rest => some (.closeBrace, rest)
  | '[' :: rest => some (.openBracket, rest)
  | ']' :: rest => some (.closeBracket, rest)
  | ':' :: rest => some (.colon, rest)
  | ',' :: rest => some (.comma, rest)
  | 'n' :: 'u' :: 'l' :: 'l' :: rest => some (.null, rest)
  | 't' :: 'r' :: 'u' :: 'e' :: rest => some (.bool true, rest)
  | 'f' :: 'a' :: 'l' :: 's' :: 'e' :: rest => some (.bool false, rest)
  | '"' :: rest =>
    (readString rest).map fun (units, rest) => (.string ((assemble units).map String.ofList), rest)
  | cs => (readNumber cs).map fun (literal, rest) => (.number (String.ofList literal), rest)

/-- The tokens of a text, at most `n` of them. -/
def readSome : Nat → List Char → List Token
  | 0, _ => [.invalid]
  | n + 1, cs =>
    match cs.dropWhile isWhite with
    | [] => []
    | c :: rest =>
      match readOne (c :: rest) with
      | some (token, rest) => token :: readSome n rest
      | none => [.invalid]

/-- The tokens of a text. Every token takes a character, so there are no more than characters. -/
def ofText (text : String) : List Token :=
  readSome (text.toList.length + 1) text.toList

end Token

end EnvScout.Json
