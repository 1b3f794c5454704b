import EnvScout.Text.Case
import EnvScout.Text.Hex
import EnvScout.Text.LetterTable

/-!
The values that fields can be asked for: truth values, numbers, and patterns in the usual notation
of characters, classes in brackets, groups, choices and repetitions. Only whether a text is such a
value matters, so a pattern is read for its form alone. It stands in braces in a list with commas,
so it has no closing brace: a repetition that is counted in braces is never finished.
-/

namespace EnvScout.Log.ValuePattern

/-- What stands for one character of a text or for a place in it. -/
inductive Item where
  | char (c : Char)
  | set
  | place
  deriving DecidableEq

/-- Exactly `count` hexadecimal digits that number a character. -/
def readNumbered? (count : Nat) (cs : List Char) : Option (Item × List Char) :=
  let digits := cs.take count
  let n := Text.hexNumber digits
  if digits.length = count && digits.all Text.isHexDigit && n.isValidChar then
    some (.char (Char.ofNat n), cs.drop count)
  else none

/-- Reads what follows a backslash: a kind of characters, a character by its name or number, an end
of the text, or a sign that stands for itself. The edges of words cannot be asked for. -/
def readEscape? : List Char → Option (Item × List Char)
  | [] => none
  | 'x' :: cs => readNumbered? 2 cs
  | 'u' :: cs => readNumbered? 4 cs
  | 'U' :: cs => readNumbered? 8 cs
  | c :: cs =>
    if c == 'p' || c == 'P' then
      match cs with
      | kind :: rest =>
        if "CLMNPSZ".toList.contains kind.toUpper then some (.set, rest) else none
      | [] => none
    else if "dswDSW".toList.contains c then some (.set, cs)
    else if c == 'A' || c == 'z' then some (.place, cs)
    else
      match c with
      | 'a' => some (.char '\x07', cs)
      | 'f' => some (.char '\x0c', cs)
      | 'n' => some (.char '\n', cs)
      | 'r' => some (.char '\r', cs)
      | 't' => some (.char '\t', cs)
      | 'v' => some (.char '\x0b', cs)
      | _ =>
        if c.toNat < 0x80 && !c.isAlphanum && c != '<' && c != '>' then some (.char c, cs)
        else none

/-- Reads one item of a class. -/
def readItem? : List Char → Option (Item × List Char)
  | [] => none
  | '\\' :: cs => readEscape? cs
  | c :: cs => some (.char c, cs)

/-- Whether a range between two items is in order. -/
def isRange : Item → Item → Bool
  | .char c, .char d => c ≤ d
  | _, _ => false

/-- The kinds of characters that classes may name. -/
def kindNames : List String :=
  ["alnum", "alpha", "ascii", "blank", "cntrl", "digit", "graph", "lower", "print", "punct",
    "space", "upper", "word", "xdigit"]

/-- Reads the name of a kind behind an opening bracket, as in `[:alpha:]`. -/
def readKind? : List Char → Option (List Char)
  | ':' :: cs =>
    let cs := if cs.head? = some '^' then cs.drop 1 else cs
    let name := cs.takeWhile fun c => c != ':'
    match cs.drop name.length with
    | ':' :: ']' :: rest => if kindNames.contains (String.ofList name) then some rest else none
    | _ => none
  | _ => none

/-- What follows the start of a class: behind the bracket, a sign of exclusion and hyphens, and a
closing bracket that would leave the class empty. -/
def behindOpening (cs : List Char) : List Char :=
  let cs := if cs.head? = some '^' then cs.drop 1 else cs
  let rest := cs.dropWhile fun c => c == '-'
  if rest.length = cs.length && rest.head? = some ']' then rest.drop 1 else rest

/-- Reads a class up to its end, `depth` classes deep within others; each step takes a character at
least. -/
def readClass? : Nat → Nat → List Char → Option (List Char)
  | 0, _, _ => none
  | _, _, [] => none
  | steps + 1, depth, '[' :: cs =>
    match readKind? cs with
    | some rest => readClass? steps depth rest
    | none => readClass? steps (depth + 1) (behindOpening cs)
  | steps + 1, depth, ']' :: cs =>
    match depth with
    | 0 => some cs
    | depth + 1 => readClass? steps depth cs
  | steps + 1, depth, '&' :: '&' :: cs => readClass? steps depth cs
  | steps + 1, depth, '-' :: '-' :: cs => readClass? steps depth cs
  | steps + 1, depth, '~' :: '~' :: cs => readClass? steps depth cs
  | steps + 1, depth, cs =>
    match readItem? cs with
    | none => none
    | some (.place, _) => none
    | some (item, rest) =>
      match rest with
      | '-' :: next :: more =>
        if next == ']' || next == '-' then readClass? steps depth rest
        else
          match readItem? (next :: more) with
          | none => none
          | some (last, rest) => if isRange item last then readClass? steps depth rest else none
      | _ => readClass? steps depth rest

/-- What an opening parenthesis begins. -/
inductive Opening where
  | group
  /-- Settings for what follows, which is no group. -/
  | settings

/-- Whether the letters of settings are known, none comes twice, and those behind a hyphen are
there. -/
def areSettings (cs : List Char) : Bool :=
  let letters := cs.filter fun c => c != '-'
  letters.all ("imsUuxR".toList.contains ·) && letters.eraseDups.length = letters.length &&
    cs.length ≤ letters.length + 1 && cs.getLast? != some '-'

/-- Reads the name of a group. -/
def readName? (cs : List Char) : Option (List Char) :=
  let isLetter (c : Char) : Bool := Text.within Text.LetterTable.letterOrNumberRanges c
  let name := cs.takeWhile fun c => c != '>'
  let begins := name.head?.any fun c => c == '_' || (isLetter c && !c.isDigit)
  if begins && name.all fun c => isLetter c || "_.[]".toList.contains c then
    match cs.drop name.length with
    | _ :: rest => some rest
    | [] => none
  else none

/-- Reads what follows an opening parenthesis. Looking ahead or back is not among it. -/
def readOpening? : List Char → Option (Opening × List Char)
  | '?' :: 'P' :: '<' :: cs => (readName? cs).map fun rest => (.group, rest)
  | '?' :: '<' :: cs => (readName? cs).map fun rest => (.group, rest)
  | '?' :: cs =>
    let letters := cs.takeWhile fun c => c != ':' && c != ')'
    if !areSettings letters then none
    else
      match cs.drop letters.length with
      | ':' :: rest => some (.group, rest)
      | ')' :: rest => if letters.isEmpty then none else some (.settings, rest)
      | _ => none
  | cs => some (.group, cs)

/-- Reads a pattern to its end, `depth` groups deep. `canRepeat` says whether there is something in
front that a repetition could be about; each step takes a character at least. -/
def readPattern : Nat → Nat → Bool → List Char → Bool
  | 0, _, _, _ => false
  | _, depth, _, [] => depth = 0
  | steps + 1, depth, canRepeat, c :: cs =>
    match c with
    | '(' =>
      match readOpening? cs with
      | some (.group, rest) => readPattern steps (depth + 1) false rest
      | some (.settings, rest) => readPattern steps depth false rest
      | none => false
    | ')' => 0 < depth && readPattern steps (depth - 1) true cs
    | '|' => readPattern steps depth false cs
    | '[' =>
      match readClass? cs.length 0 (behindOpening cs) with
      | some rest => readPattern steps depth true rest
      | none => false
    | '\\' =>
      match readEscape? cs with
      | some (_, rest) => readPattern steps depth true rest
      | none => false
    | '\x7b' => false
    | _ =>
      if c == '*' || c == '+' || c == '?' then canRepeat && readPattern steps depth true cs
      else readPattern steps depth true cs

def isPattern (cs : List Char) : Bool :=
  readPattern (cs.length + 1) 0 false cs

/-- Whether digits follow, perhaps with a point among them and with an exponent behind. -/
def isUnsigned (cs : List Char) : Bool :=
  let whole := cs.takeWhile Char.isDigit
  let rest := cs.drop whole.length
  let fraction := if rest.head? = some '.' then (rest.drop 1).takeWhile Char.isDigit else []
  let rest := if rest.head? = some '.' then rest.drop (1 + fraction.length) else rest
  !(whole.isEmpty && fraction.isEmpty) &&
    match rest with
    | [] => true
    | mark :: exponent =>
      let signed := exponent.head? = some '+' || exponent.head? = some '-'
      let digits := if signed then exponent.drop 1 else exponent
      (mark == 'e' || mark == 'E') && !digits.isEmpty && digits.all Char.isDigit

/-- A number with a plus sign. All other numbers, and truth values, are patterns as well. -/
def isPositive : List Char → Bool
  | '+' :: cs =>
    isUnsigned cs || ["inf", "infinity", "nan"].contains (Text.asciiLowered (String.ofList cs))
  | _ => false

/-- Whether a field can be asked for the value. -/
def isValue (cs : List Char) : Bool :=
  isPositive cs || isPattern cs

end EnvScout.Log.ValuePattern
