import EnvScout.Domain.ClassTable
import EnvScout.Domain.Mapping
import EnvScout.Domain.Punycode

/-!
The labels of a domain name, the parts between its dots. A label is judged by the characters it
stands for: these must not begin with a mark, signs between letters must have letters to act on, and
where a name holds letters that are written from the right, each label keeps to one direction.
-/

namespace EnvScout.Domain

open ClassTable

/-- A label as it is written and the characters it stands for. -/
structure Label where
  written : List Char
  meaning : List Char
  deriving DecidableEq

/-- Signs that mean something in addresses, blanks and controls. -/
def isDenied (c : Char) : Bool :=
  c.toNat ≤ 0x20 || c.toNat == 0x7F || "%#/:<>?@[\\]^|".toList.contains c

def direction (c : Char) : Direction :=
  if Text.isNonspacing c then .mark else (Text.valueWithin? directionRows c).getD .left

def joining (c : Char) : Joining :=
  if Text.isNonspacing c then .transparent else (Text.valueWithin? joiningRows c).getD .none

/-- The class of the marks that take a vowel away. -/
def viramaClass : Nat := 9

/-- Whether the first letter that is not looked through joins in one of some ways. -/
def joinsBy (ways : List Joining) (cs : List Char) : Bool :=
  match cs.dropWhile fun c => joining c = .transparent with
  | c :: _ => ways.contains (joining c)
  | [] => false

/-- Whether a joiner has something to act on. `before` stands in front of it, back to front. -/
def joinerFits (before : List Char) (c : Char) (behind : List Char) : Bool :=
  match before with
  | [] => false
  | previous :: _ =>
    Text.markClass previous = viramaClass ||
      (c == '\u200C' && joinsBy [.after, .both] before && joinsBy [.before, .both] behind)

def joinersFit (before : List Char) : List Char → Bool
  | [] => true
  | c :: cs => (!isJoiner c || joinerFits before c cs) && joinersFit (c :: before) cs

namespace Label

/-- The mark of a label that is spelled with letters, digits and hyphens. -/
def codeMark : List Char := "xn--".toList

def longestCode : Nat := 2000

/-- A label with other characters has to be spelled with letters, digits and hyphens, which is not
done beyond this length. -/
def longestText : Nat := 1000

def isAscii (cs : List Char) : Bool :=
  cs.all fun c => c.toNat < 0x80

/-- The characters that a label in letters, digits and hyphens stands for. They must be in the one
spelling, and must not look like such a label again. -/
def decode? (code : List Char) : Option (List Char) :=
  if !isAscii code || code.getLast? = some '-' || code = [] || longestCode < code.length then none
  else
    match Punycode.decode? code with
    | none => none
    | some meaning =>
      if isNormalized meaning && !codeMark.isPrefixOf meaning then some meaning else none

/-- Reads a label, which is in the one spelling already. -/
def read? (written : List Char) : Option Label :=
  if codeMark.isPrefixOf written then
    (decode? (written.drop codeMark.length)).map fun meaning => ⟨written, meaning⟩
  else if !isAscii written && longestText < written.length then none
  else some ⟨written, written⟩

/-- Whether the characters of a label are allowed where they stand. -/
def isValid (label : Label) : Bool :=
  !label.meaning.any isDenied && !label.meaning.head?.any Text.isMark &&
    joinersFit [] label.meaning

/-- The directions of characters that are written from the right or count among such. -/
def rightward : List Direction :=
  [.right, .arabicLetter, .arabicNumber]

def turns (c : Char) : Bool :=
  rightward.contains (direction c)

/-- The characters in the middle of a label and the last one, without the marks behind it. -/
def middleAndLast? (cs : List Char) : Option (List Char × Char) :=
  match (cs.reverse.dropWhile fun c => direction c = .mark) with
  | last :: middle => some (middle.reverse, last)
  | [] => none

/-- What the middle of any label may have. -/
def neutralDirections : List Direction :=
  [.europeanNumber, .europeanSeparator, .commonSeparator, .europeanTerminator, .neutral,
    .boundary, .mark]

/-- Whether what follows the first character keeps to the direction from the left. -/
def keepsLeft (cs : List Char) : Bool :=
  match middleAndLast? cs with
  | none => true
  | some (middle, last) =>
    (direction last = .left || direction last = .europeanNumber) &&
      middle.all fun c => (.left :: neutralDirections).contains (direction c)

/-- Whether what follows the first character keeps to the direction from the right; numbers must be
of one kind. -/
def keepsRight (cs : List Char) : Bool :=
  match middleAndLast? cs with
  | none => true
  | some (middle, last) =>
    let has (number : Direction) : Bool := (middle ++ [last]).any fun c => direction c = number
    (turns last || direction last = .europeanNumber) &&
      (middle.all fun c => (rightward ++ neutralDirections).contains (direction c)) &&
      !(has .europeanNumber && has .arabicNumber)

/-- Whether a label keeps to one direction. -/
def isDirected (label : Label) : Bool :=
  match label.meaning with
  | [] => true
  | c :: cs =>
    match direction c with
    | .left => keepsLeft cs
    | .right => keepsRight cs
    | .arabicLetter => keepsRight cs
    | _ => false

end Label

end EnvScout.Domain
