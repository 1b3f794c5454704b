import EnvScout.Text.CompositionTable
import EnvScout.Text.Ranges

/-!
The one spelling in which characters are put together as far as they can be. A text is first spelled
out, a base before its marks; then marks of different classes are brought into order, those of one
class staying as they are; and then each mark that can is joined to its base.
-/

namespace EnvScout.Text

open CompositionTable

/-- The class of a mark. Characters of class 0 keep their place. -/
def markClass (c : Char) : Nat :=
  (valueWithin? classRows c).getD 0

/-! Korean syllables are numbered so that their parts can be worked out. -/

def syllableBase : Nat := 0xAC00
def leadBase : Nat := 0x1100
def vowelBase : Nat := 0x1161
def tailBase : Nat := 0x11A7
def leadCount : Nat := 19
def vowelCount : Nat := 21
def tailCount : Nat := 28

def syllableCount : Nat := leadCount * vowelCount * tailCount

/-- The parts of a Korean syllable. -/
def syllableParts? (c : Char) : Option (List Char) :=
  let n := c.toNat - syllableBase
  if c.toNat < syllableBase || syllableCount ≤ n then none
  else
    let lead := Char.ofNat (leadBase + n / (vowelCount * tailCount))
    let vowel := Char.ofNat (vowelBase + n % (vowelCount * tailCount) / tailCount)
    let tail := n % tailCount
    some (lead :: vowel :: if tail = 0 then [] else [Char.ofNat (tailBase + tail)])

/-- The syllable that two parts make, or that a syllable and a closing consonant make. -/
def syllable? (first second : Char) : Option Char :=
  let lead := first.toNat - leadBase
  let vowel := second.toNat - vowelBase
  let bare := first.toNat - syllableBase
  let tail := second.toNat - tailBase
  if leadBase ≤ first.toNat && lead < leadCount &&
      vowelBase ≤ second.toNat && vowel < vowelCount then
    some (Char.ofNat (syllableBase + (lead * vowelCount + vowel) * tailCount))
  else if syllableBase ≤ first.toNat && bare < syllableCount && bare % tailCount = 0 &&
      0 < tail && tail < tailCount then
    some (Char.ofNat (first.toNat + tail))
  else none

/-- Spells out a character. Its base may have to be spelled out too, up to `depth` times. -/
def spellOut : Nat → Char → List Char
  | 0, c => [c]
  | depth + 1, c =>
    if c.toNat < 0xC0 then [c]
    else match syllableParts? c with
      | some parts => parts
      | none =>
        match rowOf? pairs c with
        | some [base, mark] => spellOut depth base ++ [mark]
        | _ => (rowOf? spellings c).getD [c]

/-- Pairs are nested at most this deep. -/
def pairDepth : Nat := 4

/-- Puts a character in front of marks that are in order. -/
def settle (c : Char) : List Char → List Char
  | [] => [c]
  | d :: rest =>
    if 0 < markClass d ∧ markClass d < markClass c then d :: settle c rest else c :: d :: rest

/-- A text spelled out, with its marks in order. -/
def decomposed (cs : List Char) : List Char :=
  (cs.flatMap (spellOut pairDepth)).foldr settle []

/-- The one character that two others make. -/
def joined? (base mark : Char) : Option Char :=
  match syllable? base mark with
  | some c => some c
  | none =>
    if mark.toNat < 0x300 then none
    else
      (pairs.find? fun row => row.tail == [base.toNat, mark.toNat]).bind fun row =>
        row.head?.map Char.ofNat

/-- Joins what follows to a base. `between` are the marks that could not be joined, the last of
which has the class `last`; a mark of the same class or a higher one hides the base from others. -/
def composeOnto (base : Char) (between : List Char) (last : Nat) : List Char → List Char
  | [] => base :: between
  | c :: cs =>
    let rank := markClass c
    match if between.isEmpty || last < rank then joined? base c else none with
    | some whole => composeOnto whole between last cs
    | none =>
      if rank = 0 then base :: between ++ composeOnto c [] 0 cs
      else composeOnto base (between ++ [c]) rank cs

/-- A text in the spelling in which everything that can be is put together. -/
def composed (cs : List Char) : List Char :=
  match decomposed cs with
  | [] => []
  | c :: rest => composeOnto c [] 0 rest

@[simp] theorem composed_nil : composed [] = [] := rfl

end EnvScout.Text
