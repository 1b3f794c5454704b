import EnvScout.Text.Hex
import EnvScout.Text.Split

/-!
Tables of characters. A property is a list of ranges; a change of letters is a list of runs, in each
of which the characters move by the same distance; all else is a list of rows of numbers, packed
into texts.
-/

namespace EnvScout.Text

def within (ranges : List (Nat × Nat)) (c : Char) : Bool :=
  ranges.any fun range => range.1 ≤ c.toNat && c.toNat ≤ range.2

/-- What a list of ranges says of a character. -/
def valueWithin? {α : Type} (rows : List (Nat × Nat × α)) (c : Char) : Option α :=
  (rows.find? fun row => row.1 ≤ c.toNat && c.toNat ≤ row.2.1).map fun row => row.2.2

/-- The characters `first`, `first + step`, … up to `last`, each of them replaced by the one whose
number is greater by `distance`. -/
structure Shift where
  first : Nat
  last : Nat
  step : Nat
  distance : Int

def Shift.covers (shift : Shift) (c : Char) : Bool :=
  shift.first ≤ c.toNat && c.toNat ≤ shift.last && (c.toNat - shift.first) % shift.step == 0

def Shift.move (shift : Shift) (c : Char) : Char :=
  Char.ofNat (c.toNat + shift.distance).toNat

/-- What a list of runs makes of a character. -/
def moved? (shifts : List Shift) (c : Char) : Option Char :=
  (shifts.find? fun shift => shift.covers c).map fun shift => shift.move c

/-- Reads rows of hexadecimal numbers; a comma ends a row, a space a number. -/
def readPacked (lines : List String) : List (List Nat) :=
  lines.flatMap fun line =>
    (splitOn ',' line.toList).map fun row => (splitOn ' ' row).map hexNumber

/-- The characters behind the first one in the row that begins with a character. -/
def rowOf? (rows : List (List Nat)) (c : Char) : Option (List Char) :=
  (rows.find? fun row => row.head? == some c.toNat).map fun row => row.tail.map Char.ofNat

end EnvScout.Text
