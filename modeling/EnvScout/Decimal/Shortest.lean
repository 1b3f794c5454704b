/-!
The shortest decimal that reads back as a given binary number. The binary number stands for all
reals that round to it; of the decimals among those with the fewest digits, the nearest is taken.
-/

namespace EnvScout.Decimal

/-- The number `digits * 10 ^ exponent`. -/
structure Scaled where
  digits : Nat
  exponent : Int
  deriving DecidableEq

/-- The positive number `mantissa * 2 ^ exponent` of 53 bits at most. -/
structure Binary where
  mantissa : Nat
  exponent : Int

namespace Binary

/-- Numerator and denominator of `base ^ e`. -/
def power (base : Nat) (e : Int) : Nat × Nat :=
  (base.pow e.toNat, base.pow (-e).toNat)

/-- The magnitude with the given bits, of a number that is finite. -/
def ofBits (bits : Nat) : Binary :=
  let fraction : Nat := bits % Nat.pow 2 52
  let exponent : Nat := bits / Nat.pow 2 52 % Nat.pow 2 11
  if exponent = 0 then ⟨fraction, -1074⟩ else ⟨Nat.pow 2 52 + fraction, (exponent : Int) - 1075⟩

/-- The lower end of what rounds to the number, in quarters of its last bit. -/
def lowQuarters (b : Binary) : Nat :=
  if b.mantissa = Nat.pow 2 52 ∧ b.exponent > -1074 then 4 * b.mantissa - 1 else 4 * b.mantissa - 2

def highQuarters (b : Binary) : Nat :=
  4 * b.mantissa + 2

/-- Compares `quarters` quarters of the last bit of `b` with `s`. -/
def compareQuarters (b : Binary) (quarters : Nat) (s : Scaled) : Ordering :=
  let bit := power 2 (b.exponent - 2)
  let ten := power 10 s.exponent
  compare (quarters * bit.1 * ten.2) (s.digits * ten.1 * bit.2)

/-- Whether `s` rounds to `b`; the ends count when the mantissa is even. -/
def reads (b : Binary) (s : Scaled) : Bool :=
  let low := b.compareQuarters b.lowQuarters s
  let high := b.compareQuarters b.highQuarters s
  (low == .lt || (low == .eq && b.mantissa % 2 == 0)) &&
    (high == .gt || (high == .eq && b.mantissa % 2 == 0))

/-- The point of the grid of `10 ^ exponent` just below the number. -/
def below (b : Binary) (exponent : Int) : Scaled :=
  let bit := power 2 b.exponent
  let ten := power 10 exponent
  ⟨b.mantissa * bit.1 * ten.2 / (bit.2 * ten.1), exponent⟩

/-- The nearer of a point and the one above it, of those that round to the number. -/
def pick (b : Binary) (low : Scaled) : Option Scaled :=
  let high : Scaled := ⟨low.digits + 1, low.exponent⟩
  match b.reads low && low.digits != 0, b.reads high with
  | false, false => none
  | true, false => some low
  | false, true => some high
  | true, true =>
    let middle : Scaled := ⟨10 * low.digits + 5, low.exponent - 1⟩
    match b.compareQuarters (4 * b.mantissa) middle with
    | .lt => some low
    | .gt => some high
    | .eq => some (if low.digits % 2 = 0 then low else high)

/-- The first grid, from coarse to fine, that has a point which rounds to the number. -/
def search (b : Binary) : Nat → Int → Scaled
  | 0, exponent => b.below exponent
  | n + 1, exponent =>
    match b.pick (b.below exponent) with
    | some s => s
    | none => search b n (exponent - 1)

/-- A digit string without zeros at its end. -/
def strip : Nat → Scaled → Scaled
  | 0, s => s
  | n + 1, s =>
    if s.digits ≠ 0 ∧ s.digits % 10 = 0 then strip n ⟨s.digits / 10, s.exponent + 1⟩ else s

def shortest (b : Binary) : Scaled :=
  if b.mantissa = 0 then ⟨0, 0⟩ else strip 20 (b.search 700 310)

end Binary

end EnvScout.Decimal
