import EnvScout.Decimal.Shortest

/-!
What a number literal stands for: a whole number of at most 64 bits, or else a floating-point number
put together from its digits and its exponent. A literal beyond the range stands for nothing.
-/

namespace EnvScout.Json

inductive Number where
  | whole (n : Int)
  | float (x : Float)

namespace Number

def wordLimit : Nat := Nat.pow 2 64

/-- A number literal taken apart. -/
structure Parts where
  negative : Bool
  whole : List Char
  fraction : List Char
  hasFraction : Bool
  exponent : Option (Bool × List Char)

def digitValue (c : Char) : Nat :=
  c.toNat - '0'.toNat

def natOfDigits (digits : List Char) : Nat :=
  digits.foldl (fun n c => 10 * n + digitValue c) 0

def Parts.ofLiteral (literal : List Char) : Parts :=
  let negative := literal.head? == some '-'
  let unsigned := if negative then literal.drop 1 else literal
  let whole := unsigned.takeWhile Char.isDigit
  let rest := unsigned.drop whole.length
  let hasFraction := rest.head? == some '.'
  let fraction := if hasFraction then (rest.drop 1).takeWhile Char.isDigit else []
  let rest := if hasFraction then rest.drop (1 + fraction.length) else rest
  let exponent := match rest with
    | _ :: '-' :: digits => some (true, digits)
    | _ :: '+' :: digits => some (false, digits)
    | _ :: digits => some (false, digits)
    | [] => none
  ⟨negative, whole, fraction, hasFraction, exponent⟩

/-- The digits that fit a word, and how many do not. -/
def takeWord : Nat → List Char → Nat × Nat
  | n, [] => (n, 0)
  | n, c :: cs =>
    if 10 * n + digitValue c < wordLimit then takeWord (10 * n + digitValue c) cs
    else (n, (c :: cs).length)

def powerOfTen (n : Nat) : Float :=
  Float.ofScientific 1 false n

/-- Divides by powers of ten until the exponent is used up. -/
def divideDown : Nat → Float → Nat → Float
  | 0, x, _ => x
  | fuel + 1, x, n =>
    if n ≤ 308 then x / powerOfTen n
    else if x == 0.0 then x
    else divideDown fuel (x / powerOfTen 308) (n - 308)

/-- The float `significand * 10 ^ exponent`, none beyond the range. -/
def scale (significand : Nat) (exponent : Int) : Option Float :=
  let x := Float.ofNat significand
  if exponent < 0 then some (divideDown ((-exponent).toNat / 308 + 1) x (-exponent).toNat)
  else if exponent ≤ 308 then
    let y := x * powerOfTen exponent.toNat
    if y.isInf then none else some y
  else if x == 0.0 then some x
  else none

/-- The significand and exponent of a literal that is no word. Digits that do not fit into a word
are left out of the significand. -/
def Parts.scaled (parts : Parts) : Nat × Int :=
  let (n, dropped) := takeWord 0 parts.whole
  if dropped > 0 then
    let (m, left) := takeWord n parts.fraction
    (m, dropped - (parts.fraction.length - left : Nat))
  else
    let (m, left) := takeWord n parts.fraction
    (m, -((parts.fraction.length - left : Nat) : Int))

def Parts.value (parts : Parts) : Option Number :=
  let plain := !parts.hasFraction && parts.exponent.isNone
  let n := natOfDigits parts.whole
  if plain && n < wordLimit && !parts.negative then some (.whole n)
  else if plain && 0 < n && n ≤ Nat.pow 2 63 && parts.negative then some (.whole (-n))
  else
    let (significand, exponent) := parts.scaled
    let exponent := match parts.exponent with
      | some (true, digits) => exponent - natOfDigits digits
      | some (false, digits) => exponent + natOfDigits digits
      | none => exponent
    (scale significand exponent).map fun x => .float (if parts.negative then -x else x)

def ofLiteral? (literal : String) : Option Number :=
  (Parts.ofLiteral literal.toList).value

/-- An exponent in a text: its sign always stands, and two digits at least. -/
def exponentText (e : Int) : List Char :=
  let digits := Nat.toDigits 10 e.natAbs
  (if e < 0 then '-' else '+') :: (if digits.length < 2 then '0' :: digits else digits)

/-- The text of a finite float: positional when the point lies within the first sixteen places or
at most four zeros behind the point, with an exponent otherwise. -/
def floatText (x : Float) : String :=
  let bits := x.toBits.toNat
  let sign := if bits / Nat.pow 2 63 = 1 then "-" else ""
  let s := (Decimal.Binary.ofBits (bits % Nat.pow 2 63)).shortest
  let digits := Nat.toDigits 10 s.digits
  let point : Int := digits.length + s.exponent
  let body :=
    if s.digits = 0 then ['0', '.', '0']
    else if 0 ≤ s.exponent ∧ point ≤ 16 then
      digits ++ List.replicate s.exponent.toNat '0' ++ ['.', '0']
    else if 0 < point ∧ point ≤ 16 then
      digits.take point.toNat ++ ['.'] ++ digits.drop point.toNat
    else if -5 < point ∧ point ≤ 0 then
      ['0', '.'] ++ List.replicate (-point).toNat '0' ++ digits
    else
      let mantissa := match digits with
        | [d] => [d]
        | d :: rest => d :: '.' :: rest
        | [] => []
      mantissa ++ ['e'] ++ exponentText (point - 1)
  sign ++ String.ofList body

end Number

end EnvScout.Json
