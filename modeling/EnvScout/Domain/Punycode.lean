import EnvScout.Text.Split

/-!
Labels spelled with letters, digits and hyphens only. What is in front of the last hyphen stands for
itself; what follows says where, and which, other characters are put in: numbers of variable length,
each a step from the place and the character before.
-/

namespace EnvScout.Domain.Punycode

/-- Sums and weights stay below this. -/
def wordLimit : Nat := Nat.pow 2 32

/-- The value of a digit: the letters come before the numerals. -/
def digit? (c : Char) : Option Nat :=
  if 'a' ≤ c && c ≤ 'z' then some (c.toNat - 'a'.toNat)
  else if 'A' ≤ c && c ≤ 'Z' then some (c.toNat - 'A'.toNat)
  else if c.isDigit then some (c.toNat - '0'.toNat + 26)
  else none

/-- A digit below the threshold of its place is the last one of a number. -/
def threshold (place bias : Nat) : Nat :=
  if place ≤ bias then 1 else if bias + 26 ≤ place then 26 else place - bias

/-- Reads a number and adds it to `sum`; the rest of the digits comes along. -/
def readNumber? (bias place weight sum : Nat) : List Char → Option (Nat × List Char)
  | [] => none
  | c :: cs =>
    match digit? c with
    | none => none
    | some digit =>
      let limit := threshold place bias
      let sum := sum + digit * weight
      if wordLimit ≤ sum then none
      else if digit < limit then some (sum, cs)
      else if wordLimit ≤ weight * (36 - limit) then none
      else readNumber? bias (place + 36) (weight * (36 - limit)) sum cs

theorem length_of_readNumber? {bias place weight sum : Nat} {cs : List Char}
    {result : Nat × List Char} (h : readNumber? bias place weight sum cs = some result) :
    result.2.length < cs.length := by
  induction cs generalizing place weight sum with
  | nil => simp [readNumber?] at h
  | cons c cs ih =>
    unfold readNumber? at h
    split at h
    · simp at h
    · dsimp only at h
      split at h
      · simp at h
      · split at h
        · simp only [Option.some.injEq] at h
          subst h
          simp
        · split at h
          · simp at h
          · exact Nat.lt_trans (ih h) (by simp)

/-- Divides a distance until it is small, and counts 36 for each division. -/
def shrink (distance place : Nat) : Nat × Nat :=
  if 455 < distance then shrink (distance / 35) (place + 36) else (distance, place)
termination_by distance
decreasing_by exact Nat.div_lt_self (by omega) (by omega)

/-- The bias for the next number, from the step just taken in a text of `count` characters. -/
def adapt (step count : Nat) (isFirst : Bool) : Nat :=
  let start := if isFirst then step / 700 else step / 2
  let (distance, place) := shrink (start + start / count) 0
  place + 36 * distance / (distance + 38)

/-- Puts characters into `text` as the digits say. The last one was put in just before `place`, and
its number was `number`. -/
def insertFrom (bias number place : Nat) (text : List Char) : List Char → Option (List Char)
  | [] => some text
  | c :: cs =>
    match _h : readNumber? bias 36 1 place (c :: cs) with
    | none => none
    | some (sum, rest) =>
      let count := text.length + 1
      let next := number + sum / count
      if next.isValidChar then
        insertFrom (adapt (sum - place) count (place == 0)) next (sum % count + 1)
          (text.insertIdx (sum % count) (Char.ofNat next)) rest
      else none
termination_by digits => digits.length
decreasing_by
  have := length_of_readNumber? _h
  simpa using this

/-- What is in front of the last hyphen and what follows it. A hyphen at the very front parts
nothing. -/
def cutAtHyphen (cs : List Char) : List Char × List Char :=
  let digits := (cs.reverse.takeWhile fun c => c != '-').reverse
  let front := cs.take (cs.length - digits.length - 1)
  if front.isEmpty then ([], cs) else (front, digits)

/-- The characters a label stands for. -/
def decode? (cs : List Char) : Option (List Char) :=
  let (front, digits) := cutAtHyphen cs
  insertFrom 72 128 0 front digits

end EnvScout.Domain.Punycode
