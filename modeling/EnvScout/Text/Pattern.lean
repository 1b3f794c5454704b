import EnvScout.Text.Blank

/-!
Small line patterns with one marked part. A pattern is tried at each place of a text from the left,
and at a place its runs are tried in their order of preference, longest or shortest first; the first
way that fits decides what the marked part is.
-/

namespace EnvScout.Text

/-- A step of a pattern. -/
inductive Step where
  | char (c : Char)
  /-- The beginning of the text or of a line. -/
  | lineStart
  /-- The end of the text or of a line. -/
  | lineEnd
  /-- Any number of characters of a class. -/
  | run (among : Char → Bool) (longest marked : Bool)

abbrev Pattern := List Step

namespace Pattern

/-- The lengths a run may take, most preferred first. -/
def lengths (longest : Bool) (most : Nat) : List Nat :=
  if longest then (List.range (most + 1)).reverse else List.range (most + 1)

/-- The character before the rest of a text once `n` more characters have been passed. -/
def before (previous : Option Char) (cs : List Char) (n : Nat) : Option Char :=
  (cs.take n).getLast?.or previous

/-- The marked part if the pattern fits at this place; `previous` is the character in front. -/
def matchHere : Pattern → Option Char → List Char → Option (List Char)
  | [], _, _ => some []
  | .char _ :: _, _, [] => none
  | .char c :: steps, _, d :: cs => if c = d then matchHere steps (some d) cs else none
  | .lineStart :: steps, previous, cs =>
    if previous = none ∨ previous = some '\n' then matchHere steps previous cs else none
  | .lineEnd :: steps, previous, cs =>
    if cs.head? = none ∨ cs.head? = some '\n' then matchHere steps previous cs else none
  | .run among longest marked :: steps, previous, cs =>
    (lengths longest (cs.takeWhile among).length).findSome? fun n =>
      (matchHere steps (before previous cs n) (cs.drop n)).map fun part =>
        if marked then cs.take n ++ part else part

/-- The marked part at the first place where the pattern fits. -/
def search (pattern : Pattern) : Option Char → List Char → Option (List Char)
  | previous, [] => pattern.matchHere previous []
  | previous, c :: cs =>
    match pattern.matchHere previous (c :: cs) with
    | some part => some part
    | none => pattern.search (some c) cs

end Pattern

end EnvScout.Text
