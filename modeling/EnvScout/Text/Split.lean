/-!
Cutting a text at a character. The pieces keep everything but the separators, so there is always one
more piece than there are separators, and a text is its pieces put back together.
-/

namespace EnvScout.Text

/-- The pieces between the occurrences of `sep`. -/
def splitOn (sep : Char) : List Char → List (List Char)
  | [] => [[]]
  | c :: cs =>
    if c = sep then [] :: splitOn sep cs
    else match splitOn sep cs with
      | [] => [[c]]
      | piece :: rest => (c :: piece) :: rest

/-- The pieces with `sep` between each two of them. -/
def joinWith (sep : Char) : List (List Char) → List Char
  | [] => []
  | [piece] => piece
  | piece :: rest => piece ++ sep :: joinWith sep rest

theorem splitOn_ne_nil (sep : Char) (cs : List Char) : splitOn sep cs ≠ [] := by
  cases cs with
  | nil => simp [splitOn]
  | cons c cs =>
    simp only [splitOn]
    split
    · simp
    · split <;> simp

@[simp] theorem splitOn_nil (sep : Char) : splitOn sep [] = [[]] := rfl

theorem splitOn_cons_self (sep : Char) (cs : List Char) :
    splitOn sep (sep :: cs) = [] :: splitOn sep cs := by
  simp [splitOn]

theorem splitOn_cons_of_ne {sep c : Char} (h : c ≠ sep) {cs piece : List Char}
    {rest : List (List Char)} (hs : splitOn sep cs = piece :: rest) :
    splitOn sep (c :: cs) = (c :: piece) :: rest := by
  simp [splitOn, h, hs]

theorem joinWith_splitOn (sep : Char) (cs : List Char) : joinWith sep (splitOn sep cs) = cs := by
  induction cs with
  | nil => rfl
  | cons c cs ih =>
    cases hs : splitOn sep cs with
    | nil => exact absurd hs (splitOn_ne_nil sep cs)
    | cons piece rest =>
      by_cases h : c = sep
      · subst h
        rw [splitOn_cons_self, hs]
        simp [joinWith, ← hs, ih]
      · rw [splitOn_cons_of_ne h hs]
        cases rest with
        | nil => simpa [joinWith, hs] using ih
        | cons next rest => simpa [joinWith, hs] using ih

/-- The lines of a text: a line ends at a newline, a carriage return just before it goes with it,
and what follows the last newline is a line of its own unless it is empty. -/
def lines (text : List Char) : List (List Char) :=
  let pieces := splitOn '\n' text
  pieces.dropLast.map dropReturn ++ (pieces.getLast?.toList.filter fun last => !last.isEmpty)
where
  dropReturn (line : List Char) : List Char :=
    if line.getLast? = some '\r' then line.dropLast else line

end EnvScout.Text
