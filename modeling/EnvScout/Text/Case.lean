import EnvScout.Text.CaseTable

/-!
Lower-casing of whole texts. Each character has its own lower case, with one exception that looks at
the neighbours: a capital sigma that ends a word becomes the final form of the letter.
-/

namespace EnvScout.Text

open CaseTable

def isCased (c : Char) : Bool :=
  within casedRanges c

def isCaseIgnorable (c : Char) : Bool :=
  within ignorableRanges c

/-- The lower case of one character, whatever stands around it. -/
def lowerChar (c : Char) : List Char :=
  if c = 'İ' then ['i', '\u0307']
  else [(moved? lowerShifts c).getD c]

/-- Whether the first character that counts is a letter with a case. -/
def beginsCased (cs : List Char) : Bool :=
  match cs.dropWhile isCaseIgnorable with
  | [] => false
  | c :: _ => isCased c

/-- Lower-cases a text that stands after `before`, which is given back to front. -/
def lowerAfter (before : List Char) : List Char → List Char
  | [] => []
  | c :: cs =>
    (if c = 'Σ' then [if beginsCased before && !beginsCased cs then 'ς' else 'σ']
      else lowerChar c) ++ lowerAfter (c :: before) cs

def lower (cs : List Char) : List Char :=
  lowerAfter [] cs

def lowered (s : String) : String :=
  String.ofList (lower s.toList)

/-- Lower-cases the letters A to Z alone. -/
def asciiLowered (s : String) : String :=
  String.ofList (s.toList.map Char.toLower)

@[simp] theorem lower_nil : lower [] = [] := rfl

end EnvScout.Text
