/-!
White space in the sense of Unicode's White_Space property, and the texts left when it is taken
off the ends. Trimming is worked out on lists of characters; `trimmed` and `trimmedRight` are the
same on strings.
-/

namespace EnvScout.Text

/-- Tabs and line breaks, the space, and the blanks of typography. -/
def isBlank (c : Char) : Bool :=
  let n := c.toNat
  (9 ≤ n && n ≤ 13) || n == 0x20 || n == 0x85 || n == 0xA0 || n == 0x1680 ||
    (0x2000 ≤ n && n ≤ 0x200A) || n == 0x2028 || n == 0x2029 || n == 0x202F || n == 0x205F ||
    n == 0x3000

def trimLeft (cs : List Char) : List Char :=
  cs.dropWhile isBlank

def trimRight (cs : List Char) : List Char :=
  (cs.reverse.dropWhile isBlank).reverse

def trim (cs : List Char) : List Char :=
  trimRight (trimLeft cs)

def trimmed (s : String) : String :=
  String.ofList (trim s.toList)

def trimmedRight (s : String) : String :=
  String.ofList (trimRight s.toList)

/-- A text is blank when nothing but white space is in it. -/
def isBlankText (s : String) : Bool :=
  s.toList.all isBlank

@[simp] theorem trimLeft_nil : trimLeft [] = [] := rfl

@[simp] theorem trimRight_nil : trimRight [] = [] := rfl

@[simp] theorem trim_nil : trim [] = [] := rfl

theorem trimLeft_cons_of_not_blank {c : Char} (h : isBlank c = false) (cs : List Char) :
    trimLeft (c :: cs) = c :: cs := by
  simp [trimLeft, h]

theorem trimRight_append_of_not_blank {c : Char} (h : isBlank c = false) (cs : List Char) :
    trimRight (cs ++ [c]) = cs ++ [c] := by
  simp [trimRight, h]

end EnvScout.Text
