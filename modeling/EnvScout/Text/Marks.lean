import EnvScout.Text.MarkTable
import EnvScout.Text.Ranges

/-!
Kinds of marks.
-/

namespace EnvScout.Text

open MarkTable

/-- Whether a character is a mark that takes no room of its own. -/
def isNonspacing (c : Char) : Bool :=
  within nonspacingRanges c

def isMark (c : Char) : Bool :=
  isNonspacing c || within spacingRanges c

/-- Whether a character is a mark that is drawn as a part of the character before it. -/
def isExtending (c : Char) : Bool :=
  isNonspacing c || within extendingSpacingRanges c

end EnvScout.Text
