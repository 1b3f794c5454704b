/-!
Searching a text for another one: where it first occurs, and putting something else in its place.
Occurrences are taken from the left and do not overlap.
-/

namespace EnvScout.Text

/-- The text around the first occurrence of `pattern`. -/
def cutAt (pattern : List Char) : List Char → Option (List Char × List Char)
  | [] => if pattern = [] then some ([], []) else none
  | c :: cs =>
    if pattern.isPrefixOf (c :: cs) then some ([], (c :: cs).drop pattern.length)
    else (cutAt pattern cs).map fun (before, after) => (c :: before, after)

/-- Replaces every occurrence of a pattern, which is not empty. The number says how many characters
of an occurrence are still to be passed over. -/
def replaceFrom (pattern new : List Char) : Nat → List Char → List Char
  | _, [] => []
  | skip + 1, _ :: cs => replaceFrom pattern new skip cs
  | 0, c :: cs =>
    if pattern.isPrefixOf (c :: cs) then new ++ replaceFrom pattern new (pattern.length - 1) cs
    else c :: replaceFrom pattern new 0 cs

def replace (pattern new cs : List Char) : List Char :=
  replaceFrom pattern new 0 cs

end EnvScout.Text
