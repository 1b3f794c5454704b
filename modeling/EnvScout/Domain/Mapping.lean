import EnvScout.Domain.MappingTable
import EnvScout.Text.Composition
import EnvScout.Text.Marks
import EnvScout.Text.Quoted

/-!
One spelling for all the ways a domain name can be written. Letters in other clothes, capitals among
them, are replaced; characters that only guide the layout vanish; and in the end everything is put
together from its parts.
-/

namespace EnvScout.Domain

open MappingTable

/-- What becomes of a character in a domain name. -/
inductive Fate where
  | kept
  | replaced (cs : List Char)
  | barred
  deriving DecidableEq

/-- The two signs that join letters or keep them apart. -/
def isJoiner (c : Char) : Bool :=
  c == '\u200C' || c == '\u200D'

/-- Whether no name may have the character, in whatever form. -/
def isBarred (c : Char) : Bool :=
  Text.within barredRanges c || !(c.toNat < 0x80 || isJoiner c || Text.isPrintable c)

def fate (c : Char) : Fate :=
  match Text.moved? shifts c with
  | some d => .replaced [d]
  | none =>
    match Text.rowOf? replacements c with
    | some cs => .replaced cs
    | none =>
      if Text.within ignoredRanges c then .replaced []
      else if isBarred c then .barred
      else .kept

/-- The characters that stand for a text, none if one of them is barred. -/
def respell? : List Char → Option (List Char)
  | [] => some []
  | c :: cs =>
    match fate c with
    | .kept => (respell? cs).map (c :: ·)
    | .replaced ds => (respell? cs).map (ds ++ ·)
    | .barred => none

/-- The spelling in which names are compared. -/
def normalized? (cs : List Char) : Option (List Char) :=
  (respell? cs).map Text.composed

/-- Whether a text already is in the spelling in which names are compared. -/
def isNormalized (cs : List Char) : Bool :=
  (cs.all fun c => fate c = .kept) && Text.composed cs = cs

end EnvScout.Domain
