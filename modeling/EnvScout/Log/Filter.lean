import EnvScout.Log.Directive
import EnvScout.Log.Event

/-!
Which events are reported at all. A filter is a list of directives, separated by commas; each of
them lets a level through, for everything or for the targets that begin with a given text. Of the
directives that concern an event the most specific one decides. A directive that cannot be read is
left out, and where none is left everything down to the debug level is let through.
-/

namespace EnvScout.Log

namespace Directive

/-- Whether a directive is about an event. -/
def concerns (directive : Directive) (event : Event) : Bool :=
  (match directive.target with
    | some target => target.toList.isPrefixOf event.target.toList
    | none => true) &&
    directive.fields.all fun name => event.fields.any fun field => field.name == name

def targetLength (directive : Directive) : Nat :=
  match directive.target with
  | some target => target.utf8ByteSize + 1
  | none => 0

/-- How specific directives are: by the length of their targets, then by how many fields they ask
for, and then, so that no two differ in vain, by the order of the texts. -/
def order (a b : Directive) : Ordering :=
  (compare a.targetLength b.targetLength).then <|
    (compare a.fields.length b.fields.length).then <|
      (compare (a.target.getD "") (b.target.getD "")).then <| compare a.fields b.fields

end Directive

structure Filter where
  directives : List Directive
  deriving DecidableEq

namespace Filter

def standard : Directive :=
  ⟨none, false, [], 4⟩

/-- The filter a text gives. -/
def ofText (text : String) : Filter :=
  let pieces := (Text.splitOn ',' text.toList).filter fun piece => !piece.isEmpty
  match pieces.filterMap Directive.read? with
  | [] => ⟨[standard]⟩
  | directives => ⟨directives⟩

/-- The more specific of two directives, the later one if there is no difference. -/
def prefer (best : Option Directive) (directive : Directive) : Option Directive :=
  match best with
  | none => some directive
  | some other => if directive.order other = .lt then some other else some directive

/-- The directive that decides on an event. -/
def decisive? (filter : Filter) (event : Event) : Option Directive :=
  (filter.directives.filter fun directive =>
    !directive.inSpan && directive.concerns event).foldl prefer none

def allows (filter : Filter) (event : Event) : Bool :=
  match filter.decisive? event with
  | some directive => event.level.rank ≤ directive.limit
  | none => false

end Filter

end EnvScout.Log
