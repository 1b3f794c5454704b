import EnvScout.Domain.Label

/-!
Domain names. A name is brought into one spelling, cut at its dots, and valid if each of its labels
is; labels written from the right put all labels under the rules of direction.
-/

namespace EnvScout.Domain

/-- The labels of a name, none if it is not valid. -/
def labels? (name : List Char) : Option (List Label) :=
  match normalized? name with
  | none => none
  | some cs =>
    match (Text.splitOn '.' cs).mapM Label.read? with
    | none => none
    | some labels =>
      let turns := labels.any fun label => label.meaning.any Label.turns
      if labels.all Label.isValid && (!turns || labels.all Label.isDirected) then some labels
      else none

/-- A valid name in the one spelling. -/
def spelling? (name : List Char) : Option (List Char) :=
  (labels? name).map fun labels => Text.joinWith '.' (labels.map Label.written)

end EnvScout.Domain
