import EnvScout.Log.Filter
import EnvScout.Log.RepeatFilter
import EnvScout.Text.Quoted

/-!
The lines that events are written as. The main log has every event that is let through, with its
fields in the order they were recorded. The warnings log has warnings and errors only, each message
with its sentence in front, and without repeats.
-/

namespace EnvScout.Log

def Value.written : Value → String
  | .text s => s
  | .shown s => s

/-- Adds a field to a message: the sentence goes in front, other fields behind by name and value. -/
def pushField (message : String) (field : Field) : String :=
  if field.name = "message" then
    if message = "" then field.value.written else field.value.written ++ " " ++ message
  else if message = "" then field.name ++ "=" ++ field.value.written
  else message ++ " " ++ field.name ++ "=" ++ field.value.written

/-- The message of an event: the sentence and then the other fields. -/
def messageOf (fields : List Field) : String :=
  fields.foldl pushField ""

/-- A line of the warnings log; `stamp` is the time in writing. -/
def warningLine (stamp : String) (level : Level) (target message : String) (dropped : Nat) :
    String :=
  stamp ++ " " ++ level.name ++ " " ++ target ++ ": " ++ message ++
    if dropped > 0 then " (" ++ toString dropped ++ " repeats dropped)" else ""

/-- Whether an event belongs into the warnings log. -/
def isWarning (event : Event) : Bool :=
  event.level.rank ≤ Level.warn.rank

/-- The lines of events, each with the time it happened, that pass a repeat filter. -/
def warningLines (stamp : String) : RepeatFilter → List (Nat × Event) → List String
  | _, [] => []
  | filter, (now, event) :: rest =>
    let message := messageOf event.fields
    let (decision, next) := filter.decide message now
    match decision with
    | some dropped =>
      warningLine stamp event.level event.target message dropped :: warningLines stamp next rest
    | none => warningLines stamp next rest

/-- What the warnings log receives of the events. -/
def warningLog (filter : Filter) (stamp : String) (events : List (Nat × Event)) : List String :=
  warningLines stamp (.new RepeatFilter.standardWindow)
    (events.filter fun (_, event) => filter.allows event && isWarning event)

/-- In the sentences of the main log, characters that could steer a terminal are written as
escapes. -/
def tameChar (c : Char) : List Char :=
  if c = '\x1b' ∨ c = '\x07' ∨ c = '\x08' ∨ c = '\x0c' ∨ c = '\x7f' then
    ['\\', 'x'] ++ (if c.toNat < 0x10 then ['0'] else []) ++ Nat.toDigits 16 c.toNat
  else if 0x80 ≤ c.toNat ∧ c.toNat ≤ 0x9F then Text.numbered c
  else [c]

def tame (s : String) : String :=
  String.ofList (s.toList.flatMap tameChar)

/-- A field as the main log shows it. -/
def showField (field : Field) : String :=
  if field.name = "message" then tame field.value.written
  else
    field.name ++ "=" ++ match field.value with
      | .text s => Text.quoted s
      | .shown s => s

/-- A level with blanks in front, so that all are of one width. -/
def alignedLevel (level : Level) : String :=
  String.ofList (List.replicate (5 - level.name.length) ' ') ++ level.name

/-- An event as the main log has it; the sentence may run over several lines. -/
def mainLine (stamp : String) (event : Event) : String :=
  stamp ++ " " ++ alignedLevel event.level ++ " " ++ event.target ++ ": " ++
    " ".intercalate (event.fields.map showField)

/-- What the main log receives of the events. -/
def mainLog (filter : Filter) (stamp : String) (events : List Event) : List String :=
  (events.filter filter.allows).flatMap fun event =>
    (Text.lines (mainLine stamp event ++ "\n").toList).map String.ofList

end EnvScout.Log
