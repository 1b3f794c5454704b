import EnvScout.Log.ValuePattern
import EnvScout.Text.Blank
import EnvScout.Text.Case
import EnvScout.Text.LetterTable
import EnvScout.Text.Split

/-!
Directives of a filter: what events they are about, and how chatty these may be. The full form is
`target[span{field=value}]=level`, of which most parts may be left out; a word that stands
alone is a level if it names one and a target otherwise.
-/

namespace EnvScout.Log

/-- A directive; its limit is the highest rank it lets through. -/
structure Directive where
  target : Option String
  /-- Whether it asks for a span by name or a field by value, which no event here answers. -/
  inSpan : Bool
  /-- Fields an event has to have. -/
  fields : List String
  limit : Nat
  deriving DecidableEq

namespace Directive

def digitsLimit? (cs : List Char) : Option Nat :=
  let digits := if cs.head? = some '+' then cs.drop 1 else cs
  if digits.isEmpty || !digits.all Char.isDigit then none
  else
    let n := digits.foldl (fun n c => 10 * n + (c.toNat - '0'.toNat)) 0
    if n ≤ 5 then some n else none

/-- The limit of a level, given by number or by name in any letter case. -/
def limit? (word : String) : Option Nat :=
  match digitsLimit? word.toList with
  | some n => some n
  | none =>
    match Text.asciiLowered word with
    | "off" => some 0
    | "error" => some 1
    | "warn" => some 2
    | "info" => some 3
    | "debug" => some 4
    | "trace" => some 5
    | _ => none

def allLimit : Nat := 5

/-- What may begin a target or a level. -/
def beginsWord (c : Char) : Bool :=
  c == '-' || c == ':' || c == '_' || Text.within Text.LetterTable.letterOrNumberRanges c

/-- How far a directive has been read; a number is the place where the part at hand begins. -/
inductive Stage where
  | start
  /-- In a word that is the target, or else the level. -/
  | word (first : Nat)
  | span (first : Nat)
  | field (first : Nat)
  | behindField
  | behindSpan
  | level (first : Nat)
  deriving DecidableEq

structure Reading where
  directive : Directive
  stage : Stage

def Reading.fresh : Reading :=
  ⟨⟨none, false, [], allLimit⟩, .start⟩

/-- The bytes of a text from one place up to another, as a text. -/
def cut? (text : ByteArray) (first last : Nat) : Option String :=
  String.fromUTF8? (text.extract first last)

/-- Takes in what stands in the braces: the name of a field, and perhaps a value that it is asked
for. -/
def addField? (directive : Directive) (text : String) : Option Directive :=
  match Text.splitOn '=' text.toList with
  | [[]] => none
  | [name] => some { directive with fields := directive.fields ++ [String.ofList name] }
  | name :: value :: _ =>
    if ValuePattern.isValue value then
      some { directive with inSpan := true, fields := directive.fields ++ [String.ofList name] }
    else none
  | [] => none

/-- Takes in the character at a place. The parts are cut out of `text`, which may have white space
in front that the places do not count; each part is then cut that much too early. -/
def Reading.step? (text : ByteArray) (reading : Reading) (place : Nat) (c : Char) :
    Option Reading :=
  let directive := reading.directive
  match reading.stage with
  | .start =>
    if c = '[' then some ⟨directive, .span (place + 1)⟩
    else if beginsWord c then some ⟨directive, .word place⟩
    else none
  | .word first =>
    if c = '=' then
      (cut? text first place).map fun target =>
        ⟨{ directive with target := some target }, .level (place + 1)⟩
    else if c = '[' then
      (cut? text first place).map fun target =>
        ⟨{ directive with target := some target }, .span (place + 1)⟩
    else some reading
  | .span first =>
    if c = ']' then
      (cut? text first place).map fun _ => ⟨{ directive with inSpan := true }, .behindSpan⟩
    else if c = '{' then
      (cut? text first place).map fun name =>
        ⟨{ directive with inSpan := !name.isEmpty }, .field (place + 1)⟩
    else some reading
  | .field first =>
    if c = '}' then
      ((cut? text first place).bind directive.addField?).map fun directive =>
        ⟨directive, .behindField⟩
    else some reading
  | .behindField => if c = ']' then some ⟨directive, .behindSpan⟩ else none
  | .behindSpan => if c = '=' then some ⟨directive, .level (place + 1)⟩ else none
  | .level _ => some reading

/-- Reads on from a place. -/
def Reading.stepAll? (text : ByteArray) : Reading → Nat → List Char → Option Reading
  | reading, _, [] => some reading
  | reading, place, c :: cs =>
    (reading.step? text place c).bind fun next => next.stepAll? text (place + c.utf8Size) cs

/-- The directive that has been read when the text ends. -/
def Reading.finish? (text : ByteArray) (reading : Reading) : Option Directive :=
  let directive := reading.directive
  match reading.stage with
  | .word first =>
    (cut? text first text.size).map fun word =>
      match limit? word with
      | some limit => { directive with limit := limit }
      | none => { directive with target := some word }
  | .level first =>
    (cut? text first text.size).bind fun word =>
      if word = "" then some directive
      else (limit? word).map fun limit => { directive with limit := limit }
  | .behindSpan => some directive
  | _ => none

/-- Reads one directive. White space around it does not count when its marks are found. -/
def read? (text : List Char) : Option Directive :=
  let bytes := (String.ofList text).toUTF8
  (Reading.fresh.stepAll? bytes 0 (Text.trim text)).bind (Reading.finish? bytes)

end Directive

end EnvScout.Log
