import EnvScout.Shell.Image
import EnvScout.Shell.Script

/-!
Expanding words: parameters become their values, scripts in words become what they print, and what
was not quoted is cut into words of its own at white space. How a script is run is left open here; a
runner is handed in.
-/

namespace EnvScout.Shell

/-- Something that runs a script. -/
abbrev Runner := Script → State → State

namespace State

/-- The text of a parameter. -/
def parameter (s : State) (name : String) : String :=
  match name with
  | "#" => toString s.arguments.length
  | "?" => toString s.status
  | "$" => toString s.number
  | "0" => s.name
  | "@" => " ".intercalate s.arguments
  | "*" => " ".intercalate s.arguments
  | name =>
    match name.toNat? with
    | some n => (s.arguments[n - 1]?).getD ""
    | none => (s.lookup? name).getD ""

/-- The text of what stands in braces: a parameter, its length, or a parameter with a substitute for
when it is empty. -/
def braced (s : State) (content : String) : String :=
  let chars := content.toList
  let name := chars.takeWhile Token.isNameChar
  let value := s.parameter (String.ofList name)
  match name, chars.drop name.length with
  | _ :: _, ':' :: '-' :: other => if value = "" then String.ofList other else value
  | _ :: _, '-' :: other =>
    if (s.lookup? (String.ofList name)).isSome then value else String.ofList other
  | _ :: _, ':' :: '+' :: other => if value = "" then "" else String.ofList other
  | [], '#' :: c :: rest => toString (s.parameter (String.ofList (c :: rest))).length
  | _, _ => s.parameter content

end State

/-- The words that come out of an expansion, the last one still open. -/
structure Fields where
  closed : List String
  current : Option (List Char)

namespace Fields

def add (fields : Fields) (chars : List Char) : Fields :=
  { fields with current := some (fields.current.getD [] ++ chars) }

def close (fields : Fields) : Fields :=
  match fields.current with
  | some chars => ⟨fields.closed ++ [String.ofList chars], none⟩
  | none => fields

/-- Adds a text that white space cuts into words. -/
def split (fields : Fields) (chars : List Char) : Fields :=
  chars.foldl (fun fields c =>
    if c = ' ' ∨ c = '\t' ∨ c = '\n' then fields.close else fields.add [c]) fields

/-- Adds several words, the first one joined to what is open. -/
def addAll (fields : Fields) : List String → Fields
  | [] => fields
  | [word] => fields.add word.toList
  | word :: rest => (fields.add word.toList).close.addAll rest

def words (fields : Fields) : List String :=
  fields.close.closed

end Fields

namespace Formula

/-- A number or a variable at the front of a formula, or a formula in brackets. -/
def operand (s : State) (inner : List Char → Int × List Char) : List Char → Int × List Char
  | '(' :: rest =>
    let (value, rest) := inner rest
    (value, rest.drop 1)
  | '-' :: rest =>
    let (value, rest) := number rest
    (-value, rest)
  | rest => number rest
where
  number (cs : List Char) : Int × List Char :=
    let name := cs.takeWhile Token.isNameChar
    let text := String.ofList name
    ((text.toInt?.getD ((s.parameter text).toInt?.getD 0)), cs.drop name.length)

/-- Goes on from a value with the operators that bind at least as tightly as `sums` says. -/
def chain (s : State) : Nat → Bool → Int → List Char → Int × List Char
  | 0, _, value, cs => (value, cs)
  | n + 1, sums, value, cs =>
    let inner (cs : List Char) : Int × List Char :=
      let (value, cs) := operand s (fun cs => (0, cs)) cs
      chain s n true value cs
    match cs with
    | '*' :: rest =>
      let (other, rest) := operand s inner rest
      chain s n sums (value * other) rest
    | '/' :: rest =>
      let (other, rest) := operand s inner rest
      chain s n sums (value.tdiv other) rest
    | '%' :: rest =>
      let (other, rest) := operand s inner rest
      chain s n sums (value.tmod other) rest
    | '+' :: rest =>
      if sums then
        let (other, rest) := operand s inner rest
        let (other, rest) := chain s n false other rest
        chain s n sums (value + other) rest
      else (value, cs)
    | '-' :: rest =>
      if sums then
        let (other, rest) := operand s inner rest
        let (other, rest) := chain s n false other rest
        chain s n sums (value - other) rest
      else (value, cs)
    | cs => (value, cs)

/-- The value of a formula. -/
def value (s : State) (formula : List Char) : Int :=
  let cs := formula.filter fun c => c != ' ' && c != '$' && c != '\n'
  let inner (cs : List Char) : Int × List Char :=
    let (first, cs) := operand s (fun cs => (0, cs)) cs
    chain s cs.length true first cs
  let (first, cs) := operand s inner cs
  (chain s cs.length true first cs).1

end Formula

section

variable (run : Runner)

/-- Runs the text of a script. -/
def runText (text : List Char) (s : State) : State :=
  match Script.ofText? text with
  | some script => run script s
  | none => (s.complain (s.name ++ ": 1: Syntax error") 2).stop (.exit 2)

/-- What a script prints, without the newlines at its end. -/
def capture (script : List Char) (s : State) : String × State :=
  let (bytes, child) := (runText run script s.openBuffer).closeBuffer
  let text := Text.Utf8.keepAll bytes
  let kept := (text.toList.reverse.dropWhile fun c => c == '\n').reverse
  (String.ofList kept, s.resume child)

def expandPiece (piece : Piece) (fields : Fields) (s : State) : Fields × State :=
  match piece with
  | .text chars quoted => (if quoted || chars != [] then fields.add chars else fields, s)
  | .parameter "@" true => (fields.addAll s.arguments, s)
  | .parameter name true => (fields.add (s.braced name).toList, s)
  | .parameter name false => (fields.split (s.braced name).toList, s)
  | .output script quoted =>
    let (text, s) := capture run script s
    (if quoted then fields.add text.toList else fields.split text.toList, s)
  | .number formula => (fields.add (toString (Formula.value s formula)).toList, s)

/-- The words a word expands to. -/
def expandWord (w : Word) (s : State) : List String × State :=
  let (fields, s) := w.foldl
    (fun (fields, s) piece => expandPiece run piece fields s) (⟨[], none⟩, s)
  (fields.words, s)

def expandWords : List Word → State → List String × State
  | [], s => ([], s)
  | w :: rest, s =>
    let (words, s) := expandWord run w s
    let (more, s) := expandWords rest s
    (words ++ more, s)

/-- A word as one text. -/
def expandText (w : Word) (s : State) : String × State :=
  let (words, s) := expandWord run w s
  (" ".intercalate words, s)

def assignAll : List (String × Word) → State → State
  | [], s => s
  | (name, w) :: rest, s =>
    let (value, s) := expandText run (w.map asQuoted) s
    assignAll rest (s.assign name value)
where
  /-- The value of an assignment is not cut into words. -/
  asQuoted : Piece → Piece
    | .parameter name _ => .parameter (if name = "@" then "*" else name) true
    | .output script _ => .output script true
    | piece => piece

end

end EnvScout.Shell
