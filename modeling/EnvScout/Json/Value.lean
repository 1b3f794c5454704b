/-!
JSON values and their text. Members of an object keep their order; setting a member that is there
changes it in place. A number is kept as it is written. Text comes in a compact form and in one with
a line for each item.
-/

namespace EnvScout

inductive Json where
  | null
  | bool (value : Bool)
  | number (literal : String)
  | string (value : String)
  | array (items : List Json)
  | object (members : List (String × Json))

namespace Json

/-- The members with one of them set. -/
def setMember (key : String) (value : Json) : List (String × Json) → List (String × Json)
  | [] => [(key, value)]
  | member :: rest =>
    if member.1 = key then (key, value) :: rest else member :: setMember key value rest

def ofStrings (items : List String) : Json :=
  .array (items.map .string)

def ofOption (value : Option String) : Json :=
  match value with
  | some text => .string text
  | none => .null

def string? : Json → Option String
  | .string value => some value
  | _ => none

/-- A four-digit escape. -/
def hexEscape (n : Nat) : List Char :=
  let digits := Nat.toDigits 16 n
  ['\\', 'u'] ++ List.replicate (4 - digits.length) '0' ++ digits

def escapeChar (c : Char) : List Char :=
  match c with
  | '"' => ['\\', '"']
  | '\\' => ['\\', '\\']
  | '\x08' => ['\\', 'b']
  | '\x0c' => ['\\', 'f']
  | '\n' => ['\\', 'n']
  | '\r' => ['\\', 'r']
  | '\t' => ['\\', 't']
  | c => if c.toNat < 0x20 then hexEscape c.toNat else [c]

def writeString (s : String) : List Char :=
  ['"'] ++ s.toList.flatMap escapeChar ++ ['"']

mutual

/-- The compact text of a value. -/
def write : Json → List Char
  | .null => ['n', 'u', 'l', 'l']
  | .bool true => ['t', 'r', 'u', 'e']
  | .bool false => ['f', 'a', 'l', 's', 'e']
  | .number literal => literal.toList
  | .string value => writeString value
  | .array items => ['['] ++ writeItems items ++ [']']
  | .object members => ['{'] ++ writeMembers members ++ ['}']

def writeItems : List Json → List Char
  | [] => []
  | [item] => write item
  | item :: rest => write item ++ [','] ++ writeItems rest

def writeMembers : List (String × Json) → List Char
  | [] => []
  | [(key, value)] => writeString key ++ [':'] ++ write value
  | (key, value) :: rest =>
    writeString key ++ [':'] ++ write value ++ [','] ++ writeMembers rest

end

def text (value : Json) : String :=
  String.ofList value.write

def newline (depth : Nat) : List Char :=
  '\n' :: List.replicate (2 * depth) ' '

mutual

/-- The text of a value that stands `depth` levels deep, with each item on a line of its own. -/
def layOut (depth : Nat) : Json → List Char
  | .array (item :: rest) =>
    ['['] ++ newline (depth + 1) ++ layOutItems (depth + 1) (item :: rest) ++ newline depth ++ [']']
  | .object (member :: rest) =>
    ['{'] ++ newline (depth + 1) ++ layOutMembers (depth + 1) (member :: rest) ++ newline depth ++
      ['}']
  | .array [] => ['[', ']']
  | .object [] => ['{', '}']
  | .null => ['n', 'u', 'l', 'l']
  | .bool true => ['t', 'r', 'u', 'e']
  | .bool false => ['f', 'a', 'l', 's', 'e']
  | .number literal => literal.toList
  | .string value => writeString value

def layOutItems (depth : Nat) : List Json → List Char
  | [] => []
  | [item] => layOut depth item
  | item :: rest => layOut depth item ++ [','] ++ newline depth ++ layOutItems depth rest

def layOutMembers (depth : Nat) : List (String × Json) → List Char
  | [] => []
  | [(key, value)] => writeString key ++ [':', ' '] ++ layOut depth value
  | (key, value) :: rest =>
    writeString key ++ [':', ' '] ++ layOut depth value ++ [','] ++ newline depth ++
      layOutMembers depth rest

end

def prettyText (value : Json) : String :=
  String.ofList (layOut 0 value)

end Json

end EnvScout
