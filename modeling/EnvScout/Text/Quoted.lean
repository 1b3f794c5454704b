import EnvScout.Text.Marks
import EnvScout.Text.PrintTable
import EnvScout.Text.Utf8

/-!
The quoted form in which messages show a text: between double quotes, with line breaks, tabs, quotes
and backslashes escaped, and every character that would not show in print written as its number.
-/

namespace EnvScout.Text

open PrintTable

def isPrintable (c : Char) : Bool :=
  within printableRanges c

/-- A character by its number, as `\u` and lower-case hexadecimal digits in braces. -/
def numbered (c : Char) : List Char :=
  ['\\', 'u', '{'] ++ Nat.toDigits 16 c.toNat ++ ['}']

def quoteChar (c : Char) : List Char :=
  match c with
  | '\x00' => ['\\', '0']
  | '\t' => ['\\', 't']
  | '\r' => ['\\', 'r']
  | '\n' => ['\\', 'n']
  | '"' => ['\\', '"']
  | '\\' => ['\\', '\\']
  | c => if isPrintable c && !isExtending c then [c] else numbered c

def quoted (s : String) : String :=
  String.ofList (['"'] ++ s.toList.flatMap quoteChar ++ ['"'])

/-- In the quoted form of a path a single quote is escaped too. -/
def quotePathChar (c : Char) : List Char :=
  if c = '\'' then ['\\', c] else quoteChar c

/-- A byte by its number in two hexadecimal digits. -/
def quoteByte (b : UInt8) : List Char :=
  ['\\', 'x', (Nat.digitChar (b.toNat / 16)).toUpper, (Nat.digitChar (b.toNat % 16)).toUpper]

def quotePathPart : Utf8.Part → List Char
  | .char c => quotePathChar c
  | .broken bytes => bytes.flatMap quoteByte

/-- The quoted form of a path, from the bytes kept of it. -/
def quotedPath (s : String) : String :=
  String.ofList (['"'] ++ (Utf8.partsFrom none (Utf8.kept s)).flatMap quotePathPart ++ ['"'])

end EnvScout.Text
