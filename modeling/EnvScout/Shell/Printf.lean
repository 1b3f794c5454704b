import EnvScout.Shell.State

/-!
Formatted printing: escapes that stand for bytes, and directives that stand for arguments. A format
with directives is used again until all arguments are printed.
-/

namespace EnvScout.Shell.Printf

def isOctal (c : Char) : Bool :=
  '0' ≤ c && c ≤ '7'

def octalByte (digits : List Char) : UInt8 :=
  UInt8.ofNat (digits.foldl (fun n c => 8 * n + (c.toNat - '0'.toNat)) 0)

/-- The byte an escape of one letter stands for. -/
def letterByte? : Char → Option UInt8
  | 'a' => some 7
  | 'b' => some 8
  | 'f' => some 12
  | 'n' => some 10
  | 'r' => some 13
  | 't' => some 9
  | 'v' => some 11
  | '\\' => some 92
  | _ => none

/-- What follows a backslash: the bytes it stands for, and how many characters that takes. An octal
number has up to three digits, which a zero may precede where `leadingZero` is set. -/
def readEscape (leadingZero : Bool) (cs : List Char) : List UInt8 × Nat :=
  let zeros := if leadingZero && cs.head? == some '0' then 1 else 0
  let digits := ((cs.drop zeros).take 3).takeWhile isOctal
  match cs with
  | [] => ([92], 0)
  | c :: _ =>
    if zeros + digits.length > 0 then ([octalByte digits], zeros + digits.length)
    else match letterByte? c with
      | some b => ([b], 1)
      | none => (92 :: State.bytesOf (String.singleton c), 1)

/-- The bytes of a text with its escapes worked out. The number says how many characters are still
to be passed over. -/
def unescape (leadingZero : Bool) : Nat → List Char → List UInt8
  | _, [] => []
  | skip + 1, _ :: cs => unescape leadingZero skip cs
  | 0, c :: cs =>
    if c = '\\' then
      let (bytes, taken) := readEscape leadingZero cs
      bytes ++ unescape leadingZero taken cs
    else State.bytesOf (String.singleton c) ++ unescape leadingZero 0 cs

/-- The text up to an escape that stops all printing, and whether there is one. -/
def untilStop : List Char → List Char × Bool
  | [] => ([], false)
  | '\\' :: 'c' :: _ => ([], true)
  | '\\' :: c :: cs =>
    let (text, stopped) := untilStop cs
    ('\\' :: c :: text, stopped)
  | c :: cs =>
    let (text, stopped) := untilStop cs
    (c :: text, stopped)

/-- A text in a field of the width that a directive asks for. -/
def pad (flags text : List Char) : List Char :=
  let left := flags.contains '-'
  let digits := flags.dropWhile fun c => !c.isDigit
  let fill := if digits.head? = some '0' && !left then '0' else ' '
  let width := ((String.ofList (digits.takeWhile Char.isDigit)).toNat?.getD 0)
  let gap := List.replicate (width - text.length) fill
  if left then text ++ gap else gap ++ text

/-- An argument as a directive prints it. -/
def convert (letter : Char) (argument : String) : List Char :=
  match letter with
  | 'd' => (toString (argument.toInt?.getD 0)).toList
  | 'i' => (toString (argument.toInt?.getD 0)).toList
  | 'u' => (toString (argument.toInt?.getD 0)).toList
  | 'x' => Nat.toDigits 16 (argument.toNat?.getD 0)
  | 'o' => Nat.toDigits 8 (argument.toNat?.getD 0)
  | 'c' => argument.toList.take 1
  | _ => argument.toList

/-- One use of a format; the rest are the arguments it has no directive for. -/
def once : Nat → List Char → List String → List UInt8 × List String
  | 0, _, arguments => ([], arguments)
  | n + 1, cs, arguments =>
    match cs with
    | [] => ([], arguments)
    | '\\' :: rest =>
      let (bytes, taken) := readEscape false rest
      let (more, arguments) := once n (rest.drop taken) arguments
      (bytes ++ more, arguments)
    | '%' :: '%' :: rest =>
      let (more, arguments) := once n rest arguments
      (37 :: more, arguments)
    | '%' :: rest =>
      let flags := rest.takeWhile fun c => !c.isAlpha
      match rest.drop flags.length with
      | [] => ([37], arguments)
      | letter :: rest =>
        let argument := arguments.head?.getD ""
        let bytes := if letter = 'b' then unescape true 0 argument.toList
          else State.bytesOf (String.ofList (pad flags (convert letter argument)))
        let (more, arguments) := once n rest (arguments.drop 1)
        (bytes ++ more, arguments)
    | c :: rest =>
      let (more, arguments) := once n rest arguments
      (State.bytesOf (String.singleton c) ++ more, arguments)

/-- Uses a format until no arguments are left, or once where it takes none. -/
def format (template : List Char) : Nat → List String → List UInt8
  | 0, _ => []
  | n + 1, arguments =>
    match once (template.length + 1) template arguments with
    | (bytes, []) => bytes
    | (bytes, rest) =>
      if rest.length < arguments.length then bytes ++ format template n rest else bytes

/-- The bytes that a format and its arguments print. -/
def run (template : String) (arguments : List String) : List UInt8 :=
  format template.toList (arguments.length + 1) arguments

end EnvScout.Shell.Printf
