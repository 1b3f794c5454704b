import EnvScout.Text.Hex
import EnvScout.Text.Split

/-!
Numeric addresses that stand where a domain name could: four bytes parted by dots, in several
spellings, and eight pieces parted by colons.
-/

namespace EnvScout.Domain

/-- The labels of a host without the empty one behind a dot at the end. -/
def labelsOf (host : List Char) : List (List Char) :=
  let labels := Text.splitOn '.' host
  if labels.getLast? == some [] then labels.dropLast else labels

def beginsHex (label : List Char) : Bool :=
  "0x".toList.isPrefixOf label

/-- Whether the last label of a host is a number, so that the host has to be an address. -/
def endsInNumber (host : List Char) : Bool :=
  match (labelsOf host).getLast? with
  | some label =>
    (!label.isEmpty && label.all Char.isDigit) ||
      (beginsHex label && (label.drop 2).all Text.isHexDigit)
  | none => false

/-- The number that digits of a base spell. -/
def readDigits? (base : Nat) (digits : List Char) : Option Nat :=
  digits.foldl (fun value c =>
    match value, Text.hexDigit? c with
    | some n, some d => if d < base then some (base * n + d) else none
    | _, _ => none) (some 0)

/-- The value of one part of an address: decimal, octal after a zero, or hexadecimal. -/
def partValue? (label : List Char) : Option Nat :=
  if label = [] then none
  else if beginsHex label then readDigits? 16 (label.drop 2)
  else if label.head? == some '0' then readDigits? 8 label
  else readDigits? 10 label

/-- Whether a host is an address of one to four numbers, of which the last fills what is left. -/
def isDottedAddress (host : List Char) : Bool :=
  let parts := (labelsOf host).map partValue?
  parts.length ≤ 4 && parts.all Option.isSome &&
    match (parts.filterMap id).reverse with
    | last :: before => before.all (fun n => n ≤ 255) && last < Nat.pow 256 (5 - parts.length)
    | [] => false

/-- A byte in decimal, without leading zeros. -/
def isPlainByte (digits : List Char) : Bool :=
  !digits.isEmpty && digits.all Char.isDigit &&
    (digits.length == 1 || digits.head? != some '0') &&
    (readDigits? 10 digits).any fun n => n ≤ 255

/-- How many pieces a part of an address fills: one in up to four hexadecimal digits, and two in
four plain bytes. -/
def piecesIn? (isLast : Bool) (text : List Char) : Option Nat :=
  if !text.isEmpty && text.length ≤ 4 && text.all Text.isHexDigit then some 1
  else if isLast then
    let bytes := Text.splitOn '.' text
    if bytes.length = 4 && bytes.all isPlainByte then some 2 else none
  else none

/-- How many pieces the parts between colons fill. Only the very last part may hold bytes. -/
def countPieces? (isLast : Bool) : List (List Char) → Option Nat
  | [] => some 0
  | [text] => piecesIn? isLast text
  | text :: rest =>
    match piecesIn? false text, countPieces? isLast rest with
    | some n, some m => some (n + m)
    | _, _ => none

/-- The parts of one side of a gap. -/
def partsBeside (text : List Char) : List (List Char) :=
  if text.isEmpty then [] else Text.splitOn ':' text

/-- Cuts a text at its first double colon. -/
def cutAtGap? : List Char → Option (List Char × List Char)
  | ':' :: ':' :: rest => some ([], rest)
  | c :: rest => (cutAtGap? rest).map fun (front, behind) => (c :: front, behind)
  | [] => none

/-- Whether a text is an address of eight pieces, some of which, all of them zero, may be left out
in a gap. -/
def isColonAddress (text : List Char) : Bool :=
  match cutAtGap? text with
  | none => countPieces? true (Text.splitOn ':' text) == some 8
  | some (front, behind) =>
    match countPieces? false (partsBeside front), countPieces? true (partsBeside behind) with
    | some n, some m => n + m ≤ 7
    | _, _ => false

end EnvScout.Domain
