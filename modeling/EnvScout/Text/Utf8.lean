/-!
Bytes read as UTF-8. The strict reading fails on the first malformed byte; the lenient one puts a
replacement character in place of each malformed sequence, where a sequence that breaks off counts
once and the byte that broke it is read afresh. Bytes that need not be the bytes of a text are kept
in a string as well, each as the character of its number.
-/

namespace EnvScout.Text.Utf8

/-- A part of what is read: a character, or the bytes of a malformed sequence. -/
inductive Part where
  | char (c : Char)
  | broken (bytes : List UInt8)
  deriving DecidableEq

/-- A character of which some bytes are still missing: the bytes so far and the bits in them, how
many bytes are to come, and the bounds of the next one. -/
structure Unfinished where
  taken : List UInt8
  bits : Nat
  missing : Nat
  low : Nat
  high : Nat

/-- What a byte at the start of a character gives: a finished part, or a character to complete. -/
def start (byte : UInt8) : List Part × Option Unfinished :=
  let b := byte.toNat
  if b < 0x80 then ([.char (Char.ofNat b)], none)
  else if b < 0xC2 then ([.broken [byte]], none)
  else if b < 0xE0 then ([], some ⟨[byte], b - 0xC0, 1, 0x80, 0xBF⟩)
  else if b < 0xF0 then
    ([], some ⟨[byte], b - 0xE0, 2, if b = 0xE0 then 0xA0 else 0x80,
      if b = 0xED then 0x9F else 0xBF⟩)
  else if b < 0xF5 then
    ([], some ⟨[byte], b - 0xF0, 3, if b = 0xF0 then 0x90 else 0x80,
      if b = 0xF4 then 0x8F else 0xBF⟩)
  else ([.broken [byte]], none)

/-- Takes one byte more into an unfinished character. -/
def proceed (u : Unfinished) (byte : UInt8) : List Part × Option Unfinished :=
  let b := byte.toNat
  if u.low ≤ b ∧ b ≤ u.high then
    let bits := u.bits * 64 + (b - 0x80)
    if u.missing ≤ 1 then ([.char (Char.ofNat bits)], none)
    else ([], some ⟨u.taken ++ [byte], bits, u.missing - 1, 0x80, 0xBF⟩)
  else
    let (parts, next) := start byte
    (.broken u.taken :: parts, next)

def partsFrom : Option Unfinished → List UInt8 → List Part
  | none, [] => []
  | some u, [] => [.broken u.taken]
  | none, b :: bytes =>
    let (parts, next) := start b
    parts ++ partsFrom next bytes
  | some u, b :: bytes =>
    let (parts, next) := proceed u b
    parts ++ partsFrom next bytes

def replacement : Char := '\uFFFD'

def Part.lenient : Part → Char
  | char c => c
  | broken _ => replacement

/-- The lenient reading. -/
def readLenient (bytes : ByteArray) : String :=
  String.ofList ((partsFrom none bytes.toList).map Part.lenient)

/-- The strict reading. -/
def read? (bytes : ByteArray) : Option String :=
  String.fromUTF8? bytes

/-- The character that a byte is kept as. -/
def keep (b : UInt8) : Char :=
  Char.ofNat b.toNat

def keepAll (bytes : List UInt8) : String :=
  String.ofList (bytes.map keep)

/-- The bytes that are kept in a string. -/
def kept (s : String) : List UInt8 :=
  s.toList.map fun c => UInt8.ofNat c.toNat

/-- The bytes of a character, kept. -/
def encodedChar (c : Char) : List Char :=
  (String.utf8EncodeChar c).map keep

/-- The bytes of a text, kept. -/
def encoded (s : String) : String :=
  String.ofList (s.toList.flatMap encodedChar)

/-- The lenient reading of the bytes that are kept. -/
def decoded (s : String) : String :=
  String.ofList ((partsFrom none (kept s)).map Part.lenient)

end EnvScout.Text.Utf8
