import EnvScout.Domain.Address
import EnvScout.Domain.Name
import EnvScout.Path.Basic

/-!
Paths out of `file:` addresses. An address is read as browsers read it: white space around it and
line breaks inside it do not count, backslashes are slashes, dot segments are worked out as the
path is read, and a drive letter at the front of a path is never climbed over. Escapes may spell any
bytes, so a path need not be a text.
-/

namespace EnvScout.FileUri

/-- Characters that do not count anywhere in an address. -/
def isIgnored (c : Char) : Bool :=
  c == '\t' || c == '\n' || c == '\r'

def isSlash (c : Char) : Bool :=
  c == '/' || c == '\\'

/-- What ends the path, or the host in front of it. -/
def endsPath (c : Char) : Bool :=
  c == '?' || c == '#'

def isSchemeChar (c : Char) : Bool :=
  c.isAlphanum || c == '+' || c == '-' || c == '.'

/-- The address without controls and spaces at its ends. -/
def strip (cs : List Char) : List Char :=
  let out (c : Char) : Bool := c.toNat ≤ 0x20
  ((cs.dropWhile out).reverse.dropWhile out).reverse

/-- What follows the scheme, where the scheme is `file` in any letter case. -/
def afterScheme? (cs : List Char) : Option (List Char) :=
  let plain := cs.filter fun c => !isIgnored c
  let scheme := plain.takeWhile isSchemeChar
  if scheme.map Char.toLower = "file".toList && (plain.drop scheme.length).head? == some ':' then
    some ((cs.dropWhile fun c => c != ':').drop 1)
  else none

/-- A letter and a colon or a bar. -/
def isDriveLetter : List Char → Bool
  | [letter, mark] => letter.isAlpha && (mark == ':' || mark == '|')
  | _ => false

def isPlainDriveLetter : List Char → Bool
  | [letter, ':'] => letter.isAlpha
  | _ => false

/-- Whether a text begins with a slash and a drive letter that stands alone. -/
def beginsWithDrive (cs : List Char) : Bool :=
  match cs with
  | '/' :: letter :: mark :: rest =>
    isDriveLetter [letter, mark] &&
      (rest.isEmpty || rest.head?.any fun c => isSlash c || endsPath c)
  | _ => false

/-- The segments that stand for a step up, in every spelling. -/
def isDoubleDot (segment : List Char) : Bool :=
  String.ofList (segment.map Char.toLower) ∈ ["..", "%2e%2e", "%2e.", ".%2e"]

def isSingleDot (segment : List Char) : Bool :=
  String.ofList (segment.map Char.toLower) ∈ [".", "%2e"]

def endsWithSlash (path : List Char) : Bool :=
  path.getLast? == some '/'

/-- The path up to its last slash, and what follows that. -/
def cutLastSlash (path : List Char) : List Char × List Char :=
  let last := (path.reverse.takeWhile fun c => c != '/').reverse
  (path.take (path.length - last.length), last)

/-- Takes the last segment off a path, unless that is a drive letter. -/
def popSegment (path : List Char) : List Char :=
  let (front, last) := cutLastSlash path
  if isPlainDriveLetter last then path else front

/-- Whether the slash at the end of a path may go when a segment is climbed over. -/
def lastSlashMayGo (path : List Char) : Bool :=
  let front := path.dropLast
  front.contains '/' &&
    !beginsWithDrive ('/' :: (cutLastSlash front).2 ++ ['/'])

/-- Works out a step up; `path` is what stands before it. -/
def climb (path : List Char) (slashFollows : Bool) : List Char :=
  let shorter := if endsWithSlash path && lastSlashMayGo path then path.dropLast else path
  let popped := if isPlainDriveLetter shorter then shorter else popSegment shorter
  if slashFollows && !endsWithSlash popped then popped ++ ['/'] else popped

/-- A path that is being read. -/
structure Reading where
  path : List Char
  hasHost : Bool

/-- Takes the segment that has been read into the path. `start` is where it starts in the path. -/
def Reading.finish (reading : Reading) (start : Nat) (slashFollows : Bool) : Reading :=
  let front := reading.path.take start
  let segment := reading.path.drop start
  let segment := if slashFollows then segment.dropLast else segment
  if isDoubleDot segment then { reading with path := climb front slashFollows }
  else if isSingleDot segment then
    { reading with path := if endsWithSlash front then front else front ++ ['/'] }
  else if start = 1 && isDriveLetter segment then
    ⟨front ++ segment.take 1 ++ [':'] ++ if slashFollows then ['/'] else [], false⟩
  else reading

/-- Reads a path. `start` is where the segment at hand starts, `pending` the characters read since
the last one that does not count; they join the path when the segment ends or such a character
comes. -/
def readPath (reading : Reading) (start : Nat) (pending : List Char) : List Char → Reading
  | [] => ({ reading with path := reading.path ++ pending } : Reading).finish start false
  | c :: cs =>
    if isIgnored c then
      readPath { reading with path := reading.path ++ pending } start [] cs
    else if isSlash c then
      let reading : Reading := { reading with path := reading.path ++ pending ++ ['/'] }
      let done := reading.finish start true
      readPath done done.path.length [] cs
    else if endsPath c then
      ({ reading with path := reading.path ++ pending } : Reading).finish start false
    else if isPlainDriveLetter (reading.path.drop 1) then
      readPath { reading with path := reading.path ++ ['/'] } (start + 1) (pending ++ [c]) cs
    else readPath reading start (pending ++ [c]) cs

/-- A path with a single slash in front. -/
def rooted (path : List Char) : List Char :=
  '/' :: path.dropWhile fun c => c == '/'

def utf8 (c : Char) : List UInt8 :=
  (String.ofList [c]).toUTF8.toList

/-- The bytes of a text in which escapes of two hexadecimal digits stand for bytes. -/
def unescape : List Char → List UInt8
  | [] => []
  | '%' :: a :: b :: rest =>
    match Text.hexDigit? a, Text.hexDigit? b with
    | some high, some low => UInt8.ofNat (16 * high + low) :: unescape rest
    | _, _ => utf8 '%' ++ unescape (a :: b :: rest)
  | c :: rest => utf8 c ++ unescape rest

/-- What a host in front of the path comes to. -/
inductive Host where
  | none
  /-- This machine by name. -/
  | localhost
  | other
  | invalid
  deriving DecidableEq

/-- Judges the text of a host. -/
def judgeHost (text : List Char) : Host :=
  match text with
  | [] => .none
  | '[' :: rest =>
    if rest.getLast? = some ']' && Domain.isColonAddress rest.dropLast then .other else .invalid
  | _ =>
    match (Text.Utf8.read? ⟨(unescape text).toArray⟩).bind fun name =>
      Domain.spelling? name.toList with
    | none => .invalid
    | some name =>
      if name = [] then .invalid
      else if name = "localhost".toList then .localhost
      else if Domain.endsInNumber name && !Domain.isDottedAddress name then .invalid
      else .other

/-- The path of an address from what follows its scheme. -/
def pathAfterScheme (cs : List Char) : Option (List Char) :=
  let plain := cs.filter fun c => !isIgnored c
  match plain with
  | a :: b :: _ =>
    if isSlash a && isSlash b then authority (dropSlash (dropSlash cs))
    else if isSlash a then some (rooted (readPath ⟨[], false⟩ 0 [] cs).path)
    else some (rooted (readPath ⟨['/'], false⟩ 1 [] cs).path)
  | [a] =>
    if isSlash a then some (rooted (readPath ⟨[], false⟩ 0 [] cs).path)
    else some (rooted (readPath ⟨['/'], false⟩ 1 [] cs).path)
  | [] => some ['/']
where
  /-- What follows the first character that counts. -/
  dropSlash (cs : List Char) : List Char :=
    (cs.dropWhile isIgnored).drop 1
  /-- Reads a host and the path behind it. -/
  authority (cs : List Char) : Option (List Char) :=
    let isHostChar (c : Char) : Bool := !isSlash c && !endsPath c
    let host := (cs.takeWhile isHostChar).filter fun c => !isIgnored c
    let rest := cs.dropWhile isHostChar
    if isDriveLetter host then some (rooted (readPath ⟨['/'], false⟩ 1 [] cs).path)
    else match judgeHost host with
      | .invalid => none
      | .none => some (rooted (readPath ⟨['/'], false⟩ 1 [] rest).path)
      | .localhost => some (rooted (readPath ⟨['/'], false⟩ 1 [] rest).path)
      | .other =>
        let afterSlash := if rest.head?.any isSlash then rest.drop 1 else rest
        let reading := readPath ⟨['/'], true⟩ 1 [] afterSlash
        if reading.hasHost then none else some (rooted reading.path)

/-- A path whose last two bytes read as a drive letter gets a slash behind it. -/
def closeDrive (bytes : List UInt8) : List UInt8 :=
  match bytes.reverse with
  | mark :: letter :: _ :: _ =>
    if (mark == 0x3A || mark == 0x7C) && (Char.ofNat letter.toNat).isAlpha then bytes ++ [0x2F]
    else bytes
  | _ => bytes

/-- The path of a `file:` address on this machine; any other address has none. -/
def toPath? (address : String) : Option Path :=
  match afterScheme? (strip address.toList) with
  | none => none
  | some rest => (pathAfterScheme rest).map fun path =>
    ⟨Text.Utf8.keepAll (closeDrive (unescape path))⟩

end EnvScout.FileUri
