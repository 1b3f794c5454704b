import EnvScout.Json.Number
import EnvScout.Json.Token
import EnvScout.Text.Quoted

/-!
Reading values of known shape off the tokens of a JSON text, in one pass: the first problem in the
text decides. A record may be written as an object, where members with unknown names are skipped, or
as an array of its fields in their order.
-/

namespace EnvScout.Json

/-- A value that is not of the kind that is expected. -/
inductive Found where
  | null
  | bool (value : Bool)
  | whole (n : Int)
  | float (x : Float)
  | text (s : String)
  | sequence
  | map

def Found.describe : Found → String
  | null => "null"
  | bool true => "boolean `true`"
  | bool false => "boolean `false`"
  | whole n => "integer `" ++ toString n ++ "`"
  | float x => "floating point `" ++ Number.floatText x ++ "`"
  | text s => "string " ++ Text.quoted s
  | sequence => "sequence"
  | map => "map"

/-- What is wrong with a text; `left` counts the tokens behind the value or the name. -/
inductive DecodeError where
  /-- The text is no JSON, or there is too much of it. -/
  | malformed
  | wrongType (found : Found) (expected : String) (left : Nat)
  | wrongLength (length : Nat) (expected : String)
  | missingField (name : String)
  | duplicateField (name : String) (left : Nat)

def DecodeError.message : DecodeError → String
  | malformed => "JSON"
  | wrongType found expected _ =>
    "invalid type: " ++ found.describe ++ ", expected " ++ expected
  | wrongLength length expected =>
    "invalid length " ++ toString length ++ ", expected " ++ expected
  | missingField name => "missing field `" ++ name ++ "`"
  | duplicateField name _ => "duplicate field `" ++ name ++ "`"

/-- Reads a value off the front of the tokens and leaves the rest. -/
abbrev Decoder (α : Type) := List Token → Except DecodeError (α × List Token)

/-- The complaint about the value at the front, where something else is expected. A value that is
itself broken is complained about as such. -/
def unexpected (tokens : List Token) (expected : String) : DecodeError :=
  match tokens with
  | .null :: rest => .wrongType .null expected rest.length
  | .bool value :: rest => .wrongType (.bool value) expected rest.length
  | .number literal :: rest =>
    match Number.ofLiteral? literal with
    | some (.whole n) => .wrongType (.whole n) expected rest.length
    | some (.float x) => .wrongType (.float x) expected rest.length
    | none => .malformed
  | .string (some text) :: rest => .wrongType (.text text) expected rest.length
  | .openBracket :: rest => .wrongType .sequence expected rest.length
  | .openBrace :: rest => .wrongType .map expected rest.length
  | _ => .malformed

namespace Decoder

def string : Decoder String
  | .string (some text) :: rest => .ok (text, rest)
  | tokens => .error (unexpected tokens "a string")

/-- A value or `null`. -/
def optional {α : Type} (item : Decoder α) : Decoder (Option α)
  | .null :: rest => .ok (none, rest)
  | tokens =>
    match item tokens with
    | .ok (value, rest) => .ok (some value, rest)
    | .error e => .error e

/-- The items up to the closing bracket; `begun` says whether one stands before them already. -/
def items {α : Type} (item : Decoder α) : Nat → Bool → Decoder (List α)
  | 0, _, _ => .error .malformed
  | n + 1, begun, tokens =>
    match begun, tokens with
    | _, .closeBracket :: rest => .ok ([], rest)
    | true, .comma :: .closeBracket :: _ => .error .malformed
    | true, .comma :: rest => next n rest
    | true, _ => .error .malformed
    | false, tokens => next n tokens
where
  next (n : Nat) (tokens : List Token) : Except DecodeError (List α × List Token) :=
    match item tokens with
    | .error e => .error e
    | .ok (value, rest) =>
      match items item n true rest with
      | .error e => .error e
      | .ok (values, rest) => .ok (value :: values, rest)

def list {α : Type} (item : Decoder α) : Decoder (List α)
  | .openBracket :: rest => items item (rest.length + 1) false rest
  | tokens => .error (unexpected tokens "a sequence")

/-- Reads an item and puts it where it belongs. -/
def into {σ α : Type} (item : Decoder α) (put : α → σ) : Decoder σ
  | tokens =>
    match item tokens with
    | .ok (value, rest) => .ok (put value, rest)
    | .error e => .error e

/-- What encloses a skipped value. -/
inductive Enclosure where
  | array
  | object

/-- What may come next in a skipped value. -/
inductive Stage where
  | value
  | itemOrEnd
  | keyOrEnd
  | key
  | colon
  | after

/-- Skips a value, of which only the form is checked. -/
def skip : Stage → List Enclosure → List Token → Except DecodeError (List Token)
  | .after, [], tokens => .ok tokens
  | .after, .array :: outer, .comma :: rest => skip .value (.array :: outer) rest
  | .after, .array :: outer, .closeBracket :: rest => skip .after outer rest
  | .after, .object :: outer, .comma :: rest => skip .key (.object :: outer) rest
  | .after, .object :: outer, .closeBrace :: rest => skip .after outer rest
  | .itemOrEnd, .array :: outer, .closeBracket :: rest => skip .after outer rest
  | .keyOrEnd, .object :: outer, .closeBrace :: rest => skip .after outer rest
  | .keyOrEnd, outer, .string _ :: rest => skip .colon outer rest
  | .key, outer, .string _ :: rest => skip .colon outer rest
  | .colon, outer, .colon :: rest => skip .value outer rest
  | .value, outer, .openBracket :: rest => skip .itemOrEnd (.array :: outer) rest
  | .value, outer, .openBrace :: rest => skip .keyOrEnd (.object :: outer) rest
  | .value, outer, .null :: rest => skip .after outer rest
  | .value, outer, .bool _ :: rest => skip .after outer rest
  | .value, outer, .number _ :: rest => skip .after outer rest
  | .value, outer, .string _ :: rest => skip .after outer rest
  | .itemOrEnd, outer, .openBracket :: rest => skip .itemOrEnd (.array :: outer) rest
  | .itemOrEnd, outer, .openBrace :: rest => skip .keyOrEnd (.object :: outer) rest
  | .itemOrEnd, outer, .null :: rest => skip .after outer rest
  | .itemOrEnd, outer, .bool _ :: rest => skip .after outer rest
  | .itemOrEnd, outer, .number _ :: rest => skip .after outer rest
  | .itemOrEnd, outer, .string _ :: rest => skip .after outer rest
  | _, _, _ => .error .malformed

/-- A field of a record that is put together in a value of type `σ`. -/
structure Field (σ : Type) where
  name : String
  /-- Other names the field goes by. -/
  aliases : List String
  isSet : σ → Bool
  read : σ → Decoder σ
  /-- Whether the record can do without it. -/
  isOptional : Bool

def Field.answersTo {σ : Type} (field : Field σ) (key : String) : Bool :=
  key == field.name || key ∈ field.aliases

/-- The members of an object up to its closing brace. -/
def members {σ : Type} (fields : List (Field σ)) : Nat → Bool → σ → Decoder σ
  | 0, _, _, _ => .error .malformed
  | n + 1, begun, state, tokens =>
    match begun, tokens with
    | _, .closeBrace :: rest => .ok (state, .closeBrace :: rest)
    | true, .comma :: .string (some key) :: rest => member n state key rest
    | false, .string (some key) :: rest => member n state key rest
    | _, _ => .error .malformed
where
  member (n : Nat) (state : σ) (key : String) (tokens : List Token) :
      Except DecodeError (σ × List Token) :=
    match fields.find? fun field => field.answersTo key with
    | some field =>
      if field.isSet state then .error (.duplicateField field.name tokens.length)
      else match tokens with
        | .colon :: rest =>
          match field.read state rest with
          | .ok (state, rest) => members fields n true state rest
          | .error e => .error e
        | _ => .error .malformed
    | none =>
      match tokens with
      | .colon :: rest =>
        match skip .value [] rest with
        | .ok rest => members fields n true state rest
        | .error e => .error e
      | _ => .error .malformed

/-- The fields of a record written as an array, up to its closing bracket. -/
def positions {σ : Type} (expected : String) : Nat → List (Field σ) → σ → Decoder σ
  | _, [], state, tokens => .ok (state, tokens)
  | index, field :: fields, state, tokens =>
    match index, tokens with
    | _, .closeBracket :: _ =>
      if field.isOptional then positions expected (index + 1) fields state tokens
      else .error (.wrongLength index expected)
    | 0, tokens => item index field fields state tokens
    | _ + 1, .comma :: .closeBracket :: _ => .error .malformed
    | _ + 1, .comma :: rest => item index field fields state rest
    | _ + 1, _ => .error .malformed
where
  item (index : Nat) (field : Field σ) (fields : List (Field σ)) (state : σ)
      (tokens : List Token) : Except DecodeError (σ × List Token) :=
    match field.read state tokens with
    | .ok (state, rest) => positions expected (index + 1) fields state rest
    | .error e => .error e

/-- The first field that is neither set nor optional. -/
def missing? {σ : Type} (fields : List (Field σ)) (state : σ) : Option String :=
  (fields.find? fun field => !field.isSet state && !field.isOptional).map (·.name)

def elementCount (n : Nat) : String :=
  toString n ++ if n = 1 then " element" else " elements"

/-- A record called `title`, put together from `start`. -/
def record {σ : Type} (title : String) (fields : List (Field σ)) (start : σ) : Decoder σ
  | .openBrace :: rest =>
    match members fields (rest.length + 1) false start rest with
    | .error e => .error e
    | .ok (state, rest) =>
      match missing? fields state with
      | some name => .error (.missingField name)
      | none => .ok (state, rest.drop 1)
  | .openBracket :: rest =>
    let expected := "struct " ++ title ++ " with " ++ elementCount fields.length
    match positions expected 0 fields start rest with
    | .error e => .error e
    | .ok (state, .closeBracket :: rest) => .ok (state, rest)
    | .ok _ => .error .malformed
  | tokens => .error (unexpected tokens ("struct " ++ title))

/-- Reads a whole text. -/
def decode {α : Type} (decoder : Decoder α) (text : String) : Except DecodeError α :=
  match decoder (Token.ofText text) with
  | .ok (value, []) => .ok value
  | .ok (_, _ :: _) => .error .malformed
  | .error e => .error e

end Decoder

end EnvScout.Json
