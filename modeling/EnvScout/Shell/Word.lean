/-!
The tokens of a shell script: words and the signs between them. A word is made of pieces, and each
piece keeps whether it was quoted, because quoting decides what may still be done with it.
-/

namespace EnvScout.Shell

inductive Piece where
  | text (chars : List Char) (quoted : Bool)
  /-- The value of a parameter. -/
  | parameter (name : String) (quoted : Bool)
  /-- What a script prints. -/
  | output (script : List Char) (quoted : Bool)
  /-- The value of a calculation. -/
  | number (formula : List Char)
  deriving DecidableEq

abbrev Word := List Piece

inductive Token where
  | word (w : Word)
  /-- An operator or a newline. -/
  | sign (text : String)
  /-- A redirection of a descriptor, with its mark; the word that follows is its target. -/
  | redirect (descriptor : Nat) (mark : String)
  deriving DecidableEq

namespace Token

def isNameStart (c : Char) : Bool :=
  c.isAlpha || c == '_'

def isNameChar (c : Char) : Bool :=
  c.isAlphanum || c == '_'

/-- Parameters named by a sign. -/
def isSpecial (c : Char) : Bool :=
  c ∈ ['#', '@', '*', '?', '$', '!', '-']

/-- What ends a word that is not quoted. -/
def endsWord (c : Char) : Bool :=
  c ∈ [' ', '\t', '\n', ';', '&', '|', '<', '>', '(', ')']

/-- What ends a run of plain characters. -/
def endsPlain (c : Char) : Bool :=
  endsWord c || c ∈ ['\'', '"', '\\', '$', '\x60']

/-- The text up to a closing backquote, and what follows it. -/
def untilBackquote : List Char → Option (List Char × List Char)
  | [] => none
  | '\x60' :: rest => some ([], rest)
  | '\\' :: c :: rest =>
    let chars := if c ∈ ['\x60', '\\', '$'] then [c] else ['\\', c]
    (untilBackquote rest).map fun (inside, rest) => (chars ++ inside, rest)
  | c :: rest => (untilBackquote rest).map fun (inside, rest) => (c :: inside, rest)

/-- The text up to the bracket that closes `depth` open ones, and what follows it. -/
def untilClosed : Nat → Option Char → List Char → Option (List Char × List Char)
  | _, _, [] => none
  | depth, some mark, c :: rest =>
    (untilClosed depth (if c = mark then none else some mark) rest).map fun (inside, rest) =>
      (c :: inside, rest)
  | depth, none, c :: rest =>
    if c = ')' ∧ depth ≤ 1 then some ([], rest)
    else
      let next := if c = '(' then depth + 1 else if c = ')' then depth - 1 else depth
      let mark := if c = '\'' ∨ c = '"' then some c else none
      (untilClosed next mark rest).map fun (inside, rest) => (c :: inside, rest)

/-- The piece that a dollar sign begins; a dollar sign that begins nothing stands for itself. -/
def readDollar (quoted : Bool) (cs : List Char) : Option (Piece × List Char) :=
  match cs with
  | '(' :: '(' :: rest =>
    match untilClosed 2 none rest with
    | some (formula, rest) => some (.number (formula.dropLast), rest)
    | none => none
  | '(' :: rest => (untilClosed 1 none rest).map fun (script, rest) => (.output script quoted, rest)
  | '{' :: rest =>
    let name := rest.takeWhile fun c => c != '}'
    match rest.drop name.length with
    | _ :: rest => some (.parameter (String.ofList name) quoted, rest)
    | [] => none
  | c :: rest =>
    if isNameStart c then
      let name := (c :: rest).takeWhile isNameChar
      some (.parameter (String.ofList name) quoted, (c :: rest).drop name.length)
    else if c.isDigit || isSpecial c then
      some (.parameter (String.singleton c) quoted, rest)
    else some (.text ['$'] quoted, c :: rest)
  | [] => some (.text ['$'] quoted, [])

/-- The pieces up to a closing double quote, at most `n` of them. -/
def readQuoted : Nat → List Char → Option (Word × List Char)
  | 0, _ => none
  | n + 1, cs =>
    match cs with
    | [] => none
    | '"' :: rest => some ([], rest)
    | '\\' :: '\n' :: rest => readQuoted n rest
    | '\\' :: c :: rest =>
      let chars := if c ∈ ['$', '"', '\\', '\x60'] then [c] else ['\\', c]
      (readQuoted n rest).map fun (w, rest) => (.text chars true :: w, rest)
    | '$' :: rest =>
      match readDollar true rest with
      | none => none
      | some (piece, rest) => (readQuoted n rest).map fun (w, rest) => (piece :: w, rest)
    | '\x60' :: rest =>
      match untilBackquote rest with
      | none => none
      | some (script, rest) =>
        (readQuoted n rest).map fun (w, rest) => (.output script true :: w, rest)
    | c :: rest => (readQuoted n rest).map fun (w, rest) => (.text [c] true :: w, rest)

/-- The pieces of a word, at most `n` of them. -/
def readWord : Nat → List Char → Option (Word × List Char)
  | 0, _ => none
  | n + 1, cs =>
    match cs with
    | [] => some ([], [])
    | '\'' :: rest =>
      let inside := rest.takeWhile fun c => c != '\''
      match rest.drop inside.length with
      | _ :: rest => (readWord n rest).map fun (w, rest) => (.text inside true :: w, rest)
      | [] => none
    | '"' :: rest =>
      match readQuoted (n + 1) rest with
      | none => none
      | some (inside, rest) =>
        let inside := if inside = [] then [.text [] true] else inside
        (readWord n rest).map fun (w, rest) => (inside ++ w, rest)
    | '\\' :: '\n' :: rest => readWord n rest
    | '\\' :: c :: rest => (readWord n rest).map fun (w, rest) => (.text [c] true :: w, rest)
    | '$' :: rest =>
      match readDollar false rest with
      | none => none
      | some (piece, rest) => (readWord n rest).map fun (w, rest) => (piece :: w, rest)
    | '\x60' :: rest =>
      match untilBackquote rest with
      | none => none
      | some (script, rest) =>
        (readWord n rest).map fun (w, rest) => (.output script false :: w, rest)
    | c :: rest =>
      if endsWord c then some ([], c :: rest)
      else
        let run := c :: rest.takeWhile fun c => !endsPlain c
        (readWord n ((c :: rest).drop run.length)).map fun (w, rest) =>
          (.text run false :: w, rest)

/-- The mark of a redirection at the front of a text. -/
def readMark : List Char → Option (String × List Char)
  | '>' :: '>' :: rest => some (">>", rest)
  | '>' :: '&' :: rest => some (">&", rest)
  | '>' :: '|' :: rest => some (">", rest)
  | '>' :: rest => some (">", rest)
  | '<' :: '&' :: rest => some ("<&", rest)
  | '<' :: rest => some ("<", rest)
  | _ => none

/-- The operator at the front of a text. -/
def readSign : List Char → Option (String × List Char)
  | ';' :: ';' :: rest => some (";;", rest)
  | '&' :: '&' :: rest => some ("&&", rest)
  | '|' :: '|' :: rest => some ("||", rest)
  | c :: rest =>
    if c ∈ [';', '&', '|', '(', ')', '\n'] then some (String.singleton c, rest) else none
  | [] => none

/-- The redirection at the front of a text, with the descriptor it is for. -/
def readRedirect (cs : List Char) : Option (Token × List Char) :=
  let digits := cs.takeWhile Char.isDigit
  match readMark (cs.drop digits.length) with
  | none => none
  | some (mark, rest) =>
    let standard := if mark.toList.head? = some '<' then 0 else 1
    some (.redirect ((String.ofList digits).toNat?.getD standard) mark, rest)

/-- The tokens of a script, at most `n` of them; none when a quote or a bracket is left open. -/
def readAll : Nat → List Char → Option (List Token)
  | 0, _ => none
  | n + 1, cs =>
    match cs with
    | [] => some []
    | ' ' :: rest => readAll n rest
    | '\t' :: rest => readAll n rest
    | '\\' :: '\n' :: rest => readAll n rest
    | '#' :: rest => readAll n (rest.dropWhile fun c => c != '\n')
    | cs =>
      match readRedirect cs with
      | some (token, rest) => (readAll n rest).map (token :: ·)
      | none =>
        match readSign cs with
        | some (text, rest) => (readAll n rest).map (.sign text :: ·)
        | none =>
          match readWord (cs.length + 1) cs with
          | some (w, rest) => (readAll n rest).map (.word w :: ·)
          | none => none

/-- The tokens of a script. -/
def ofText? (script : List Char) : Option (List Token) :=
  readAll (script.length + 1) script

end Token

end EnvScout.Shell
