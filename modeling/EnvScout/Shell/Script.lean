import EnvScout.Shell.Word

/-!
Shell scripts as trees, and how they are put together from tokens. Words that have a meaning in the
grammar, such as `if` and `done`, have it only where a command may begin and only unquoted.
-/

namespace EnvScout.Shell

structure Redirection where
  descriptor : Nat
  mark : String
  target : Word
  deriving DecidableEq

/-- A command that is no construct: assignments, words and redirections. -/
structure Simple where
  assignments : List (String × Word)
  words : List Word
  redirections : List Redirection
  deriving DecidableEq

inductive Script where
  | nothing
  | simple (command : Simple)
  | sequence (first second : Script)
  /-- The second one runs if the first one succeeds, or if it fails. -/
  | depending (onSuccess : Bool) (first second : Script)
  | negated (script : Script)
  | piped (first second : Script)
  | branch (test yes no : Script)
  /-- Runs the body as long as the test comes out as wanted. -/
  | loop (wanted : Bool) (test body : Script)
  /-- Runs the body for each of the words, or for each argument. -/
  | each (name : String) (words : Option (List Word)) (body : Script)
  /-- Runs the first arm one of whose patterns fits the subject. -/
  | choose (subject : Word) (arms : List (List Word × Script))
  /-- Runs a script without effect on what follows but for what it writes. -/
  | apart (script : Script)
  | redirected (script : Script) (redirections : List Redirection)

namespace Script

/-- The text of a word that is neither quoted nor has parameters in it. -/
def plain? : Word → Option String
  | [.text chars false] => some (String.ofList chars)
  | _ => none

def isWordText (token : Token) (text : String) : Bool :=
  match token with
  | .word w => plain? w == some text
  | _ => false

/-- What closes a construct or goes on with it. -/
def isCloser (token : Token) : Bool :=
  token == .sign ")" || token == .sign ";;" ||
    ["then", "elif", "else", "fi", "do", "done", "esac", "\x7d"].any (isWordText token)

def isSeparator (token : Token) : Bool :=
  token == .sign ";" || token == .sign "\n" || token == .sign "&"

def dropNewlines (tokens : List Token) : List Token :=
  tokens.dropWhile fun token => token == .sign "\n"

def dropSeparators (tokens : List Token) : List Token :=
  tokens.dropWhile isSeparator

/-- Passes over the word `text`. -/
def expect (text : String) : List Token → Option (List Token)
  | token :: rest => if isWordText token text then some rest else none
  | [] => none

/-- Passes over a sign. -/
def expectSign (text : String) : List Token → Option (List Token)
  | token :: rest => if token = .sign text then some rest else none
  | [] => none

/-- An assignment, taken apart into its name and its value. -/
def assignment? : Word → Option (String × Word)
  | .text chars false :: rest =>
    let name := chars.takeWhile Token.isNameChar
    match chars.drop name.length with
    | '=' :: value =>
      if name.head?.any Token.isNameStart then
        some (String.ofList name, if value = [] then rest else .text value false :: rest)
      else none
    | _ => none
  | _ => none

/-- Adds a word to a command. Assignments come before the first word only. -/
def addWord (command : Simple) (w : Word) : Simple :=
  match command.words, assignment? w with
  | [], some assigned => { command with assignments := command.assignments ++ [assigned] }
  | _, _ => { command with words := command.words ++ [w] }

/-- Reads on in a simple command. -/
def readParts : Simple → List Token → Simple × List Token
  | command, .redirect descriptor mark :: .word w :: rest =>
    readParts { command with
      redirections := command.redirections ++ [⟨descriptor, mark, w⟩] } rest
  | command, .word w :: rest => readParts (addWord command w) rest
  | command, rest => (command, rest)

def readRedirections : List Token → List Redirection × List Token
  | .redirect descriptor mark :: .word w :: rest =>
    let (more, rest) := readRedirections rest
    (⟨descriptor, mark, w⟩ :: more, rest)
  | rest => ([], rest)

/-- The words at the front. -/
def readWords : List Token → List Word × List Token
  | .word w :: rest =>
    let (more, rest) := readWords rest
    (w :: more, rest)
  | rest => ([], rest)

/-- The patterns of an arm, up to the bracket behind them. -/
def readPatterns : List Token → Option (List Word × List Token)
  | .word w :: .sign "|" :: rest => (readPatterns rest).map fun (more, rest) => (w :: more, rest)
  | .word w :: .sign ")" :: rest => some ([w], rest)
  | _ => none

/-- A script with the redirections that follow it. -/
def withRedirections (script : Script) (tokens : List Token) : Script × List Token :=
  match readRedirections tokens with
  | ([], rest) => (script, rest)
  | (redirections, rest) => (.redirected script redirections, rest)

/-- What a loop goes through, and what follows its head. -/
def readRange (tokens : List Token) : Option (List Word) × List Token :=
  match expect "in" (dropNewlines tokens) with
  | some rest =>
    let (words, rest) := readWords rest
    (some words, dropSeparators rest)
  | none => (none, dropSeparators tokens)

mutual

/-- Commands up to the end or to what closes the construct they are in. -/
def readList : Nat → List Token → Option (Script × List Token)
  | 0, _ => none
  | n + 1, tokens =>
    match dropSeparators tokens with
    | [] => some (.nothing, [])
    | token :: rest =>
      if isCloser token then some (.nothing, token :: rest)
      else do
        let (first, rest) ← readChain n (token :: rest)
        if rest.head?.any isSeparator then
          let (more, rest) ← readList n rest
          pure (.sequence first more, rest)
        else pure (first, rest)

/-- Pipelines with `&&` and `||` between them. -/
def readChain : Nat → List Token → Option (Script × List Token)
  | 0, _ => none
  | n + 1, tokens => do
    let (first, rest) ← readPipeline n tokens
    readLinks n first rest

def readLinks : Nat → Script → List Token → Option (Script × List Token)
  | 0, _, _ => none
  | n + 1, first, tokens =>
    match tokens with
    | .sign "&&" :: rest => do
      let (second, rest) ← readPipeline n (dropNewlines rest)
      readLinks n (.depending true first second) rest
    | .sign "||" :: rest => do
      let (second, rest) ← readPipeline n (dropNewlines rest)
      readLinks n (.depending false first second) rest
    | rest => some (first, rest)

def readPipeline : Nat → List Token → Option (Script × List Token)
  | 0, _ => none
  | n + 1, tokens =>
    match expect "!" tokens with
    | some rest => (readPipeline n rest).map fun (script, rest) => (.negated script, rest)
    | none => do
      let (first, rest) ← readCommand n tokens
      match rest with
      | .sign "|" :: rest =>
        let (second, rest) ← readPipeline n (dropNewlines rest)
        pure (.piped first second, rest)
      | rest => pure (first, rest)

def readCommand : Nat → List Token → Option (Script × List Token)
  | 0, _ => none
  | n + 1, tokens =>
    match tokens with
    | [] => none
    | .sign "(" :: rest => do
      let (inside, rest) ← readList n rest
      let rest ← expectSign ")" rest
      pure (withRedirections (.apart inside) rest)
    | .word w :: rest =>
      match plain? w with
      | some "\x7b" => do
        let (inside, rest) ← readList n rest
        let rest ← expect "\x7d" rest
        pure (withRedirections inside rest)
      | some "if" => readBranch n rest
      | some "while" => readLoop n true rest
      | some "until" => readLoop n false rest
      | some "for" =>
        match rest with
        | .word name :: rest => do
          let (words, rest) := readRange rest
          let rest ← expect "do" rest
          let (body, rest) ← readList n rest
          let rest ← expect "done" rest
          pure (withRedirections (.each ((plain? name).getD "") words body) rest)
        | _ => none
      | some "case" =>
        match rest with
        | .word subject :: rest => do
          let rest ← expect "in" (dropNewlines rest)
          let (arms, rest) ← readArms n (dropNewlines rest)
          pure (withRedirections (.choose subject arms) rest)
        | _ => none
      | _ =>
        let (command, rest) := readParts ⟨[], [], []⟩ (.word w :: rest)
        some (.simple command, rest)
    | .redirect descriptor mark :: rest =>
      let (command, rest) := readParts ⟨[], [], []⟩ (.redirect descriptor mark :: rest)
      if command.redirections = [] then none else some (.simple command, rest)
    | _ => none

/-- A conditional from its test on. -/
def readBranch : Nat → List Token → Option (Script × List Token)
  | 0, _ => none
  | n + 1, tokens => do
    let (test, rest) ← readList n tokens
    let rest ← expect "then" rest
    let (yes, rest) ← readList n rest
    match expect "elif" rest, expect "else" rest with
    | some rest, _ =>
      let (no, rest) ← readBranch n rest
      pure (.branch test yes no, rest)
    | none, some rest =>
      let (no, rest) ← readList n rest
      let rest ← expect "fi" rest
      pure (withRedirections (.branch test yes no) rest)
    | none, none =>
      let rest ← expect "fi" rest
      pure (withRedirections (.branch test yes .nothing) rest)

def readLoop : Nat → Bool → List Token → Option (Script × List Token)
  | 0, _, _ => none
  | n + 1, wanted, tokens => do
    let (test, rest) ← readList n tokens
    let rest ← expect "do" rest
    let (body, rest) ← readList n rest
    let rest ← expect "done" rest
    pure (withRedirections (.loop wanted test body) rest)

def readArms : Nat → List Token → Option (List (List Word × Script) × List Token)
  | 0, _ => none
  | n + 1, tokens =>
    match expect "esac" tokens with
    | some rest => some ([], rest)
    | none => do
      let (patterns, rest) ← readPatterns ((expectSign "(" tokens).getD tokens)
      let (body, rest) ← readList n rest
      let rest := dropNewlines ((expectSign ";;" rest).getD rest)
      let (arms, rest) ← readArms n rest
      pure ((patterns, body) :: arms, rest)

end

/-- The script a text gives, none when it is not well formed. Every step takes a token or leads to
one of a fixed number of further steps. -/
def ofText? (text : List Char) : Option Script := do
  let tokens ← Token.ofText? text
  let (script, rest) ← readList (8 * tokens.length + 8) tokens
  if rest.isEmpty then some script else none

end Script

end EnvScout.Shell
