/-!
# Shell syntax

The commands of the POSIX shell that runs task scripts (`/bin/sh`), as the parser produces
them. A word is a list of parts: literal text, with a flag saying whether it was quoted, and the
expansions (`$name`, `${name op word}`, `${#name}`, `$((…))`, `$(…)` and backquotes). The text
of an arithmetic expression, of a command substitution and of the word after a parameter
operator is kept as written and read again when the expansion happens, as the shell does.
-/

namespace Fanout.Posix

/-- A piece of a word. -/
inductive Part where
  /-- Literal text; quoted text is neither split nor matched as a pattern. -/
  | text (s : String) (quoted : Bool)
  /-- `$name` or `${name op word}`; `op` is empty for a plain expansion. -/
  | param (name : String) (op : String) (arg : String) (quoted : Bool)
  /-- `${#name}`. -/
  | length (name : String) (quoted : Bool)
  /-- `$((expression))`. -/
  | arith (src : String) (quoted : Bool)
  /-- `$(commands)` or a backquoted command. -/
  | subst (src : String) (quoted : Bool)
  /-- `${…}` that names no known expansion: an error when it is expanded, not when it is read. -/
  | invalid (raw : String) (quoted : Bool)
  /-- `~` or `~user` at the start of a word: a home directory. -/
  | tilde (user : String)
  deriving Inhabited, Repr, BEq

/-- A word. -/
abbrev Word := List Part

/-- The literal text of a word made only of text, quoted or not. -/
def Word.literal? (w : Word) : Option String :=
  w.foldlM (fun acc p => match p with
    | .text s _ => some (acc ++ s)
    | _ => none) ""

/-- Whether any part of the word was quoted. -/
def Word.hasQuotes (w : Word) : Bool :=
  w.any fun p => match p with
    | .text _ q => q
    | .param _ _ _ q => q
    | .length _ q => q
    | .arith _ q => q
    | .subst _ q => q
    | .invalid _ q => q
    | .tilde _ => false

/-- The unquoted text of a word that is a single unquoted literal: a reserved word or a name. -/
def Word.bare? (w : Word) : Option String :=
  match w with
  | [.text s false] => some s
  | _ => none

/-- What a redirection does. -/
inductive RedirKind where
  /-- `<`. -/
  | input
  /-- `>`. -/
  | output
  /-- `>|`, which writes over a file even under `set -C`. -/
  | clobber
  /-- `>>`. -/
  | append
  /-- `<>`. -/
  | readWrite
  /-- `<&`. -/
  | dupInput
  /-- `>&`. -/
  | dupOutput
  /-- `<<` or `<<-`; the target is the number of the document's body. -/
  | document (quoted : Bool)
  deriving Inhabited, Repr, BEq

/-- A redirection: the descriptor (the default one when not given), what is done and the
target word. -/
structure Redir where
  fd : Option Nat
  kind : RedirKind
  target : Word
  /-- The number of the here-document's body, for `document`. -/
  body : Nat := 0
  deriving Inhabited, Repr, BEq

/-- A command. -/
inductive Cmd where
  /-- Assignments, words and redirections of one simple command, with its line. -/
  | simple (line : Nat) (assigns : List (String × Word)) (words : List Word) (redirs : List Redir)
  | pipeline (negate : Bool) (cmds : List Cmd)
  | andThen (a b : Cmd)
  | orElse (a b : Cmd)
  | seq (a b : Cmd)
  | background (c : Cmd)
  | subshell (c : Cmd) (redirs : List Redir)
  | group (c : Cmd) (redirs : List Redir)
  | ifThen (cond thenPart : Cmd) (elsePart : Option Cmd) (redirs : List Redir)
  /-- `while` (or `until` when `isUntil`). -/
  | loop (isUntil : Bool) (cond body : Cmd) (redirs : List Redir)
  | forIn (name : String) (items : Option (List Word)) (body : Cmd) (redirs : List Redir)
  | caseOf (subject : Word) (arms : List (List Word × Cmd)) (redirs : List Redir)
  | function (name : String) (body : Cmd)
  | empty
  deriving Inhabited, Repr

/-- Whether a string is a shell name: a letter or underscore, then letters, digits and
underscores. -/
def isName (s : String) : Bool :=
  match s.toList with
  | [] => false
  | c :: cs => (c.isAlpha || c == '_') && cs.all fun c => c.isAlphanum || c == '_'

end Fanout.Posix
