import Conveyance.Text.Basic

/-!
# Script/Command — what a shell script is made of

A script is a list of commands.  A simple command is a list of words with redirections; loops,
branches, groups and the connectives put commands together.  A `Word` is made of pieces, because
**what a quote holds is never expanded into names of files**.
-/

namespace Conveyance

/-- A part of a word. -/
inductive WordPiece where
  | text (text : Text)
  /-- The value of a parameter or variable. -/
  | value (name : Text)
  /-- A star outside quotes, for the names of files. -/
  | star
  deriving DecidableEq, Repr

/-- A word of a script. -/
structure Word where
  pieces : List WordPiece
  /-- A part of the word is quoted, so that the word stands even when it is empty. -/
  quoted : Bool
  deriving DecidableEq, Repr

/-- The text of a word that is written without quotes and values. -/
def Word.bare? (w : Word) : Option Text :=
  match w.pieces, w.quoted with
  | [.text t], false => some t
  | _, _ => none

/-- Where a command reads or writes. -/
inductive Redirection where
  /-- Standard output, or with the number 2 the messages, into a file. -/
  | into (descriptor : Nat) (file : Word) (appending : Bool)
  | fromFile (file : Word)
  /-- One descriptor in the place of another. -/
  | like (descriptor : Nat) (other : Nat)
  deriving DecidableEq, Repr

/-- A command of a script. -/
inductive Command where
  | simple (words : List Word) (redirections : List Redirection)
  | loop (variableName : Text) (words : List Word) (body : List Command)
      (redirections : List Redirection)
  | branch (condition body alternative : List Command) (redirections : List Redirection)
  | group (body : List Command) (redirections : List Redirection)
  /-- The second only after the first has succeeded. -/
  | both (first second : Command)
  /-- The second only after the first has failed. -/
  | either (first second : Command)
  /-- The second reads what the first writes. -/
  | pipe (first second : Command)
  /-- The opposite outcome. -/
  | opposite (command : Command)

end Conveyance
