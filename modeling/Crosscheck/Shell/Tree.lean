import Crosscheck.Shell.Word

/-!
# Commands of the shell

What a script says, as a tree: simple commands with their assignments, words and redirections, and
the ways to put commands together.
-/

namespace Crosscheck.Shell

inductive OpenMode where
  | read
  | write
  | append
  | readWrite
  deriving DecidableEq, Repr

inductive Redirection where
  | file (fd : Nat) (mode : OpenMode) (target : Word)
  /-- Makes a descriptor another name for one that is open, or closes it. -/
  | duplicate (fd : Nat) (target : Word)
  /-- Reads from a text in the script. -/
  | document (fd : Nat) (body : Word)
  deriving DecidableEq, Repr

inductive Tree where
  | skip
  | simple (line : Nat) (assignments : List (Octets × Word)) (words : List Word)
      (redirections : List Redirection)
  | pipeline (parts : List Tree)
  | negated (t : Tree)
  /-- The second runs if the first succeeds. -/
  | both (a b : Tree)
  /-- The second runs if the first fails. -/
  | either (a b : Tree)
  | sequence (a b : Tree)
  | background (t : Tree)
  | subshell (t : Tree)
  | redirected (line : Nat) (t : Tree) (redirections : List Redirection)
  | branch (condition yes no : Tree)
  | loop (untilTrue : Bool) (condition body : Tree)
  /-- Without words the loop is over the arguments. -/
  | each (line : Nat) (name : Octets) (words : Option (List Word)) (body : Tree)
  | select (line : Nat) (subject : Word) (arms : List (List Word × Tree))
  | define (name : Octets) (body : Tree)

end Crosscheck.Shell
