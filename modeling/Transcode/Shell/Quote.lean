import Transcode.Text.Basic
import Transcode.Text.Split

/-!
# Quoting for a shell

A command is shown as a line that a shell, and `Words.split`, reads back as the same arguments. An
argument of harmless characters is written as it is. Any other one goes between single quotes, and
a single quote in it is written between double ones, with the single quotes closed before it and
opened again after it. The empty argument is an empty quotation.

## Main definitions

* `quote` — one argument;
* `join` — a line of arguments.
-/

namespace Transcode.Shell

/-- Characters that mean nothing to a shell: ASCII letters and digits, and some marks. -/
def isHarmless : Sign → Bool
  | .char c => c.isAlphanum || "_@%+=:,./-".toList.contains c
  | .half _ => false

/-- A sign between single quotes. -/
def quoteSign (s : Sign) : Text :=
  if s = .char '\'' then ['\'', '"', '\'', '"', '\''] else [s]

/-- An argument, between single quotes if it is empty or a sign of it is not `isHarmless`. -/
def quote (argument : Text) : Text :=
  if argument.isEmpty then ['\'', '\'']
  else if argument.all isHarmless then argument
  else .char '\'' :: argument.flatMap quoteSign ++ [.char '\'']

/-- Arguments on one line, each by `quote`, with a blank between each two. -/
def join (arguments : List Text) : Text :=
  Text.joinWith [.char ' '] (arguments.map quote)

end Transcode.Shell
