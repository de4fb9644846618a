/-
# Console.Typed -- a line with its backspaces carried out

A line that is typed can hold backspaces.  Each of them takes back what was typed last
and not taken back yet: a whole cluster, such as a letter with its accents.

The width of a cluster is kept as a count of bytes in one byte.  Of a cluster of 256
bytes or more a backspace takes back only as many bytes as the count shows, from the end
of the line as it then stands.  No character is split: one that is reached in part goes
as a whole.

This stands in for the package that edits lines, on an input that is not a terminal.  A call takes
the lines as they have been read (`Console.Reader`), and nothing is proved from this module.
-/
import Scriptlet.Console.Cluster

namespace Scriptlet.Console

set_option autoImplicit false

/-- A line as far as it has been typed: its characters in reverse, and the widths of the
clusters that can be taken back, the last one first. -/
structure Draft where
  reversed : List Char
  widths : List Nat

namespace Draft

def empty : Draft := ⟨[], []⟩

/-- The number of bytes of some characters. -/
def byteCount (characters : List Char) : Nat :=
  characters.foldl (fun bytes character => bytes + character.utf8Size) 0

/-- Drops characters from the front until the given number of bytes is gone. -/
def dropBytes : Nat → List Char → List Char
  | 0, characters => characters
  | _, [] => []
  | bytes, c :: rest => dropBytes (bytes - c.utf8Size) rest

/-- Takes back the cluster typed last. -/
def backspace (draft : Draft) : Draft :=
  match draft.widths with
  | [] => draft
  | width :: others => ⟨dropBytes width draft.reversed, others⟩

/-- Types one cluster, of which a backspace is one by itself. -/
def type (draft : Draft) (cluster : List Char) : Draft :=
  if cluster = ['\x08'] then draft.backspace
  else ⟨cluster.reverse ++ draft.reversed, byteCount cluster % 256 :: draft.widths⟩

end Draft

/-- The line that is left when all backspaces are carried out. -/
def typed (line : String) : String :=
  String.ofList ((clusters line.toList).foldl Draft.type .empty).reversed.reverse

example : typed "prinz\x08t 12\x08" = "print 1" := by decide +kernel
example : typed "\x08xe\u0301\x08y" = "xy" := by decide +kernel

end Scriptlet.Console
