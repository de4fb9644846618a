/-
# Value.Display -- the text of a value

What printing a value writes.  A text is written as it is when it is printed by
itself, and quoted when it stands in a list or a map; keys are always quoted.
The text is composed of `pieces`, one for each write that printing makes: a sink
that is full refuses the next piece and keeps those before it.
-/
import Scriptlet.Number.Decimal
import Scriptlet.Text.Quoted
import Scriptlet.Value

namespace Scriptlet.Value

set_option autoImplicit false

mutual

/-- The pieces of a value's text; `inside` a container a text is quoted. -/
def pieces (inside : Bool) (value : Value) : List String :=
  match value with
  | .integer i => [toString i.toInt]
  | .float x => [x.text]
  | .text s => [if inside then Text.quote s else s]
  | .boolean true => ["true"]
  | .boolean false => ["false"]
  | .null => ["null"]
  | .list items => "[" :: itemPieces items ++ ["]"]
  | .map entries => "\x7b" :: entryPieces entries ++ ["\x7d"]
  | .function parameters _ => ["<function(", ", ".intercalate (parameters.map Name.text), ")>"]
termination_by structural value

def itemPieces (items : List Value) : List String :=
  match items with
  | [] => []
  | item :: rest =>
      item.pieces true ++ if rest.isEmpty then [] else ", " :: itemPieces rest
termination_by structural items

def entryPieces (entries : List (String × Value)) : List String :=
  match entries with
  | [] => []
  | entry :: rest =>
      pairPieces entry ++ if rest.isEmpty then [] else ", " :: entryPieces rest
termination_by structural entries

def pairPieces (entry : String × Value) : List String :=
  match entry with
  | (key, value) => Text.quote key :: ": " :: value.pieces true
termination_by structural entry

end

/-- The text of a value. -/
def display (value : Value) : String := String.join (value.pieces false)

example : (list [.integer (-1), .text "a", .map [("k", .null)]]).display
    = "[-1, \"a\", \x7b\"k\": null\x7d]" := by decide +kernel

end Scriptlet.Value
