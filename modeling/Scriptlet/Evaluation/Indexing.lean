/-
# Evaluation.Indexing -- elements by position and by key

A numeric index counts from zero and takes an item of a list or a character of a
text.  A float is an index if it stands for an integer; one beyond all words is
out of every range and is reported as the nearest word.  A text index takes the
value of a key in a map.
-/
import Scriptlet.Evaluation.RuntimeError

namespace Scriptlet.Value

set_option autoImplicit false

/-- The item at a position. -/
def itemAt {α : Type} (items : List α) (position : Int64) : Except RuntimeError α :=
  let missing := RuntimeError.indexOutOfRange position items.length
  if position.toInt < 0 then .error missing
  else
    match items[position.toInt.toNat]? with
    | some item => .ok item
    | none => .error missing

/-- What a numeric index takes out of a value. -/
def elementAt (base : Value) (position : Int64) : Except RuntimeError Value :=
  match base with
  | .list items => itemAt items position
  | .text s => do
      let c ← itemAt s.toList position
      pure (.text (String.singleton c))
  | _ => .error (.type (.numericIndex base.kind))

/-- What an index takes out of a value. -/
def indexed (base index : Value) : Except RuntimeError Value :=
  match index with
  | .integer i => base.elementAt i
  | .float x =>
      match x.toInt? with
      | some i => base.elementAt (Integer.clamp i)
      | none => .error (.type (.fractionalIndex x))
  | .text key =>
      match base with
      | .map entries =>
          match Dictionary.find? key entries with
          | some value => .ok value
          | none => .error (.keyNotFound key)
      | _ => .error (.type (.textIndex base.kind))
  | _ => .error (.type (.indexKind index.kind))

end Scriptlet.Value
