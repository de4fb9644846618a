/-
# Environment -- scopes and their bindings

Scopes are kept in an array, in the order in which they were opened.  The first
is the root of the session; each other one knows its parent, the scope that was
current when it was opened.  A name is looked up from the current scope outwards
and assigned in the current scope only, so an assignment shadows a binding
further out and never changes it.

`enter` hands out the number of the scope that was current, and `leave` takes it
back: scopes are left in the opposite order.  The root is never discarded.
-/
import Scriptlet.Value

namespace Scriptlet

set_option autoImplicit false

/-- The bindings of one scope, and the number of the scope around it. -/
structure Scope where
  bindings : List (String × Value)
  parent : Option Nat

/-- The scopes of a session, and the number of the current one. -/
structure Environment where
  scopes : Array Scope
  current : Nat

namespace Environment

/-- A session with these bindings in its root scope and no other scope. -/
def ofBindings (bindings : List (String × Value)) : Environment :=
  ⟨#[⟨Dictionary.ofList bindings, none⟩], 0⟩

/-- A session without bindings. -/
def new : Environment := ofBindings []

/-- The number of scopes, the root included. -/
def depth (environment : Environment) : Nat := environment.scopes.size

/-- The first binding of a name on the way from a scope outwards, over at most
`steps` scopes. -/
def resolve? (scopes : Array Scope) (name : String) : Nat → Nat → Option Value
  | 0, _ => none
  | steps + 1, number =>
      match scopes[number]? with
      | none => none
      | some scope =>
          match Dictionary.find? name scope.bindings with
          | some value => some value
          | none =>
              match scope.parent with
              | none => none
              | some parent => resolve? scopes name steps parent

/-- The value of a name, in the current scope or the nearest one around it. -/
def lookup? (environment : Environment) (name : String) : Option Value :=
  resolve? environment.scopes name environment.scopes.size environment.current

/-- Binds a name in the current scope. -/
def assign (environment : Environment) (name : String) (value : Value) : Environment :=
  { environment with
    scopes := environment.scopes.modify environment.current fun scope =>
      { scope with bindings := Dictionary.insert name value scope.bindings } }

/-- The bindings of the current scope. -/
def localBindings (environment : Environment) : List (String × Value) :=
  match environment.scopes[environment.current]? with
  | some scope => scope.bindings
  | none => []

/-- The value of a name in the current scope. -/
def local? (environment : Environment) (name : String) : Option Value :=
  Dictionary.find? name environment.localBindings

/-- The bindings of the scope around the current one; the root has none around it. -/
def parentBindings? (environment : Environment) : Option (List (String × Value)) := do
  let scope ← environment.scopes[environment.current]?
  let parent ← scope.parent
  let around ← environment.scopes[parent]?
  pure around.bindings

/-- Opens a scope in the current one.  The number that comes with it is that of the
scope that was current. -/
def enter (environment : Environment) : Nat × Environment :=
  (environment.current,
    { scopes := environment.scopes.push ⟨[], some environment.current⟩
      current := environment.scopes.size })

/-- Discards the scope opened last and makes `caller` current. -/
def leave (environment : Environment) (caller : Nat) : Environment :=
  { scopes := if environment.scopes.size > 1 then environment.scopes.pop else environment.scopes
    current := caller }

end Environment

end Scriptlet
