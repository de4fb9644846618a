/-
# Dictionary -- texts to values, in the order of their keys

Maps of the language and the bindings of a scope are lists of pairs, sorted by
key and without repeats.  Keys are compared character by character by code
point, which is also the order of their UTF-8 bytes.  `insert` keeps the order
and replaces the value of a key that is there already; so two dictionaries with
the same content are the same list.
-/

namespace Scriptlet.Dictionary

set_option autoImplicit false

variable {α : Type}

/-- The value of a key. -/
def find? (key : String) : List (String × α) → Option α
  | [] => none
  | (k, value) :: rest => if k = key then some value else find? key rest

/-- The dictionary with the key set to the value. -/
def insert (key : String) (value : α) : List (String × α) → List (String × α)
  | [] => [(key, value)]
  | (k, v) :: rest =>
      if key < k then (key, value) :: (k, v) :: rest
      else if key = k then (key, value) :: rest
      else (k, v) :: insert key value rest

/-- The dictionary of some pairs, of which the last one of each key counts. -/
def ofList (pairs : List (String × α)) : List (String × α) :=
  pairs.foldl (fun entries pair => insert pair.1 pair.2 entries) []

theorem find?_insert (key wanted : String) (value : α) (entries : List (String × α)) :
    find? wanted (insert key value entries)
      = if key = wanted then some value else find? wanted entries := by
  induction entries with
  | nil => simp [insert, find?]
  | cons entry rest ih =>
    obtain ⟨k, v⟩ := entry
    unfold insert
    split
    · rfl
    · split
      · next _ same => subst same; simp only [find?]; split <;> rfl
      · next _ other => grind [find?]

example : ofList [("b", 1), ("a", 2), ("b", 3)] = [("a", 2), ("b", 3)] := by decide

end Scriptlet.Dictionary
