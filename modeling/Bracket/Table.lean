/-!
Tables: finite maps from texts that remember the order in which their keys were first inserted.
Writing a key again keeps its place.
-/

namespace Bracket

/-- Entries in order of first insertion. -/
abbrev Table (α : Type) := List (String × α)

namespace Table

variable {α β : Type}

/-- The entry of a key. -/
def get? : Table α → String → Option α
  | [], _ => none
  | (k, v) :: rest, key => if k = key then some v else get? rest key

def contains (t : Table α) (key : String) : Bool := (t.get? key).isSome

/-- Writes an entry: in place when the key is there, at the end otherwise. -/
def insert : Table α → String → α → Table α
  | [], key, value => [(key, value)]
  | (k, v) :: rest, key, value =>
    if k = key then (k, value) :: rest else (k, v) :: insert rest key value

/-- Removes the entry of a key. -/
def erase : Table α → String → Table α
  | [], _ => []
  | (k, v) :: rest, key => if k = key then rest else (k, v) :: erase rest key

def keys (t : Table α) : List String := t.map Prod.fst

/-- Inserts entries one after the other. -/
def insertAll (t : Table α) (entries : List (String × α)) : Table α :=
  entries.foldl (fun t entry => t.insert entry.1 entry.2) t

/-- The table of entries inserted in the given order. -/
def ofEntries (entries : List (String × α)) : Table α := insertAll [] entries

/-! ### What a write changes -/

@[simp] theorem get?_insert_self (t : Table α) (key : String) (value : α) :
    (t.insert key value).get? key = some value := by
  induction t with
  | nil => simp [insert, get?]
  | cons entry rest ih =>
    obtain ⟨k, v⟩ := entry
    by_cases same : k = key <;> simp [insert, get?, same, ih]

theorem get?_insert_of_ne (t : Table α) {key other : String} (value : α) (ne : key ≠ other) :
    (t.insert key value).get? other = t.get? other := by
  induction t with
  | nil => simp [insert, get?, ne]
  | cons entry rest ih =>
    obtain ⟨k, v⟩ := entry
    by_cases same : k = key
    · subst same
      simp [insert, get?, ne]
    · simp [insert, get?, same, ih]

/-- A key without an entry is none of the keys. -/
theorem get?_eq_none_iff (t : Table α) (key : String) : t.get? key = none ↔ key ∉ t.keys := by
  induction t with
  | nil => simp [get?, keys]
  | cons entry rest ih =>
    obtain ⟨k, v⟩ := entry
    by_cases same : k = key
    · simp [get?, keys, same]
    · simpa [get?, keys, same, Ne.symm same] using ih

@[simp] theorem keys_cons (entry : String × α) (rest : Table α) :
    keys (entry :: rest) = entry.1 :: keys rest := rfl

/-- A key that is there keeps its place, and any other comes last. -/
theorem keys_insert (t : Table α) (key : String) (value : α) :
    (t.insert key value).keys = if key ∈ t.keys then t.keys else t.keys ++ [key] := by
  induction t with
  | nil => simp [insert, keys]
  | cons entry rest ih =>
    obtain ⟨k, v⟩ := entry
    by_cases same : k = key
    · simp [insert, same]
    · rw [insert, if_neg same, keys_cons, keys_cons, ih]
      by_cases found : key ∈ keys rest
      · simp [found]
      · simp [found, Ne.symm same]

end Table

end Bracket
