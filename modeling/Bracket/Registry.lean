import Bracket.Table

/-!
Registries: two-level tables. A fixed level of defaults lies under a local level that is looked at
first; removing a local entry uncovers the default of its name.
-/

namespace Bracket

/-- Defaults under local entries. -/
structure Registry (α : Type) where
  defaults : List (String × α)
  entries : Table α := []

namespace Registry

variable {α : Type}

/-- The entry of a name, the local one first. -/
def get? (r : Registry α) (name : String) : Option α :=
  match r.entries.get? name with
  | some entry => some entry
  | none => Table.get? r.defaults name

def contains (r : Registry α) (name : String) : Bool := (r.get? name).isSome

/-- Adds or replaces a local entry, with the local entry that it replaced. -/
def insert (r : Registry α) (name : String) (entry : α) : Option α × Registry α :=
  (r.entries.get? name, { r with entries := r.entries.insert name entry })

/-- Removes a local entry, with what was removed. -/
def remove (r : Registry α) (name : String) : Option α × Registry α :=
  (r.entries.get? name, { r with entries := r.entries.erase name })

/-- The known entries: the local ones in order, then the defaults that none of them shadows. -/
def toList (r : Registry α) : List (String × α) :=
  r.entries ++ r.defaults.filter fun entry => !r.entries.contains entry.1

end Registry

end Bracket
