import Bracket.Text.Quoted
import Bracket.Value.Basic

/-!
The store: the variables of all scopes, and the numbers that tell arrays, objects and functions
apart. A scope is a chain of levels of the store; looking a name up searches the chain, writing
touches the innermost level alone.
-/

namespace Bracket

/-- The variables of every level, and the next number for a new value. The first numbers belong to
the functions of the library. -/
structure Store where
  levels : Array (Table Value) := #[]
  nextId : Nat := Builtin.all.length

namespace Store

/-- The variables of a level. -/
def locals (st : Store) (level : Nat) : Table Value := st.levels.getD level []

/-- A new scope without variables, inside another or on its own. -/
def newScope (st : Store) (outer : Option Scope) : Scope × Store :=
  let chain := match outer with
    | some scope => scope.level :: scope.outer
    | none => []
  (⟨st.levels.size, chain⟩, { st with levels := st.levels.push [] })

/-- The variable of a name in the first of the given levels that has it. -/
def search? (st : Store) (name : String) : List Nat → Option Value
  | [] => none
  | level :: outer =>
    match (st.locals level).get? name with
    | some v => some v
    | none => search? st name outer

/-- The variable of a name, searched from the inside out. -/
def get? (st : Store) (scope : Scope) (name : String) : Option Value :=
  st.search? name (scope.level :: scope.outer)

def contains (st : Store) (scope : Scope) (name : String) : Bool := (st.get? scope name).isSome

/-- Sets a variable of the innermost level. -/
def assign (st : Store) (scope : Scope) (name : String) (v : Value) : Store :=
  { st with levels := st.levels.modify scope.level fun vars => vars.insert name v }

/-- Sets variables of the innermost level one after the other. -/
def assignAll (st : Store) (scope : Scope) (entries : List (String × Value)) : Store :=
  entries.foldl (fun st entry => st.assign scope entry.1 entry.2) st

/-- Takes the next `count` numbers, and gives the first of them. -/
def reserve (st : Store) (count : Nat) : Nat × Store :=
  (st.nextId, { st with nextId := st.nextId + count })

/-- The names of the innermost level, in order, and whether there are levels around it. -/
def describe (st : Store) (scope : Scope) : String :=
  let names := (st.locals scope.level).keys.mergeSort fun a b => decide (a ≤ b)
  "Scope([" ++ ", ".intercalate (names.map Text.quoted) ++ "], outer: " ++
    (if scope.outer.isEmpty then "false" else "true") ++ ")"

/-! ### What a new scope and a write change -/

/-- Making a scope leaves the levels before it alone. -/
theorem locals_newScope (st : Store) (outer : Option Scope) {level : Nat}
    (old : level < st.levels.size) : (st.newScope outer).2.locals level = st.locals level := by
  have before : level ≠ st.levels.size := Nat.ne_of_lt old
  simp [newScope, locals, Array.getD_eq_getD_getElem?, Array.getElem?_push, before]

/-- A write touches no level but the innermost one. -/
theorem locals_assign_of_ne (st : Store) (scope : Scope) (name : String) (v : Value) {level : Nat}
    (ne : scope.level ≠ level) : (st.assign scope name v).locals level = st.locals level := by
  simp [assign, locals, Array.getD_eq_getD_getElem?, Array.getElem?_modify, ne]

end Store

end Bracket
