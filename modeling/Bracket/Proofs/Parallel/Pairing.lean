import Bracket.Proofs.Lexical.Simulation

/-!
Two evaluations side by side. Their stores need not have the same levels nor the same numbers; what
matters is that the leaves of every expression that may still be evaluated stand for alike values
on both sides. A likeness says which numbers and which closures of the two sides belong together,
and it grows while both sides go on.
Main statement: what an evaluation does to the stores keeps them paired.
-/

namespace Bracket

/-! ### The leaves of an expression -/

mutual

/-- The leaves of an expression from left to right. -/
def Node.leaves : Node → List (Mark × Literal)
  | .leaf mark literal => [(mark, literal)]
  | .call _ children => Node.leavesAll children
  | .function _ children => Node.leavesAll children
  | .member _ target _ => target.leaves

def Node.leavesAll : List Node → List (Mark × Literal)
  | [] => []
  | n :: rest => n.leaves ++ Node.leavesAll rest

end

/-- The leaves of what a closure evaluates. -/
def bodyLeaves (body : Option Node) : List (Mark × Literal) := body.elim [] Node.leaves

/-- The names at the leaves that are identifiers. -/
def identifiers (leaves : List (Mark × Literal)) : List String :=
  leaves.filterMap fun leaf =>
    match leaf with
    | (mark, .identifier) => some mark.text
    | _ => none

theorem mem_identifiers {leaves : List (Mark × Literal)} {name : String} :
    name ∈ identifiers leaves ↔
      ∃ mark : Mark, (mark, Literal.identifier) ∈ leaves ∧ mark.text = name := by
  unfold identifiers
  rw [List.mem_filterMap]
  constructor
  · rintro ⟨⟨mark, literal⟩, member, taken⟩
    cases literal with
    | identifier => exact ⟨mark, member, Option.some.inj taken⟩
    | _ => cases taken
  · rintro ⟨mark, member, text⟩
    exact ⟨(mark, .identifier), member, congrArg some text⟩

namespace Node

theorem leavesAll_eq_flatMap (nodes : List Node) : leavesAll nodes = nodes.flatMap leaves := by
  induction nodes with
  | nil => rfl
  | cons n rest ih => rw [leavesAll, ih, List.flatMap_cons]

theorem leaves_subset_all {child : Node} {children : List Node} (member : child ∈ children) :
    child.leaves ⊆ leavesAll children := by
  intro leaf inside
  rw [leavesAll_eq_flatMap]
  exact List.mem_flatMap.mpr ⟨child, member, inside⟩

theorem bodyLeaves_getLast?_subset (children : List Node) :
    bodyLeaves children.getLast? ⊆ leavesAll children := by
  cases last : children.getLast? with
  | none => exact List.nil_subset _
  | some body => exact leaves_subset_all (List.mem_of_getLast? last)

end Node

/-! ### Likenesses that grow -/

namespace Likeness

variable {C : Likeness}

/-- The pairs of numbers leave room for new numbers: both of a pair are taken, or they are as far
from the next ones on both sides. -/
def Fits (C : Likeness) (next next' : Nat) : Prop :=
  ∀ {i i' : Nat}, C.ids i i' → i < next ∧ i' < next' ∨ i + next' = i' + next

/-- The next numbers of both sides belong together. -/
def addNumbers (C : Likeness) (count next next' : Nat) (fits : C.Fits next next') : Likeness where
  ids i i' := C.ids i i' ∨ ∃ k < count, i = next + k ∧ i' = next' + k
  closures := C.closures
  ids_iff := by
    rintro i i' j j' (old | ⟨k, -, rfl, rfl⟩) (old' | ⟨m, -, rfl, rfl⟩)
    · exact C.ids_iff old old'
    · have := fits old
      omega
    · have := fits old'
      omega
    · omega
  text_eq := C.text_eq

/-- The closures of a body in two scopes belong together. -/
def addClosure (C : Likeness) (body : Option Node) (scope scope' : Scope) : Likeness where
  ids := C.ids
  closures b s b' s' :=
    C.closures b s b' s' ∨ b = body ∧ b' = body ∧ s = scope ∧ s' = scope'
  ids_iff := C.ids_iff
  text_eq := by
    rintro b b' s s' (old | ⟨rfl, rfl, -⟩)
    · exact C.text_eq old
    · rfl

theorem le_addNumbers {count next next' : Nat} (fits : C.Fits next next') :
    C ≤ C.addNumbers count next next' fits :=
  ⟨fun _ _ => .inl, fun _ _ _ _ => id⟩

theorem le_addClosure (body : Option Node) (scope scope' : Scope) :
    C ≤ C.addClosure body scope scope' :=
  ⟨fun _ _ => id, fun _ _ _ _ => .inl⟩

end Likeness

namespace Parallel

open Evaluator
open Lexical (Settled Spares)

/-- What is agreed on between the two sides: which levels of each may still be written, and whether
both number their levels in the same way. -/
structure Frame where
  hidden : Set Nat := ∅
  hidden' : Set Nat := ∅
  aligned : Prop

/-- A level of each side may be written as well. -/
def Frame.hide (F : Frame) (level level' : Nat) : Frame :=
  { F with hidden := insert level F.hidden, hidden' := insert level' F.hidden' }

/-- From `C` at two stores to `D` at two later ones: the likeness allows for more, and the numbers
that it adds are new on both sides. -/
structure Grows (C : Likeness) (st st' : Store) (D : Likeness) (after after' : Store) : Prop where
  le : C ≤ D
  next_le : st.nextId ≤ after.nextId
  next_le' : st'.nextId ≤ after'.nextId
  fresh : ∀ {i i' : Nat}, D.ids i i' → C.ids i i' ∨
    (st.nextId ≤ i ∧ i < after.nextId) ∧ st'.nextId ≤ i' ∧ i' < after'.nextId

namespace Grows

variable {C D E : Likeness} {st st' mid mid' after after' : Store}

/-- Nothing is added as long as no number is taken. -/
theorem of_next (next : after.nextId = st.nextId) (next' : after'.nextId = st'.nextId) :
    Grows C st st' C after after' where
  le := Likeness.le_refl C
  next_le := next.ge
  next_le' := next'.ge
  fresh := .inl

theorem trans (first : Grows C st st' D mid mid') (second : Grows D mid mid' E after after') :
    Grows C st st' E after after' where
  le := Likeness.le_trans first.le second.le
  next_le := Nat.le_trans first.next_le second.next_le
  next_le' := Nat.le_trans first.next_le' second.next_le'
  fresh := by
    intro i i' pair
    have left := first.next_le
    have left' := first.next_le'
    have right := second.next_le
    have right' := second.next_le'
    rcases second.fresh pair with earlier | later
    · rcases first.fresh earlier with old | new
      · exact .inl old
      · exact .inr (by omega)
    · exact .inr (by omega)

/-- Closures have no part in the numbers. -/
theorem addClosure (grows : Grows C st st' D after after') (body : Option Node)
    (scope scope' : Scope) : Grows C st st' (D.addClosure body scope scope') after after' where
  le := Likeness.le_trans grows.le (Likeness.le_addClosure body scope scope')
  next_le := grows.next_le
  next_le' := grows.next_le'
  fresh := grows.fresh

/-- The stores may change as long as they take no numbers. -/
theorem before {early early' : Store} (grows : Grows C st st' D after after')
    (next : st.nextId = early.nextId) (next' : st'.nextId = early'.nextId) :
    Grows C early early' D after after' :=
  (of_next next next').trans grows

end Grows

/-! ### Expressions that stand for the same -/

variable {C D : Likeness} {F : Frame} {st st' after after' : Store}
  {scope scope' : Scope} {N : String → Prop} {leaves : List (Mark × Literal)}

/-- The names have alike values in both scopes, or none in both. -/
def Finds (C : Likeness) (N : String → Prop) (st st' : Store) (scope scope' : Scope) : Prop :=
  ∀ name, N name → Option.Rel (Value.Like C) (st.get? scope name) (st'.get? scope' name)

namespace Finds

/-- Names that have the same values on both sides, alike to themselves. -/
theorem of_eq (same : ∀ name, N name → st'.get? scope' name = st.get? scope name)
    (own : ∀ name v, N name → st.get? scope name = some v → v.Like C v) :
    Finds C N st st' scope scope' := by
  intro name mentioned
  rw [same name mentioned]
  cases found : st.get? scope name with
  | none => exact .none
  | some v => exact .some (own name v mentioned found)

theorem mono (finds : Finds C N st st' scope scope') (le : C ≤ D) :
    Finds D N st st' scope scope' := by
  intro name mentioned
  have found := finds name mentioned
  revert found
  generalize st.get? scope name = v, st'.get? scope' name = v'
  intro found
  cases found with
  | none => exact .none
  | some alike => exact .some (alike.mono le)

theorem congr (finds : Finds C N st st' scope scope')
    (same : ∀ l ∈ scope.level :: scope.outer, after.locals l = st.locals l)
    (same' : ∀ l ∈ scope'.level :: scope'.outer, after'.locals l = st'.locals l) :
    Finds C N after after' scope scope' := by
  intro name mentioned
  rw [Store.get?_congr same, Store.get?_congr same']
  exact finds name mentioned

theorem newScope (finds : Finds C N st st' scope scope') :
    Finds C N (st.newScope (some scope)).2 (st'.newScope (some scope')).2
      (st.newScope (some scope)).1 (st'.newScope (some scope')).1 := by
  intro name mentioned
  rw [Store.get?_newScope, Store.get?_newScope]
  exact finds name mentioned

/-- Both sides set a variable of the innermost level to alike values. -/
theorem assign (finds : Finds C N st st' scope scope') (made : scope.level < st.levels.size)
    (made' : scope'.level < st'.levels.size) (name : String) {v v' : Value} (alike : v.Like C v') :
    Finds C N (st.assign scope name v) (st'.assign scope' name v') scope scope' := by
  intro other mentioned
  by_cases same : name = other
  · subst same
    rw [Store.get?_assign_self st made, Store.get?_assign_self st' made']
    exact .some alike
  · rw [Store.get?_assign_of_ne st made same, Store.get?_assign_of_ne st' made' same]
    exact finds other mentioned

/-- A name is bound on both sides or on neither. -/
theorem contains_eq (finds : Finds C N st st' scope scope') {name : String} (mentioned : N name) :
    st'.contains scope' name = st.contains scope name := by
  have found := finds name mentioned
  unfold Store.contains
  revert found
  generalize st.get? scope name = v, st'.get? scope' name = v'
  intro found
  cases found <;> rfl

end Finds

/-- The leaves stand for alike values in both scopes, and go on to do so because no level of the
scopes is written any more. -/
structure Anchored (F : Frame) (C : Likeness) (st st' : Store)
    (scope scope' : Scope) (leaves : List (Mark × Literal)) : Prop where
  settled : Settled F.hidden st scope
  settled' : Settled F.hidden' st' scope'
  aligned : F.aligned → scope' = scope
  finds : Finds C (· ∈ identifiers leaves) st st' scope scope'
  keywords : ∀ (mark : Mark) (v : Value), (mark, Literal.keyword v) ∈ leaves → v.Like C v

namespace Anchored

/-- A scope that was there before both sides began stands for the same on both. -/
theorem own {base : Store} (keeps : base.Keeps base.levels.size st)
    (keeps' : base.Keeps base.levels.size st') (shown : ∀ l ∈ F.hidden, base.levels.size ≤ l)
    (shown' : ∀ l ∈ F.hidden', base.levels.size ≤ l) (below : scope.Below base.levels.size)
    (values : ∀ name v, base.get? scope name = some v → v.Like C v)
    (keywords : ∀ (mark : Mark) (v : Value), (mark, Literal.keyword v) ∈ leaves → v.Like C v) :
    Anchored F C st st' scope scope leaves where
  settled l member := by
    have low := below l member
    exact ⟨Nat.lt_of_lt_of_le low keeps.size_le, fun inside => absurd (shown l inside) (by omega)⟩
  settled' l member := by
    have low := below l member
    exact ⟨Nat.lt_of_lt_of_le low keeps'.size_le, fun inside => absurd (shown' l inside) (by omega)⟩
  aligned _ := rfl
  finds := by
    refine .of_eq (fun name _ => ?_) fun name v _ found => ?_
    · rw [keeps.get? below, keeps'.get? below]
    · rw [keeps.get? below] at found
      exact values name v found
  keywords := keywords

theorem part {fewer : List (Mark × Literal)}
    (anchored : Anchored F C st st' scope scope' leaves)
    (subset : fewer ⊆ leaves) : Anchored F C st st' scope scope' fewer where
  settled := anchored.settled
  settled' := anchored.settled'
  aligned := anchored.aligned
  finds := by
    intro name mentioned
    obtain ⟨mark, member, text⟩ := mem_identifiers.mp mentioned
    exact anchored.finds name (mem_identifiers.mpr ⟨mark, subset member, text⟩)
  keywords mark v member := anchored.keywords mark v (subset member)

theorem later (anchored : Anchored F C st st' scope scope' leaves) (le : C ≤ D)
    (spares : Spares F.hidden st after) (spares' : Spares F.hidden' st' after') :
    Anchored F D after after' scope scope' leaves where
  settled := anchored.settled.grow spares.size_le
  settled' := anchored.settled'.grow spares'.size_le
  aligned := anchored.aligned
  finds := by
    refine Finds.mono (anchored.finds.congr ?_ ?_) le
    · intro l member
      exact spares.locals l (anchored.settled l member).1 (anchored.settled l member).2
    · intro l member
      exact spares'.locals l (anchored.settled' l member).1 (anchored.settled' l member).2
  keywords mark v member := (anchored.keywords mark v member).mono le

theorem newScope (anchored : Anchored F C st st' scope scope' leaves)
    (hidden_lt : ∀ l ∈ F.hidden, l < st.levels.size)
    (hidden_lt' : ∀ l ∈ F.hidden', l < st'.levels.size)
    (sizes : F.aligned → st'.levels.size = st.levels.size) :
    Anchored F C (st.newScope (some scope)).2 (st'.newScope (some scope')).2
      (st.newScope (some scope)).1 (st'.newScope (some scope')).1 leaves where
  settled := anchored.settled.newScope hidden_lt
  settled' := anchored.settled'.newScope hidden_lt'
  aligned together := by
    obtain rfl := anchored.aligned together
    simp only [Store.newScope, sizes together]
  finds := anchored.finds.newScope
  keywords := anchored.keywords

/-- No scope that is there goes through a level that is made next. -/
theorem hide (anchored : Anchored F C st st' scope scope' leaves)
    (outer outer' : Option Scope) :
    Anchored (F.hide st.levels.size st'.levels.size) C (st.newScope outer).2
      (st'.newScope outer').2 scope scope' leaves where
  settled := anchored.settled.hide outer
  settled' := anchored.settled'.hide outer'
  aligned := anchored.aligned
  finds := anchored.finds.congr (fun l _ => Store.locals_newScope_eq st outer l)
    fun l _ => Store.locals_newScope_eq st' outer' l
  keywords := anchored.keywords

theorem reveal {level level' : Nat}
    (anchored : Anchored (F.hide level level') C st st' scope scope' leaves) :
    Anchored F C st st' scope scope' leaves where
  settled := anchored.settled.reveal (Set.subset_insert level F.hidden)
  settled' := anchored.settled'.reveal (Set.subset_insert level' F.hidden')
  aligned := anchored.aligned
  finds := anchored.finds
  keywords := anchored.keywords

end Anchored

/-! ### The invariant -/

/-- Both sides are at the same depth, there is room for new numbers, and closures that belong
together have the same body, whose leaves stand for the same. -/
structure Sim (F : Frame) (C : Likeness) (s s' : State) : Prop where
  depth : s'.depth = s.depth
  sizes : F.aligned → s'.store.levels.size = s.store.levels.size
  hidden_lt : ∀ l ∈ F.hidden, l < s.store.levels.size
  hidden_lt' : ∀ l ∈ F.hidden', l < s'.store.levels.size
  fits : C.Fits s.store.nextId s'.store.nextId
  body : ∀ {body body' : Option Node} {scope scope' : Scope},
    C.closures body scope body' scope' → body' = body
  anchored : ∀ {body body' : Option Node} {scope scope' : Scope},
    C.closures body scope body' scope' →
    Anchored F C s.store s'.store scope scope' (bodyLeaves body)

namespace Sim

variable {s s' : State}

/-- Levels that are hidden or new may change on either side. -/
theorem later (sim : Sim F C s s') (spares : Spares F.hidden s.store st)
    (spares' : Spares F.hidden' s'.store st') (next : st.nextId = s.store.nextId)
    (next' : st'.nextId = s'.store.nextId)
    (sizes : F.aligned → st'.levels.size = st.levels.size) :
    Sim F C { s with store := st } { s' with store := st' } where
  depth := sim.depth
  sizes := sizes
  hidden_lt l inside := Nat.lt_of_lt_of_le (sim.hidden_lt l inside) spares.size_le
  hidden_lt' l inside := Nat.lt_of_lt_of_le (sim.hidden_lt' l inside) spares'.size_le
  fits := by
    intro i i' pair
    rw [next, next']
    exact sim.fits pair
  body := sim.body
  anchored same := (sim.anchored same).later (Likeness.le_refl C) spares spares'

theorem newScope (sim : Sim F C s s') (outer outer' : Option Scope) :
    Sim F C { s with store := (s.store.newScope outer).2 }
      { s' with store := (s'.store.newScope outer').2 } := by
  refine sim.later (.of_keeps (.newScope (Nat.le_refl _) outer))
    (.of_keeps (.newScope (Nat.le_refl _) outer')) rfl rfl fun together => ?_
  simp only [Store.newScope, Array.size_push, sim.sizes together]

theorem atDepth (sim : Sim F C s s') (depth : Nat) :
    Sim F C { s with depth } { s' with depth } :=
  { sim with depth := rfl }

/-- The levels that are made may be hidden. -/
theorem hide (sim : Sim F C s s') (outer outer' : Option Scope) :
    Sim (F.hide s.store.levels.size s'.store.levels.size) C
      { s with store := (s.store.newScope outer).2 }
      { s' with store := (s'.store.newScope outer').2 } where
  depth := sim.depth
  sizes := (sim.newScope outer outer').sizes
  hidden_lt := by
    rintro l (rfl | inside)
    · simp [Store.newScope]
    · exact (sim.newScope outer outer').hidden_lt l inside
  hidden_lt' := by
    rintro l (rfl | inside)
    · simp [Store.newScope]
    · exact (sim.newScope outer outer').hidden_lt' l inside
  fits := sim.fits
  body := sim.body
  anchored same := (sim.anchored same).hide outer outer'

theorem reveal {level level' : Nat} (sim : Sim (F.hide level level') C s s') : Sim F C s s' where
  depth := sim.depth
  sizes := sim.sizes
  hidden_lt l inside := sim.hidden_lt l (Set.mem_insert_of_mem level inside)
  hidden_lt' l inside := sim.hidden_lt' l (Set.mem_insert_of_mem level' inside)
  fits := sim.fits
  body := sim.body
  anchored same := (sim.anchored same).reveal

/-- Both sides take numbers for new values. -/
theorem reserve (sim : Sim F C s s') (count : Nat) :
    Sim F (C.addNumbers count _ _ sim.fits)
      { s with store := (s.store.reserve count).2 }
      { s' with store := (s'.store.reserve count).2 } where
  depth := sim.depth
  sizes := sim.sizes
  hidden_lt := sim.hidden_lt
  hidden_lt' := sim.hidden_lt'
  fits := by
    simp only [Store.reserve]
    rintro i i' (old | ⟨k, low, rfl, rfl⟩)
    · have := sim.fits old
      omega
    · exact .inl (by omega)
  body := sim.body
  anchored same := (sim.anchored same).later (Likeness.le_addNumbers sim.fits)
    (.of_keeps (.reserve count)) (.of_keeps (.reserve count))

theorem reserve_grows (sim : Sim F C s s') (count : Nat) :
    Grows C s.store s'.store (C.addNumbers count _ _ sim.fits) (s.store.reserve count).2
      (s'.store.reserve count).2 where
  le := Likeness.le_addNumbers sim.fits
  next_le := Nat.le_add_right _ count
  next_le' := Nat.le_add_right _ count
  fresh := by
    simp only [Store.reserve]
    rintro i i' (old | ⟨k, low, rfl, rfl⟩)
    · exact .inl old
    · exact .inr (by omega)

/-- Both sides make a closure of the same body. -/
theorem capture (sim : Sim F C s s') {body : Option Node}
    (anchored : Anchored F C s.store s'.store scope scope' (bodyLeaves body)) :
    Sim F (C.addClosure body scope scope') s s' where
  depth := sim.depth
  sizes := sim.sizes
  hidden_lt := sim.hidden_lt
  hidden_lt' := sim.hidden_lt'
  fits := sim.fits
  body := by
    rintro b b' s s' (old | ⟨rfl, rfl, -⟩)
    · exact sim.body old
    · rfl
  anchored := by
    have le : C ≤ C.addClosure body scope scope' := Likeness.le_addClosure body scope scope'
    have spares (st : Store) (hidden : Set Nat) : Spares hidden st st := .of_keeps (.refl _ st)
    rintro b b' s s' (old | ⟨rfl, rfl, rfl, rfl⟩)
    · exact (sim.anchored old).later le (spares _ _) (spares _ _)
    · exact anchored.later le (spares _ _) (spares _ _)

end Sim

end Parallel

end Bracket
