import Bracket.Proofs.Evaluator.Frame
import Bracket.Proofs.Lexical.Reference
import Bracket.Proofs.Renaming.Evaluator
import Bracket.Proofs.Renaming.Support
import Mathlib.Data.Set.Insert

/-!
Frames and environments: when the store of an evaluation stands for the environments that static
scoping has captured. A scope stands for an environment if looking names up gives alike values, and
goes on to do so because no level of the scope is written any more. The one level that is written
is that of a closure whose parameters are being bound; it is hidden until they are, and no scope
that anything holds goes through it.
Main statement: what an evaluation does to the store keeps the scopes and the environments paired.
-/

namespace Bracket

/-! ### Expressions and values below a level -/

namespace Node

variable {n : Nat}

theorem below_of_renameAll {children : List Node}
    (same : ∀ ρ, Fixes n ρ → Node.renameAll ρ children = children) :
    ∀ child ∈ children, child.Below n := by
  intro child member ρ fixes
  have mapped := same ρ fixes
  rw [renameAll_eq_map] at mapped
  exact List.map_inj_left.mp (mapped.trans (List.map_id' children).symm) child member

theorem Below.of_call {mark : Mark} {children : List Node}
    (below : (Node.call mark children).Below n) : ∀ child ∈ children, child.Below n :=
  below_of_renameAll fun ρ fixes => (Node.call.inj (below ρ fixes)).2

theorem Below.of_function {mark : Mark} {children : List Node}
    (below : (Node.function mark children).Below n) : ∀ child ∈ children, child.Below n :=
  below_of_renameAll fun ρ fixes => (Node.function.inj (below ρ fixes)).2

theorem Below.of_member {mark name : Mark} {target : Node}
    (below : (Node.member mark target name).Below n) : target.Below n :=
  fun ρ fixes => (Node.member.inj (below ρ fixes)).2.1

theorem Below.of_keyword {mark : Mark} {v : Value} (below : (Node.leaf mark (.keyword v)).Below n) :
    v.Below n :=
  fun ρ fixes => Literal.keyword.inj (Node.leaf.inj (below ρ fixes)).2

end Node

/-- A value that lies below a level is alike to itself, if its closures may be. -/
theorem Value.Below.like_self {n : Nat} {C : Likeness} (ids : ∀ i, C.ids i i)
    (closures : ∀ (body : Option Node) (scope : Scope), (∀ node ∈ body, node.Below n) →
      scope.Below n → C.closures body scope body scope) {v : Value} (below : v.Below n) :
    v.Like C v := by
  have alike := v.like_rename (ρ := bump n)
  rw [below _ (bump_fixes n)] at alike
  refine alike.self ⟨fun i _ => ids i, fun body scope same => closures body scope ?_ ?_⟩
  · rintro node rfl ρ fixes
    exact Node.rename_of_bump fixes node (Option.some.inj same.1).symm
  · exact Scope.below_of_bump same.2.symm

/-! ### Looking names up -/

theorem Table.mem_of_get? {α : Type} {t : Table α} {key : String} {v : α}
    (found : t.get? key = some v) : (key, v) ∈ t := by
  induction t with
  | nil => cases found
  | cons entry rest ih =>
    obtain ⟨k, w⟩ := entry
    rw [get?] at found
    split at found
    · next same =>
      obtain rfl := Option.some.inj found
      exact same ▸ List.mem_cons_self
    · exact List.mem_cons_of_mem _ (ih found)

namespace Store

/-- A new scope without variables has those around it. -/
theorem get?_newScope (st : Store) (scope : Scope) (name : String) :
    (st.newScope (some scope)).2.get? (st.newScope (some scope)).1 name = st.get? scope name := by
  have empty : ((st.newScope (some scope)).2.locals st.levels.size).get? name = none := by
    rw [locals_newScope_eq]
    simp [locals, Table.get?]
  have around : (st.newScope (some scope)).2.get? scope name = st.get? scope name :=
    get?_congr (fun l _ => locals_newScope_eq st _ l) name
  show search? _ name (st.levels.size :: scope.level :: scope.outer) = _
  rw [search?, empty]
  exact around

theorem get?_assign_self (st : Store) {scope : Scope} (made : scope.level < st.levels.size)
    (name : String) (v : Value) : (st.assign scope name v).get? scope name = some v := by
  rw [get?, search?, locals_assign_self, if_pos made, Table.get?_insert_self]

/-- A write is seen under its own name only. -/
theorem get?_assign_of_ne (st : Store) {scope : Scope} (made : scope.level < st.levels.size)
    {name other : String} (ne : name ≠ other) (v : Value) (reader : Scope) :
    (st.assign scope name v).get? reader other = st.get? reader other := by
  have level (l : Nat) :
      ((st.assign scope name v).locals l).get? other = (st.locals l).get? other := by
    by_cases same : scope.level = l
    · subst same
      rw [locals_assign_self, if_pos made, Table.get?_insert_of_ne _ _ ne]
    · rw [locals_assign_of_ne st scope name v same]
  unfold get?
  generalize reader.level :: reader.outer = levels
  induction levels with
  | nil => rfl
  | cons l outer ih => rw [search?, search?, level l, ih]

/-- What a scope has stands in a level. -/
theorem mem_of_get? {st : Store} {scope : Scope} {name : String} {v : Value}
    (found : st.get? scope name = some v) : ∃ level, (name, v) ∈ st.locals level := by
  unfold get? at found
  generalize scope.level :: scope.outer = levels at found
  induction levels with
  | nil => cases found
  | cons level outer ih =>
    rw [search?] at found
    split at found
    · next here =>
      obtain rfl := Option.some.inj found
      exact ⟨level, Table.mem_of_get? here⟩
    · exact ih found

/-- What a scope has lies below what its levels hold. -/
theorem below_of_get? {st : Store} {n : Nat} (below : ∀ l, (st.locals l).Below n) {scope : Scope}
    {name : String} {v : Value} (found : st.get? scope name = some v) : v.Below n := by
  obtain ⟨level, member⟩ := mem_of_get? found
  exact below level _ member

end Store

namespace Lexical

/-! ### Scopes that stand for environments -/

/-- Which scopes of the store stand for what is captured under which numbers. -/
abbrev Pairing := Scope → Scope → Prop

variable {host st st' : Store} {hidden : Set Nat} {P Q : Pairing} {scope : Scope} {env : Env}

/-- Closures are alike if they have the same body and scopes that are paired. -/
def likeness (host : Store) (P : Pairing) : Likeness where
  ids := Eq
  closures body scope body' scope' :=
    body' = body ∧ (∀ n ∈ body, n.Below host.levels.size) ∧ P scope scope'
  ids_iff := @Likeness.eq_iff_eq
  text_eq := by
    rintro body body' scope scope' ⟨rfl, -⟩
    rfl

theorem likeness_mono (le : P ≤ Q) : likeness host P ≤ likeness host Q :=
  ⟨fun _ _ => id, fun _ _ _ _ ⟨same, below, paired⟩ => ⟨same, below, le _ _ paired⟩⟩

/-- The levels of the scope are made, and none of them is hidden. -/
def Settled (hidden : Set Nat) (st : Store) (scope : Scope) : Prop :=
  ∀ l ∈ scope.level :: scope.outer, l < st.levels.size ∧ l ∉ hidden

/-- Looking a name up gives what the environment has. -/
def Finds (host : Store) (P : Pairing) (st : Store) (scope : Scope) (env : Env) : Prop :=
  ∀ name, Option.Rel (Value.Like (likeness host P)) (st.get? scope name) (env name)

/-- The second store has the levels of the first as they are there, but for the hidden ones. -/
structure Spares (hidden : Set Nat) (st st' : Store) : Prop where
  size_le : st.levels.size ≤ st'.levels.size
  locals : ∀ l < st.levels.size, l ∉ hidden → st'.locals l = st.locals l

namespace Spares

theorem of_keeps (keeps : st.Keeps st.levels.size st') : Spares hidden st st' :=
  ⟨keeps.size_le, fun l made _ => keeps.locals l made⟩

theorem assign (inside : scope.level ∈ hidden) (name : String) (v : Value) :
    Spares hidden st (st.assign scope name v) where
  size_le := by simp [Store.assign]
  locals l _ shown := by
    have ne : scope.level ≠ l := fun same => shown (same ▸ inside)
    exact Store.locals_assign_of_ne st scope name v ne

end Spares

theorem Settled.grow (settled : Settled hidden st scope)
    (size_le : st.levels.size ≤ st'.levels.size) : Settled hidden st' scope :=
  fun l member => ⟨Nat.lt_of_lt_of_le (settled l member).1 size_le, (settled l member).2⟩

theorem Settled.reveal {hidden' : Set Nat} (settled : Settled hidden' st scope)
    (subset : hidden ⊆ hidden') : Settled hidden st scope :=
  fun l member => ⟨(settled l member).1, fun inside => (settled l member).2 (subset inside)⟩

/-- A scope that is there does not go through the level that is made next. -/
theorem Settled.hide (settled : Settled hidden st scope) (outer : Option Scope) :
    Settled (insert st.levels.size hidden) (st.newScope outer).2 scope := by
  intro l member
  obtain ⟨made, shown⟩ := settled l member
  refine ⟨by simp [Store.newScope]; omega, ?_⟩
  rintro (rfl | inside)
  · exact Nat.lt_irrefl _ made
  · exact shown inside

/-- A new scope inside a settled one is settled. -/
theorem Settled.newScope (settled : Settled hidden st scope)
    (hidden_lt : ∀ l ∈ hidden, l < st.levels.size) :
    Settled hidden (st.newScope (some scope)).2 (st.newScope (some scope)).1 := by
  intro l member
  rcases List.mem_cons.mp member with rfl | later
  · exact ⟨by simp [Store.newScope], fun inside => Nat.lt_irrefl _ (hidden_lt _ inside)⟩
  · exact settled.grow (by simp [Store.newScope]) l later

namespace Finds

theorem mono (finds : Finds host P st scope env) (le : P ≤ Q) : Finds host Q st scope env := by
  intro name
  have found := finds name
  revert found
  generalize st.get? scope name = v, env name = v'
  intro found
  cases found with
  | none => exact .none
  | some alike => exact .some (alike.mono (likeness_mono le))

theorem congr (finds : Finds host P st scope env)
    (same : ∀ l ∈ scope.level :: scope.outer, st'.locals l = st.locals l) :
    Finds host P st' scope env := by
  intro name
  rw [Store.get?_congr same]
  exact finds name

theorem later (finds : Finds host P st scope env) (settled : Settled hidden st scope)
    (spares : Spares hidden st st') : Finds host P st' scope env :=
  finds.congr fun l member => spares.locals l (settled l member).1 (settled l member).2

theorem newScope (finds : Finds host P st scope env) :
    Finds host P (st.newScope (some scope)).2 (st.newScope (some scope)).1 env := by
  intro name
  rw [Store.get?_newScope]
  exact finds name

/-- A write to the innermost level extends the environment. -/
theorem assign (finds : Finds host P st scope env) (made : scope.level < st.levels.size)
    (name : String) {v v' : Value} (alike : v.Like (likeness host P) v') :
    Finds host P (st.assign scope name v) scope (env.bind name v') := by
  intro other
  by_cases same : other = name
  · subst same
    rw [Store.get?_assign_self st made, Env.bind, if_pos rfl]
    exact .some alike
  · rw [Store.get?_assign_of_ne st made (Ne.symm same), Env.bind, if_neg same]
    exact finds other

end Finds

/-! ### The invariant -/

/-- The store stands for what is captured: scopes that are paired are settled and find what their
environments have, and the scopes of the host are paired with themselves. -/
structure Sim (host : Store) (hidden : Set Nat) (P : Pairing) (st : Store) (s : State) : Prop where
  nextId : s.nextId = st.nextId
  hidden_lt : ∀ l ∈ hidden, l < st.levels.size
  own : ∀ scope : Scope, scope.Below host.levels.size → P scope scope
  settled : ∀ {scope scope' : Scope}, P scope scope' → Settled hidden st scope
  finds : ∀ {scope scope' : Scope}, P scope scope' →
    Finds host P st scope (envOf host s.captured scope')
  taken : ∀ {scope scope' : Scope}, P scope scope' →
    scope'.level < host.levels.size + s.captured.length

/-- The pairing with one more pair. -/
def Pairing.add (P : Pairing) (scope scope' : Scope) : Pairing :=
  fun a b => P a b ∨ a = scope ∧ b = scope'

theorem Pairing.le_add (P : Pairing) (scope scope' : Scope) : P ≤ P.add scope scope' :=
  fun _ _ paired => .inl paired

namespace Sim

variable {s : State}

/-- Values that the host's scopes may hold are alike to themselves. -/
theorem like_self (sim : Sim host hidden P st s) {v : Value} (below : v.Below host.levels.size) :
    v.Like (likeness host P) v :=
  below.like_self (C := likeness host P) (fun _ => rfl) fun _ scope inside low =>
    ⟨rfl, inside, sim.own scope low⟩

/-- No scope that is paired goes through levels that are hidden or new, so these may change. -/
theorem later (sim : Sim host hidden P st s) (spares : Spares hidden st st')
    (nextId : st'.nextId = st.nextId) : Sim host hidden P st' s where
  nextId := sim.nextId.trans nextId.symm
  hidden_lt l inside := Nat.lt_of_lt_of_le (sim.hidden_lt l inside) spares.size_le
  own := sim.own
  settled paired := (sim.settled paired).grow spares.size_le
  finds paired := (sim.finds paired).later (sim.settled paired) spares
  taken := sim.taken

theorem newScope (sim : Sim host hidden P st s) (outer : Option Scope) :
    Sim host hidden P (st.newScope outer).2 s :=
  sim.later (.of_keeps (.newScope (Nat.le_refl _) outer)) rfl

theorem reserve (sim : Sim host hidden P st s) (count : Nat) :
    Sim host hidden P (st.reserve count).2 { s with nextId := s.nextId + count } where
  nextId := congrArg (· + count) sim.nextId
  hidden_lt := sim.hidden_lt
  own := sim.own
  settled := sim.settled
  finds paired := (sim.finds paired).congr fun _ _ => rfl
  taken := sim.taken

/-- A level that is made may be hidden. -/
theorem hide (sim : Sim host hidden P st s) (outer : Option Scope) :
    Sim host (insert st.levels.size hidden) P (st.newScope outer).2 s := by
  have sim' := sim.newScope outer
  refine { sim' with hidden_lt := ?_, settled := fun paired => (sim.settled paired).hide outer }
  rintro l (rfl | inside)
  · simp [Store.newScope]
  · exact sim'.hidden_lt l inside

theorem reveal {hidden' : Set Nat} (sim : Sim host hidden' P st s) (subset : hidden ⊆ hidden') :
    Sim host hidden P st s :=
  { sim with
    hidden_lt := fun l inside => sim.hidden_lt l (subset inside)
    settled := fun paired => (sim.settled paired).reveal subset }

/-- Capturing an environment pairs the scope that stands for it with its number. -/
theorem capture (sim : Sim host hidden P st s) (settled : Settled hidden st scope)
    (finds : Finds host P st scope env) :
    Sim host hidden (P.add scope ⟨host.levels.size + s.captured.length, []⟩) st
      { s with captured := s.captured ++ [env] } where
  nextId := sim.nextId
  hidden_lt := sim.hidden_lt
  own scope low := .inl (sim.own scope low)
  settled := by
    rintro a b (old | ⟨rfl, rfl⟩)
    · exact sim.settled old
    · exact settled
  finds := by
    rintro a b (old | ⟨rfl, rfl⟩)
    · rw [envOf_grown (List.prefix_append _ _) (sim.taken old)]
      exact (sim.finds old).mono (P.le_add _ _)
    · have last : envOf host (s.captured ++ [env])
          ⟨host.levels.size + s.captured.length, []⟩ = env := by
        simp [envOf]
      rw [last]
      exact finds.mono (P.le_add _ _)
  taken := by
    rintro a b (old | ⟨rfl, rfl⟩)
    · have taken := sim.taken old
      rw [List.length_append]
      omega
    · simp

end Sim

end Lexical

end Bracket
