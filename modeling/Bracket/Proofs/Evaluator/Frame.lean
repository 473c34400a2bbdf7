import Bracket.Proofs.Evaluator.Fuel
import Bracket.Proofs.Likeness.Library
import Bracket.Proofs.Renaming.Value

/-!
What evaluation leaves alone. The library neither makes scopes nor writes to them, and a closure
writes to no scope but the one that its own call makes. Main statement: after a task every level
that was there before is as it was, whatever the outcome; there are only more of them.
-/

namespace Bracket

variable {α β : Type} {base : Nat}

/-! ### Routines that write to new scopes only -/

/-- The question writes to no level below `base`. -/
def Request.Confined (base : Nat) : Request → Prop
  | .assign scope _ _ => base ≤ scope.level
  | _ => True

/-- The answer may be given when the levels below `base` are taken. -/
def Request.Fresh (base : Nat) : (request : Request) → request.Answer → Prop
  | .nested _, scope => base ≤ Scope.level scope
  | _, _ => True

namespace Routine

/-- The routine writes to no level below `base`, as long as these are taken. -/
def Confined (base : Nat) : Routine α → Prop
  | .done _ => True
  | .fail _ => True
  | .ask request next =>
    request.Confined base ∧ ∀ a, request.Fresh base a → Confined base (next a)

theorem Confined.bind {r : Routine α} {f : α → Routine β} (first : r.Confined base)
    (rest : ∀ a, (f a).Confined base) : (r >>= f).Confined base := by
  induction r with
  | done a => exact rest a
  | fail e => trivial
  | ask request next ih => exact ⟨first.1, fun a fresh => ih a (first.2 a fresh)⟩

/-- What goes on alike for equal values does not write at all. -/
theorem Confined.of_alike {R : Likeness → α → β → Prop} {C : Likeness} {r : Routine α}
    {r' : Routine β} (alike : r.Alike R C r') (same : C = .renaming id) : r.Confined base := by
  induction alike with
  | done => trivial
  | fail => trivial
  | argument position _ ih =>
    subst same
    exact ⟨trivial, fun v _ => ih _ (Likeness.le_refl _) v _ (Value.like_rename v) rfl⟩
  | invoke _ _ _ ih =>
    subst same
    exact ⟨trivial, fun v _ => ih _ (Likeness.le_refl _) v _ (Value.like_rename v) rfl⟩
  | reserve count _ ih =>
    subst same
    exact ⟨trivial, fun id _ => ih _ (Likeness.le_refl _) id id (fun _ _ => rfl) rfl⟩
  | now _ ih => exact ⟨trivial, fun date _ => ih date same⟩

end Routine

theorem Code.routine_confined (code : Code) (call : Call) :
    (code.routine [] call).Confined base := by
  have alike := code.like_rename (ρ := id)
  rw [Code.rename_id] at alike
  have uniform : ∀ f ∈ ([] : List HostFunction),
      (f call).Alike Value.Like (.renaming id) (f call) :=
    fun _ member => absurd member List.not_mem_nil
  exact .of_alike (Code.routine_alike uniform alike ⟨rfl, rfl⟩) rfl

theorem bindParameters_confined (call : Call) {scope : Scope} (own : base ≤ scope.level)
    (position : Nat) (params : List String) :
    (bindParameters call scope position params).Confined base := by
  induction params generalizing position with
  | nil => trivial
  | cons param params ih =>
    have value : (Routine.argumentOrUndefined call position).Confined base := by
      unfold Routine.argumentOrUndefined
      split
      · exact ⟨trivial, fun _ _ => trivial⟩
      · trivial
    exact value.bind fun v => ⟨own, fun _ _ => ih (position + 1)⟩

theorem applyClosure_confined (params : List String) (body : Option Node) (env : Scope)
    (call : Call) : (applyClosure params body env call).Confined base := by
  refine ⟨trivial, fun scope own => (bindParameters_confined call own 0 params).bind fun _ => ?_⟩
  cases body with
  | none => trivial
  | some node => exact ⟨trivial, fun _ _ => trivial⟩

theorem Procedure.routine_confined (self : Value) (procedure : Procedure) (call : Call) :
    (procedure.routine [] self call).Confined base := by
  cases procedure with
  | native name code properties => exact code.routine_confined call
  | closure params body env =>
    rw [Procedure.routine]
    split
    · trivial
    · exact applyClosure_confined params body env call

/-! ### Stores that have grown -/

/-- The second store has the levels below `base` as the first one has them, and no fewer. -/
structure Store.Keeps (base : Nat) (st st' : Store) : Prop where
  size_le : st.levels.size ≤ st'.levels.size
  locals : ∀ l < base, st'.locals l = st.locals l

namespace Store.Keeps

variable {st st' st'' : Store}

theorem refl (base : Nat) (st : Store) : st.Keeps base st := ⟨Nat.le_refl _, fun _ _ => rfl⟩

theorem trans (first : st.Keeps base st') (second : st'.Keeps base st'') :
    st.Keeps base st'' :=
  ⟨Nat.le_trans first.size_le second.size_le,
    fun l low => (second.locals l low).trans (first.locals l low)⟩

theorem reserve (count : Nat) : st.Keeps base (st.reserve count).2 :=
  ⟨Nat.le_refl _, fun _ _ => rfl⟩

theorem newScope (base_le : base ≤ st.levels.size) (outer : Option Scope) :
    st.Keeps base (st.newScope outer).2 where
  size_le := by simp [Store.newScope]
  locals l low := locals_newScope st outer (Nat.lt_of_lt_of_le low base_le)

theorem assign {scope : Scope} (own : base ≤ scope.level) (name : String) (v : Value) :
    st.Keeps base (st.assign scope name v) where
  size_le := by simp [Store.assign]
  locals l low := locals_assign_of_ne st scope name v (by omega)

/-- All levels are kept if and only if new ones were added behind them. -/
theorem iff_prefix : st.Keeps st.levels.size st' ↔ st.levels.toList <+: st'.levels.toList := by
  rw [List.prefix_iff_getElem?]
  constructor
  · rintro ⟨size_le, kept⟩ l low
    have made : l < st.levels.size := by simpa using low
    have made' : l < st'.levels.size := Nat.lt_of_lt_of_le made size_le
    have same := kept l made
    simpa [Store.locals, made, made'] using same
  · intro each
    have size_le : st.levels.size ≤ st'.levels.size := by
      by_contra fewer
      have last := each st'.levels.size (by simpa using Nat.lt_of_not_le fewer)
      simp at last
    refine ⟨size_le, fun l low => ?_⟩
    have made' : l < st'.levels.size := Nat.lt_of_lt_of_le low size_le
    have same := each l (by simpa using low)
    simpa [Store.locals, low, made'] using same

end Store.Keeps

/-- A search goes by the variables of the levels that it comes to. -/
theorem Store.get?_congr {st st' : Store} {scope : Scope}
    (same : ∀ l ∈ scope.level :: scope.outer, st'.locals l = st.locals l) (name : String) :
    st'.get? scope name = st.get? scope name := by
  unfold get?
  generalize scope.level :: scope.outer = levels at same
  induction levels with
  | nil => rfl
  | cons level outer ih =>
    rw [search?, search?, same level List.mem_cons_self]
    cases (st.locals level).get? name with
    | some v => rfl
    | none => exact ih fun l member => same l (List.mem_cons_of_mem level member)

/-- A scope whose levels are kept has the same variables. -/
theorem Store.Keeps.get? {base : Nat} {st st' : Store} (keeps : st.Keeps base st') {scope : Scope}
    (made : ∀ l ∈ scope.level :: scope.outer, l < base) (name : String) :
    st'.get? scope name = st.get? scope name :=
  get?_congr (fun l member => keeps.locals l (made l member)) name

namespace Evaluator

/-- An evaluation with the standard library alone. -/
abbrev Setting.standard (limit : Nat) (now : Date) : Setting := { limit, now }

namespace Plan

/-- The plan writes to no level below `base`, as long as these are taken. -/
def Confined (base : Nat) : Plan α → Prop
  | .done _ => True
  | .fail _ => True
  | .part _ next => ∀ v, Confined base (next v)
  | .reserve _ next => ∀ id, Confined base (next id)
  | .nested _ next => ∀ scope : Scope, base ≤ scope.level → Confined base (next scope)
  | .assign scope _ _ next => base ≤ scope.level ∧ Confined base next
  | .lookup _ _ next => ∀ found, Confined base (next found)

theorem ofRoutine_confined {setting : Setting} {call : Call} {r : Routine α}
    (confined : r.Confined base) : (ofRoutine setting call r).Confined base := by
  induction r with
  | done a => trivial
  | fail e => trivial
  | ask request next ih =>
    cases request with
    | argument position =>
      rw [ofRoutine_argument]
      split
      · exact fun v => ih v (confined.2 v trivial)
      · exact ih _ (confined.2 _ trivial)
      · exact ih _ (confined.2 _ trivial)
    | invoke f values => exact fun v => ih v (confined.2 v trivial)
    | evaluate node scope => exact fun v => ih v (confined.2 v trivial)
    | reserve count => exact fun id => ih id (confined.2 id trivial)
    | now => exact ih _ (confined.2 _ trivial)
    | nested outer => exact fun scope own => ih scope (confined.2 scope own)
    | assign scope name v => exact ⟨confined.1, ih () (confined.2 () trivial)⟩
    | lookup scope name => exact fun found => ih found (confined.2 found trivial)

theorem ofOther_confined (callee : Node) (rest : List Node) (scope : Scope) (f : Value) :
    (ofOther callee rest scope f).Confined base := by
  have group : (ofGroup callee rest f).Confined base := by
    unfold ofGroup
    split <;> trivial
  unfold ofOther
  split
  · intro found
    cases found with
    | none => trivial
    | some v => exact group
  · exact group

theorem ofNode_confined (scope : Scope) (n : Node) : (ofNode scope n).Confined base := by
  cases n with
  | leaf mark literal =>
    cases literal with
    | identifier => exact fun _ => trivial
    | _ => trivial
  | function mark children => exact fun _ => trivial
  | member mark target name => exact fun _ => trivial
  | call mark children =>
    cases children with
    | nil => trivial
    | cons callee rest =>
      intro inner _ f
      cases f with
      | function id procedure => exact fun _ => trivial
      | _ => exact ofOther_confined callee rest inner _

theorem ofNodes_confined (scope : Scope) (nodes : List Node) {next : List Value → Plan α}
    (later : ∀ values, (next values).Confined base) : (ofNodes scope nodes next).Confined base := by
  induction nodes generalizing next with
  | nil => exact later []
  | cons n rest ih => exact fun v => ih fun values => later (v :: values)

/-- Carrying out a plan that is confined keeps the levels below `base`, if its parts do. -/
theorem Confined.run {evaluate : Task → Eval Value} {plan : Plan α} (confined : plan.Confined base)
    (part : ∀ (t : Task) (s : State), base ≤ s.store.levels.size →
      s.store.Keeps base (evaluate t s).2.store)
    (s : State) (base_le : base ≤ s.store.levels.size) :
    s.store.Keeps base (plan.run evaluate s).2.store := by
  induction plan generalizing s with
  | done a => exact .refl base s.store
  | fail e => exact .refl base s.store
  | part t next ih =>
    have first := part t s base_le
    rw [Plan.run]
    cases outcome : evaluate t s with
    | mk result after =>
      rw [outcome] at first
      cases result with
      | error stop => exact first
      | ok v => exact first.trans (ih v (confined v) after (Nat.le_trans base_le first.size_le))
  | reserve count next ih =>
    have rest := ih _ (confined s.store.nextId) { s with store := (s.store.reserve count).2 }
      base_le
    exact (Store.Keeps.reserve count).trans rest
  | nested outer next ih =>
    have grown := Store.Keeps.newScope base_le (some outer)
    have rest := ih _ (confined (s.store.newScope (some outer)).1 base_le)
      { s with store := (s.store.newScope (some outer)).2 } (Nat.le_trans base_le grown.size_le)
    exact grown.trans rest
  | assign scope name v next ih =>
    have written : s.store.Keeps base (s.store.assign scope name v) := .assign confined.1 name v
    have rest := ih confined.2 { s with store := s.store.assign scope name v }
      (Nat.le_trans base_le written.size_le)
    exact written.trans rest
  | lookup scope name next ih => exact ih _ (confined _) s base_le

end Plan

theorem Task.plan_confined (limit : Nat) (now : Date) (t : Task) :
    (t.plan (.standard limit now)).Confined base := by
  cases t with
  | node n scope => exact Plan.ofNode_confined scope n
  | call f call =>
    cases f with
    | function id procedure =>
      exact Plan.ofRoutine_confined (procedure.routine_confined (.function id procedure) call)
    | _ => trivial

/-- A task keeps all levels that were there before, whatever its outcome. -/
theorem perform_keeps (limit : Nat) (now : Date) (fuel : Nat) (t : Task) (s : State)
    (base_le : base ≤ s.store.levels.size) :
    s.store.Keeps base (perform (.standard limit now) fuel t s).2.store := by
  induction fuel generalizing t s with
  | zero => exact .refl base s.store
  | succ fuel ih =>
    have plan := (t.plan_confined limit now).run ih
    rw [perform_succ]
    cases t with
    | call f call => exact plan s base_le
    | node n scope =>
      by_cases deep : limit < s.depth + 1
      · simp only [Task.enter, if_pos deep]
        exact .refl base s.store
      · simp only [Task.enter, if_neg deep]
        exact plan { s with depth := s.depth + 1 } base_le

end Evaluator

end Bracket
