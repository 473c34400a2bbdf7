import Bracket.Proofs.Evaluator.Fuel
import Bracket.Proofs.Renaming.Library

/-!
Evaluation under renamings. Two stores mirror each other when the second holds the variables of the
first, renamed, at the renamed levels. Main statement: evaluations in mirrored stores have the same
outcome up to the renaming, leave mirrored stores behind, and write to no level below the base.
-/

namespace Bracket

variable {ρ : Renaming}

/-- The second store is the first one with its levels renamed: new levels of both are renamed to
each other in order, up to the bound. -/
structure Store.Mirrors (ρ : Renaming) (st st' : Store) : Prop where
  nextId : st'.nextId = st.nextId
  base_le : ρ.base ≤ st.levels.size
  fresh : ∀ k, st.levels.size + k < ρ.bound → ρ.level (st.levels.size + k) = st'.levels.size + k
  made_iff : ∀ l, ρ.base ≤ l → l < ρ.bound → (l < st.levels.size ↔ ρ.level l < st'.levels.size)
  locals : ∀ l, st'.locals (ρ.level l) = Table.mapValues ρ.value (st.locals l)

namespace Store

/-- A new level has no variables, like a level that is not made yet. -/
theorem locals_newScope_eq (st : Store) (outer : Option Scope) (l : Nat) :
    (st.newScope outer).2.locals l = st.locals l := by
  rcases Nat.lt_trichotomy l st.levels.size with old | new | later
  · exact locals_newScope st outer old
  · subst new
    simp [newScope, locals]
  · have before : l ≠ st.levels.size := Nat.ne_of_gt later
    simp [newScope, locals, Array.getD_eq_getD_getElem?, Array.getElem?_push, before]

/-- What a write leaves at its own level. -/
theorem locals_assign_self (st : Store) (scope : Scope) (name : String) (v : Value) :
    (st.assign scope name v).locals scope.level =
      if scope.level < st.levels.size then (st.locals scope.level).insert name v else [] := by
  by_cases made : scope.level < st.levels.size
  · simp [assign, locals, Array.getD_eq_getD_getElem?, Array.getElem_modify, made]
  · simp [assign, locals, Array.getD_eq_getD_getElem?, made]

namespace Mirrors

variable {st st' : Store}

theorem reserve (mirrors : st.Mirrors ρ st') (count : Nat) :
    (st.reserve count).2.Mirrors ρ (st'.reserve count).2 where
  nextId := by simp [Store.reserve, mirrors.nextId]
  base_le := mirrors.base_le
  fresh := mirrors.fresh
  made_iff := mirrors.made_iff
  locals := mirrors.locals

theorem newScope_fst (mirrors : st.Mirrors ρ st') (room : st.levels.size < ρ.bound)
    (outer : Scope) :
    (st'.newScope (some (ρ.scope outer))).1 = ρ.scope (st.newScope (some outer)).1 := by
  have same := mirrors.fresh 0 room
  simp only [Nat.add_zero] at same
  simp [newScope, Scope.rename, same]

theorem newScope_writable (mirrors : st.Mirrors ρ st') (room : st.levels.size < ρ.bound)
    (outer : Option Scope) : ρ.Writable (st.newScope outer).1 :=
  ⟨mirrors.base_le, room⟩

theorem newScope_snd (mirrors : st.Mirrors ρ st') (outer outer' : Option Scope) :
    (st.newScope outer).2.Mirrors ρ (st'.newScope outer').2 where
  nextId := mirrors.nextId
  base_le := by
    have base_le := mirrors.base_le
    simp only [newScope, Array.size_push]
    omega
  fresh k within := by
    have fresh := mirrors.fresh (1 + k)
    simp only [newScope, Array.size_push] at within ⊢
    rw [Nat.add_assoc] at within ⊢
    rw [fresh within, Nat.add_assoc]
  made_iff l low high := by
    have old := mirrors.made_iff l low high
    simp only [newScope, Array.size_push]
    by_cases before : l < st.levels.size
    · have before' := old.mp before
      omega
    · -- a level that is not made yet comes after the new one, or is the new one
      have place := mirrors.fresh (l - st.levels.size) (by omega)
      rw [Nat.add_sub_cancel' (Nat.le_of_not_lt before)] at place
      omega
  locals l := by
    rw [locals_newScope_eq, locals_newScope_eq]
    exact mirrors.locals l

theorem assign (mirrors : st.Mirrors ρ st') {scope : Scope} (writable : ρ.Writable scope)
    (name : String) (v : Value) :
    (st.assign scope name v).Mirrors ρ (st'.assign (ρ.scope scope) name (ρ.value v)) where
  nextId := mirrors.nextId
  base_le := by simpa [Store.assign] using mirrors.base_le
  fresh := by simpa [Store.assign] using mirrors.fresh
  made_iff := by simpa [Store.assign] using mirrors.made_iff
  locals l := by
    by_cases same : l = scope.level
    · subst same
      have own := locals_assign_self st' (ρ.scope scope) name (ρ.value v)
      have made : scope.level < st.levels.size ↔ (ρ.scope scope).level < st'.levels.size :=
        mirrors.made_iff scope.level writable.1 writable.2
      rw [locals_assign_self]
      refine own.trans ?_
      by_cases old : scope.level < st.levels.size
      · rw [if_pos old, if_pos (made.mp old), Table.mapValues_insert]
        exact congrArg (Table.insert · name _) (mirrors.locals scope.level)
      · rw [if_neg old, if_neg (mt made.mpr old)]
        rfl
    · -- no other level is renamed to that of the scope
      have other : (ρ.scope scope).level ≠ ρ.level l := fun equal =>
        same (ρ.exclusive writable.1 writable.2 equal.symm)
      rw [locals_assign_of_ne _ _ _ _ other, locals_assign_of_ne _ _ _ _ (Ne.symm same)]
      exact mirrors.locals l

theorem search? (mirrors : st.Mirrors ρ st') (name : String) (levels : List Nat) :
    st'.search? name (levels.map ρ.level) = (st.search? name levels).map ρ.value := by
  induction levels with
  | nil => rfl
  | cons level outer ih =>
    rw [List.map_cons, Store.search?, Store.search?, mirrors.locals, Table.get?_mapValues]
    cases (st.locals level).get? name with
    | none => exact ih
    | some v => rfl

theorem get? (mirrors : st.Mirrors ρ st') (scope : Scope) (name : String) :
    st'.get? (ρ.scope scope) name = (st.get? scope name).map ρ.value :=
  mirrors.search? name (scope.level :: scope.outer)

end Mirrors

end Store

namespace Evaluator

/-- The task with every level renamed that it holds. -/
def Task.rename (ρ : Renaming) : Task → Task
  | .node n scope => .node (ρ.node n) (ρ.scope scope)
  | .call f made => .call (ρ.value f) (made.rename ρ)

/-- The task hands a scope to a function only if that may be written to. -/
def Task.Writable (ρ : Renaming) : Task → Prop
  | .node .. => True
  | .call _ made => ρ.Writable made.scope

namespace Plan

variable {α β : Type}

/-- The second plan goes on as the first does, its results being those of the first under `f`. -/
inductive Renames (ρ : Renaming) (f : α → β) : Plan α → Plan β → Prop
  | done (a : α) : Renames ρ f (.done a) (.done (f a))
  | fail (e : Error) : Renames ρ f (.fail e) (.fail e)
  | part (t : Task) {next : Value → Plan α} {next' : Value → Plan β} (writable : t.Writable ρ)
      (later : ∀ v, Renames ρ f (next v) (next' (ρ.value v))) :
      Renames ρ f (.part t next) (.part (t.rename ρ) next')
  | reserve (count : Nat) {next : Nat → Plan α} {next' : Nat → Plan β}
      (later : ∀ id, Renames ρ f (next id) (next' id)) :
      Renames ρ f (.reserve count next) (.reserve count next')
  | nested (outer : Scope) {next : Scope → Plan α} {next' : Scope → Plan β}
      (later : ∀ scope, ρ.Writable scope → Renames ρ f (next scope) (next' (ρ.scope scope))) :
      Renames ρ f (.nested outer next) (.nested (ρ.scope outer) next')
  | assign (scope : Scope) (name : String) (v : Value) {next : Plan α} {next' : Plan β}
      (writable : ρ.Writable scope) (later : Renames ρ f next next') :
      Renames ρ f (.assign scope name v next) (.assign (ρ.scope scope) name (ρ.value v) next')
  | lookup (scope : Scope) (name : String) {next : Option Value → Plan α}
      {next' : Option Value → Plan β}
      (later : ∀ found, Renames ρ f (next found) (next' (found.map ρ.value))) :
      Renames ρ f (.lookup scope name next) (.lookup (ρ.scope scope) name next')

/-! ### The plans of renamed tasks -/

theorem ofRoutine_renames (setting : Setting) {f : α → β} {r : Routine α} {r' : Routine β}
    (renames : r.Renames ρ f r') (call : Call) (writable : ρ.Writable call.scope) :
    (ofRoutine setting call r).Renames ρ f (ofRoutine setting (call.rename ρ) r') := by
  induction renames with
  | done a => exact .done a
  | fail e => exact .fail e
  | argument position later ih =>
    have same : (call.rename ρ).arguments[position]? =
        call.arguments[position]?.map (Argument.rename ρ) := List.getElem?_map
    rw [ofRoutine_argument, ofRoutine_argument, same]
    cases call.arguments[position]? with
    | none => exact ih .undefined
    | some argument =>
      cases argument with
      | node n => exact .part (.node n call.scope) trivial ih
      | value v => exact ih v
  | invoke g values later ih =>
    have renamed : (Task.call g ⟨call.scope, values.map .value, call.callee⟩).rename ρ =
        .call (ρ.value g) ⟨(call.rename ρ).scope, (values.map ρ.value).map .value,
          (call.rename ρ).callee⟩ := by
      simp [Task.rename, Call.rename, Argument.rename]
    rw [ofRoutine, ofRoutine, ← renamed]
    exact .part _ writable ih
  | evaluate n scope later ih => exact .part (.node n scope) trivial ih
  | reserve count later ih => exact .reserve count ih
  | now later ih => exact ih setting.now
  | nested outer later ih => exact .nested outer ih
  | assign scope name v made later ih => exact .assign scope name v made ih
  | lookup scope name later ih => exact .lookup scope name ih

theorem ofLeaf_renames (mark : Mark) (scope : Scope) (literal : Literal) :
    (ofLeaf mark scope literal).Renames ρ ρ.value
      (ofLeaf mark (ρ.scope scope) (literal.rename ρ.level)) := by
  cases literal with
  | identifier =>
    refine .lookup scope mark.text fun found => ?_
    cases found <;> exact .done _
  | _ => exact .done _

theorem ofGroup_renames (callee : Node) (rest : List Node) (v : Value) :
    (ofGroup callee rest v).Renames ρ ρ.value
      (ofGroup (ρ.node callee) (rest.map ρ.node) (ρ.value v)) := by
  unfold ofGroup
  rw [List.isEmpty_map, Node.text_rename]
  split
  · exact .done v
  · exact .fail _

theorem ofOther_renames (callee : Node) (rest : List Node) (scope : Scope) (v : Value) :
    (ofOther callee rest scope v).Renames ρ ρ.value
      (ofOther (ρ.node callee) (rest.map ρ.node) (ρ.scope scope) (ρ.value v)) := by
  have group := ofGroup_renames (ρ := ρ) callee rest v
  cases callee with
  | leaf mark literal =>
    cases literal with
    | identifier =>
      refine .lookup scope mark.text fun found => ?_
      cases found with
      | none => exact .fail _
      | some _ => exact group
    | _ => exact group
  | _ => exact group

theorem ofCallee_renames (node callee : Node) (rest : List Node) {scope : Scope}
    (writable : ρ.Writable scope) (v : Value) :
    (ofCallee node callee rest scope v).Renames ρ ρ.value
      (ofCallee (ρ.node node) (ρ.node callee) (rest.map ρ.node) (ρ.scope scope) (ρ.value v)) := by
  have other := ofOther_renames (ρ := ρ) callee rest scope v
  cases v with
  | function id procedure =>
    have renamed :
        (Task.call (.function id procedure) ⟨scope, rest.map .node, some node⟩).rename ρ =
          .call (ρ.value (.function id procedure))
            ⟨ρ.scope scope, (rest.map ρ.node).map .node, some (ρ.node node)⟩ := by
      simp [Task.rename, Call.rename, Argument.rename]
    simp only [Value.rename] at renamed ⊢
    rw [ofCallee, ofCallee, ← renamed]
    exact .part _ writable .done
  | _ => exact other

theorem ofNode_renames (scope : Scope) (n : Node) :
    (ofNode scope n).Renames ρ ρ.value (ofNode (ρ.scope scope) (ρ.node n)) := by
  cases n with
  | leaf mark literal => exact ofLeaf_renames mark scope literal
  | function mark children =>
    refine .reserve 1 fun id => ?_
    have same : (Value.function id (closure children scope)).rename ρ.level =
        .function id (closure (Node.renameAll ρ.level children) (ρ.scope scope)) := by
      simp [closure, ← List.map_dropLast, List.getLast?_map, Function.comp_def]
    rw [← same]
    exact .done _
  | member mark target name =>
    refine .part (.node target scope) trivial fun v => ?_
    have same : ((ρ.value v).property? name.text).getD .undefined =
        ρ.value ((v.property? name.text).getD .undefined) := by simp
    rw [same]
    exact .done _
  | call mark children =>
    cases children with
    | nil => exact .fail _
    | cons callee rest =>
      refine .nested scope fun inner writable => ?_
      refine .part (.node callee inner) trivial fun v => ?_
      simpa using ofCallee_renames (.call mark (callee :: rest)) callee rest writable v

theorem ofNodes_renames (scope : Scope) (nodes : List Node) {f : α → β}
    {next : List Value → Plan α} {next' : List Value → Plan β}
    (later : ∀ values, (next values).Renames ρ f (next' (values.map ρ.value))) :
    (ofNodes scope nodes next).Renames ρ f
      (ofNodes (ρ.scope scope) (nodes.map ρ.node) next') := by
  induction nodes generalizing next next' with
  | nil => exact later []
  | cons n rest ih =>
    exact .part (.node n scope) trivial fun v => ih fun values => later (v :: values)

end Plan

theorem Task.plan_renames {setting : Setting}
    (respect : ∀ f ∈ setting.hosts, Routine.Respects ρ f) {t : Task} (writable : t.Writable ρ) :
    (t.plan setting).Renames ρ ρ.value ((t.rename ρ).plan setting) := by
  cases t with
  | node n scope => exact Plan.ofNode_renames scope n
  | call f call =>
    cases f with
    | function id procedure =>
      exact Plan.ofRoutine_renames setting
        (procedure.routine_renames respect (.function id procedure) call writable) call writable
    | _ => exact .fail _

/-! ### Levels are never taken away -/

theorem Plan.run_size_le {α : Type} {evaluate : Task → Eval Value}
    (part : ∀ t s, s.store.levels.size ≤ (evaluate t s).2.store.levels.size) (plan : Plan α)
    (s : State) : s.store.levels.size ≤ (plan.run evaluate s).2.store.levels.size := by
  refine run_keeps (R := fun s after => s.store.levels.size ≤ after.store.levels.size)
    (fun _ => Nat.le_refl _) Nat.le_trans part ?_ ?_ ?_ plan s
  · exact fun s count => Nat.le_refl _
  · intro s outer
    simp [Store.newScope]
  · intro s scope name v
    simp [Store.assign]

theorem perform_size_le (setting : Setting) (fuel : Nat) (t : Task) (s : State) :
    s.store.levels.size ≤ (perform setting fuel t s).2.store.levels.size := by
  induction fuel generalizing t s with
  | zero => exact Nat.le_refl _
  | succ fuel ih =>
    rw [perform_succ]
    cases t with
    | call f call => exact Plan.run_size_le ih _ s
    | node n scope =>
      by_cases deep : setting.limit < s.depth + 1
      · simp only [Task.enter, if_pos deep, Nat.le_refl]
      · simp only [Task.enter, if_neg deep]
        exact Plan.run_size_le ih _ { s with depth := s.depth + 1 }

/-! ### Evaluations in mirrored stores -/

/-- The states have mirrored stores and are at the same depth. -/
structure State.Mirrors (ρ : Renaming) (s s' : State) : Prop where
  store : s.store.Mirrors ρ s'.store
  depth : s'.depth = s.depth

theorem State.Mirrors.withStore {s s' : State} {st st' : Store} (mirrors : s.Mirrors ρ s')
    (stores : st.Mirrors ρ st') :
    State.Mirrors ρ { s with store := st } { s' with store := st' } :=
  ⟨stores, mirrors.depth⟩

/-- The second outcome is the first one renamed, and no level below the base was written. -/
structure Mirrored {α β : Type} (ρ : Renaming) (f : α → β) (s : State)
    (x : Except Stop α × State) (x' : Except Stop β × State) : Prop where
  result : x'.1 = x.1.map f
  state : x.2.Mirrors ρ x'.2
  frame : ∀ l < ρ.base, x.2.store.locals l = s.store.locals l

/-- What comes after steps that wrote no level below the base either. -/
theorem Mirrored.after {α β : Type} {f : α → β} {s t : State} {x : Except Stop α × State}
    {x' : Except Stop β × State} (later : Mirrored ρ f t x x')
    (kept : ∀ l < ρ.base, t.store.locals l = s.store.locals l) : Mirrored ρ f s x x' where
  result := later.result
  state := later.state
  frame l low := (later.frame l low).trans (kept l low)

/-- Carrying out plans that go on alike has the same outcome, if evaluating their parts has. -/
theorem Plan.Renames.run {α β : Type} {f : α → β} {plan : Plan α} {plan' : Plan β}
    (renames : plan.Renames ρ f plan') {evaluate evaluate' : Task → Eval Value}
    (grows : ∀ t s, s.store.levels.size ≤ (evaluate t s).2.store.levels.size)
    (part : ∀ t s s', t.Writable ρ → s.Mirrors ρ s' →
      (evaluate t s).2.store.levels.size ≤ ρ.bound →
      Mirrored ρ ρ.value s (evaluate t s) (evaluate' (t.rename ρ) s'))
    {s s' : State} (mirrors : s.Mirrors ρ s')
    (within : (plan.run evaluate s).2.store.levels.size ≤ ρ.bound) :
    Mirrored ρ f s (plan.run evaluate s) (plan'.run evaluate' s') := by
  induction renames generalizing s s' with
  | done a => exact ⟨rfl, mirrors, fun _ _ => rfl⟩
  | fail e => exact ⟨rfl, mirrors, fun _ _ => rfl⟩
  | @part t next next' writable later ih =>
    have first := part t s s' writable mirrors
    rw [Plan.run] at within ⊢
    rw [Plan.run]
    cases outcome : evaluate t s with
    | mk result after =>
      cases outcome' : evaluate' (t.rename ρ) s' with
      | mk result' after' =>
        rw [outcome] at within first
        rw [outcome'] at first
        cases result with
        | error stop =>
          obtain ⟨same, state, frame⟩ := first within
          simp only [Except.map] at same
          subst same
          exact ⟨rfl, state, frame⟩
        | ok v =>
          have grown := Plan.run_size_le grows (next v) after
          obtain ⟨same, state, frame⟩ := first (Nat.le_trans grown within)
          simp only [Except.map] at same
          subst same
          exact (ih v state within).after frame
  | reserve count later ih =>
    rw [Plan.run] at within ⊢
    rw [Plan.run, mirrors.store.nextId]
    have reserved := mirrors.withStore (mirrors.store.reserve count)
    exact (ih _ reserved within).after fun _ _ => rfl
  | @nested outer next next' later ih =>
    rw [Plan.run] at within ⊢
    rw [Plan.run]
    have grown := Plan.run_size_le grows (next (s.store.newScope (some outer)).1)
      { s with store := (s.store.newScope (some outer)).2 }
    have room : s.store.levels.size < ρ.bound := by
      simp only [Store.newScope, Array.size_push] at grown within
      omega
    rw [mirrors.store.newScope_fst room outer]
    have entered :=
      mirrors.withStore (mirrors.store.newScope_snd (some outer) (some (ρ.scope outer)))
    refine (ih _ (mirrors.store.newScope_writable room _) entered within).after fun l _ => ?_
    exact Store.locals_newScope_eq s.store (some outer) l
  | assign scope name v writable later ih =>
    rw [Plan.run] at within ⊢
    rw [Plan.run]
    have written := mirrors.withStore (mirrors.store.assign writable name v)
    refine (ih written within).after fun l low => ?_
    have other : scope.level ≠ l := Nat.ne_of_gt (Nat.lt_of_lt_of_le low writable.1)
    exact Store.locals_assign_of_ne _ _ _ _ other
  | lookup scope name later ih =>
    rw [Plan.run] at within ⊢
    rw [Plan.run, mirrors.store.get? scope name]
    exact ih _ mirrors within

/-- Tasks in mirrored stores have the same outcome up to the renaming. -/
theorem perform_mirrored {setting : Setting} (respect : ∀ f ∈ setting.hosts, Routine.Respects ρ f)
    (fuel : Nat) {t : Task} (writable : t.Writable ρ) {s s' : State} (mirrors : s.Mirrors ρ s')
    (within : (perform setting fuel t s).2.store.levels.size ≤ ρ.bound) :
    Mirrored ρ ρ.value s (perform setting fuel t s) (perform setting fuel (t.rename ρ) s') := by
  induction fuel generalizing t s s' with
  | zero => exact ⟨rfl, mirrors, fun _ _ => rfl⟩
  | succ fuel ih =>
    have plan : ∀ {inner inner' : State}, inner.Mirrors ρ inner' →
        ((t.plan setting).run (perform setting fuel) inner).2.store.levels.size ≤ ρ.bound →
        Mirrored ρ ρ.value inner ((t.plan setting).run (perform setting fuel) inner)
          (((t.rename ρ).plan setting).run (perform setting fuel) inner') := fun entered within =>
      (t.plan_renames respect writable).run (perform_size_le setting fuel)
        (fun t s s' writable mirrors within => ih writable mirrors within) entered within
    rw [perform_succ] at within ⊢
    rw [perform_succ]
    cases t with
    | call f call =>
      obtain ⟨same, state, frame⟩ := plan mirrors within
      exact ⟨same, ⟨state.store, mirrors.depth⟩, frame⟩
    | node n scope =>
      simp only [Task.rename, Task.enter, mirrors.depth] at within ⊢
      by_cases deep : setting.limit < s.depth + 1
      · simp only [if_pos deep] at within ⊢
        exact ⟨rfl, mirrors, fun _ _ => rfl⟩
      · simp only [if_neg deep] at within ⊢
        have entered : State.Mirrors ρ { s with depth := s.depth + 1 }
            { s' with depth := s.depth + 1 } := ⟨mirrors.store, rfl⟩
        obtain ⟨same, state, frame⟩ := plan entered within
        exact ⟨same, ⟨state.store, rfl⟩, frame⟩

/-- Expressions in mirrored stores have the same values up to the renaming. -/
theorem evaluateAll_mirrored {setting : Setting}
    (respect : ∀ f ∈ setting.hosts, Routine.Respects ρ f) (fuel : Nat) (scope : Scope)
    (nodes : List Node) {s s' : State} (mirrors : s.Mirrors ρ s')
    (within : (evaluateAll setting fuel scope nodes s).2.store.levels.size ≤ ρ.bound) :
    Mirrored ρ (List.map ρ.value) s (evaluateAll setting fuel scope nodes s)
      (evaluateAll setting fuel (ρ.scope scope) (nodes.map ρ.node) s') := by
  rw [← Plan.run_ofNodes_done] at within ⊢
  rw [← Plan.run_ofNodes_done]
  exact (Plan.ofNodes_renames scope nodes fun values => .done values).run
    (perform_size_le setting fuel)
    (fun t s s' writable mirrors within => perform_mirrored respect fuel writable mirrors within)
    mirrors within

end Evaluator

end Bracket
