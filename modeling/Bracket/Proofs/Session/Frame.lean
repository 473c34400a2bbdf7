import Bracket.Proofs.Evaluator.Frame
import Bracket.Proofs.Evaluator.Reuse
import Bracket.Proofs.Session.Coherence

/-!
Scopes that are there stay as they are. Main statement: with the standard library alone, nothing
that is evaluated writes to a scope that was there before, so that the variables of the host and
the scope of the library are the same after every text and every call.
-/

namespace Bracket

namespace Evaluator

theorem Entry.run_keeps (limit : Nat) (now : Date) (entry : Entry) (fuel : Nat) (s : State) :
    s.store.Keeps s.store.levels.size (entry.run (.standard limit now) fuel s).2.store := by
  have confined : entry.plan.Confined s.store.levels.size := by
    cases entry with
    | expression n scope => exact fun _ => trivial
    | function f call => exact fun _ => trivial
    | expressions nodes scope => exact Plan.ofNodes_confined scope nodes fun _ => trivial
  rw [Entry.run_eq_plan]
  exact confined.run (fun t inner => perform_keeps limit now fuel t inner) s (Nat.le_refl _)

end Evaluator

namespace Session

open Evaluator

variable (s : Session) (st : Store) (now : Date)

/-- Once a text is opened, its evaluation keeps all levels. -/
theorem compute_keeps (fuel : Nat) (text : String) (bindings : Table Value) :
    Store.Keeps (opening text bindings (s, { store := st, now })).2.2.store.levels.size
      (opening text bindings (s, { store := st, now })).2.2.store
      (compute fuel text bindings (s, { store := st, now })).2.2.store := by
  rw [compute_eq]
  cases opening text bindings (s, { store := st, now }) with
  | mk result after =>
    obtain ⟨s', w⟩ := after
    cases result with
    | error stop => exact .refl _ w.store
    | ok trees =>
      obtain ⟨nodes, scope⟩ := trees
      have kept : w.store.Keeps w.store.levels.size
          (evaluateAll (setting (s, { store := st, now })) fuel scope nodes
            { store := w.store }).2.store :=
        Entry.run_keeps s.limit now (.expressions nodes scope) fuel { store := w.store }
      dsimp only
      cases outcome : evaluateAll (setting (s, { store := st, now })) fuel scope nodes
          { store := w.store } with
      | mk values after =>
        rw [outcome] at kept
        cases values <;> exact kept

/-- Once its scope is made, a call for the host keeps all levels. -/
theorem callWith_keeps (fuel : Nat) (f : Value) (values : List Value) :
    Store.Keeps (scopeWith [] (s, { store := st, now })).2.2.store.levels.size
      (scopeWith [] (s, { store := st, now })).2.2.store
      (callWith fuel f values (s, { store := st, now })).2.2.store := by
  have kept := (scopeWith_isSteady []).keeps (s, { store := st, now })
  rw [callWith, bind_apply]
  cases outcome : scopeWith [] (s, { store := st, now }) with
  | mk result after =>
    obtain ⟨s', w⟩ := after
    cases result with
    | error stop => exact .refl _ w.store
    | ok scope =>
      have same : (⟨s'.limit, w.hosts, w.now⟩ : Setting) = .standard s.limit now := by
        rw [outcome] at kept
        exact kept.2.2
      simp only [evaluating, same]
      exact perform_keeps s.limit now fuel _ { store := w.store } (Nat.le_refl _)

/-- With the standard library alone, an evaluation leaves every scope that was there as it was,
whether it succeeds or fails: its levels come first afterwards, with the same variables, and every
name that a scope of them gives is found as before. So the variables of the host and those of the
library are the same after every text and every call. -/
theorem scopes_unchanged :
    (∀ (limit : Nat) (entry : Entry) (fuel : Nat) (before : State),
      before.store.levels.toList <+:
        (entry.run (.standard limit now) fuel before).2.store.levels.toList ∧
      ∀ (scope : Scope) (name : String),
        (∀ l ∈ scope.level :: scope.outer, l < before.store.levels.size) →
        (entry.run (.standard limit now) fuel before).2.store.get? scope name =
          before.store.get? scope name) ∧
    (∀ (fuel elapsed : Nat) (text : String) (bindings : Table Value),
      (opening text bindings (s, { store := st, now })).2.2.store.levels.toList <+:
        (evaluate fuel elapsed text bindings (s, { store := st, now })).2.2.store.levels.toList) ∧
    ∀ (fuel : Nat) (f : Value) (values : List Value),
      (scopeWith [] (s, { store := st, now })).2.2.store.levels.toList <+:
        (callWith fuel f values (s, { store := st, now })).2.2.store.levels.toList := by
  refine ⟨?_, ?_, ?_⟩
  · intro limit entry fuel before
    have keeps := Entry.run_keeps limit now entry fuel before
    exact ⟨Store.Keeps.iff_prefix.mp keeps, fun scope name made => keeps.get? made name⟩
  · intro fuel elapsed text bindings
    have keeps := compute_keeps s st now fuel text bindings
    obtain ⟨stats, recorded⟩ :=
      evaluateNodes_snd fuel elapsed text bindings (s, { store := st, now })
    rw [evaluate_snd, recorded]
    exact Store.Keeps.iff_prefix.mp keeps
  · intro fuel f values
    exact Store.Keeps.iff_prefix.mp (callWith_keeps s st now fuel f values)

/-- The call of a closure whose parameter has the name of a variable around it makes a scope of its
own, and the variable is as it was. -/
theorem scopes_unchanged_shadowed :
    let before : State := { store := { levels := #[[("x", .null)]] } }
    let entry : Entry :=
      .function (.function 100 (.closure ["x"] none ⟨0, []⟩)) ⟨⟨0, []⟩, [.value (.bool true)], none⟩
    let after := (entry.run (.standard 256 ⟨0, 0, 0⟩) 1 before).2.store
    (∀ l ∈ [0], l < before.store.levels.size) ∧ after.levels.size = 2 ∧
      after.get? ⟨0, []⟩ "x" = some .null := by
  intro before entry after
  have made : ∀ l ∈ [0], l < before.store.levels.size := by decide
  have same := ((scopes_unchanged standard {} ⟨0, 0, 0⟩).1 256 entry 1 before).2 ⟨0, []⟩ "x" made
  exact ⟨made, rfl, same⟩

end Session

end Bracket
