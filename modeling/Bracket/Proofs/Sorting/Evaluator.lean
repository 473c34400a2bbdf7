import Bracket.Proofs.Evaluator.Plan
import Bracket.Proofs.Sorting.Library

/-!
Sorting with a comparator of the language, which may have effects, answer inconsistently, or fail.
The calls that a routine makes are logged with what they came to. Main statement: whatever the
comparator does, sorting calls it on two of the items at a time and stops at the first call that
fails; if none does, the outcome has the items that were sorted, and if the answers follow a total
preorder, the sort is ordered by it and stable.
-/

namespace Bracket.Evaluator

variable {α β : Type} {setting : Setting} {evaluate : Task → Eval Value} {call : Call}

/-- A call that a routine made: the function, the values and what it came to. -/
structure Invocation where
  callee : Value
  values : List Value
  outcome : Except Stop Value

/-- What is logged of a question and its answer. -/
def logged : (request : Request) → Except Stop request.Answer → List Invocation
  | .invoke f values, outcome => [⟨f, values, outcome⟩]
  | _, _ => []

/-- The calls that a run makes, in order. -/
def invocations (setting : Setting) (evaluate : Task → Eval Value) (call : Call) :
    Routine α → State → List Invocation
  | .done _, _ => []
  | .fail _, _ => []
  | .ask request next, s =>
    match answer setting evaluate call request s with
    | (.error stop, _) => logged request (.error stop)
    | (.ok a, after) =>
      logged request (.ok a) ++ invocations setting evaluate call (next a) after

/-- The calls that a function makes when it is called. -/
def invocationsOf (setting : Setting) (fuel : Nat) (f : Value) (call : Call) (s : State) :
    List Invocation :=
  match fuel, f with
  | fuel + 1, .function id procedure =>
    invocations setting (perform setting fuel) call
      (procedure.routine setting.hosts (.function id procedure) call) s
  | _, _ => []

/-! ### The log of a run -/

section Step

variable {request : Request} {s after : State}

/-- A question that is answered: the run goes on with the answer. -/
theorem ask_of_ok {a : request.Answer}
    (asked : answer setting evaluate call request s = (.ok a, after))
    (next : request.Answer → Routine α) :
    run setting evaluate call (.ask request next) s = run setting evaluate call (next a) after ∧
      invocations setting evaluate call (.ask request next) s =
        logged request (.ok a) ++ invocations setting evaluate call (next a) after := by
  rw [run, bind_apply, invocations, asked]
  exact ⟨rfl, rfl⟩

/-- A question that is not answered: the run ends here. -/
theorem ask_of_error {stop : Stop}
    (asked : answer setting evaluate call request s = (.error stop, after))
    (next : request.Answer → Routine α) :
    run setting evaluate call (.ask request next) s = (.error stop, after) ∧
      invocations setting evaluate call (.ask request next) s =
        logged request (.error stop) := by
  rw [run, bind_apply, invocations, asked]
  exact ⟨rfl, rfl⟩

/-- At most one call is logged of a question, and it is the one that the evaluator made. -/
theorem logged_cases {outcome : Except Stop request.Answer}
    (asked : answer setting evaluate call request s = (outcome, after)) :
    logged request outcome = [] ∨ ∃ c, logged request outcome = [c] ∧
      c.outcome = (evaluate (.call c.callee ⟨call.scope, c.values.map .value, call.callee⟩) s).1 ∧
      ∀ stop, c.outcome = .error stop ↔ outcome = .error stop := by
  cases request with
  | invoke f values =>
    exact .inr ⟨⟨f, values, outcome⟩, rfl, congrArg Prod.fst asked.symm, fun _ => Iff.rfl⟩
  | _ => exact .inl rfl

end Step

theorem invocations_bind (r : Routine α) (k : α → Routine β) (s : State) :
    invocations setting evaluate call (r >>= k) s =
      invocations setting evaluate call r s ++
        match run setting evaluate call r s with
        | (.ok a, after) => invocations setting evaluate call (k a) after
        | (.error _, _) => [] := by
  induction r generalizing s with
  | done a => rfl
  | fail e => rfl
  | ask request next ih =>
    rw [Routine.ask_bind]
    cases asked : answer setting evaluate call request s with
    | mk result after =>
      cases result with
      | error stop =>
        rw [(ask_of_error asked _).2, (ask_of_error asked next).2, (ask_of_error asked next).1,
          List.append_nil]
      | ok a =>
        rw [(ask_of_ok asked _).2, (ask_of_ok asked next).2, (ask_of_ok asked next).1, ih a after,
          List.append_assoc]

/-- What is logged of a call is what the evaluator made of it. -/
theorem outcome_of_mem_invocations {r : Routine α} {s : State} {c : Invocation}
    (member : c ∈ invocations setting evaluate call r s) :
    ∃ before, c.outcome =
      (evaluate (.call c.callee ⟨call.scope, c.values.map .value, call.callee⟩) before).1 := by
  induction r generalizing s with
  | done a => cases member
  | fail e => cases member
  | ask request next ih =>
    cases asked : answer setting evaluate call request s with
    | mk result after =>
      have here (member : c ∈ logged request result) : ∃ before, c.outcome =
          (evaluate (.call c.callee ⟨call.scope, c.values.map .value, call.callee⟩) before).1 := by
        rcases logged_cases asked with none | ⟨first, one, made, -⟩
        · rw [none] at member
          cases member
        · rw [one] at member
          obtain rfl := List.mem_singleton.mp member
          exact ⟨s, made⟩
      cases result with
      | error stop =>
        rw [(ask_of_error asked next).2] at member
        exact here member
      | ok a =>
        rw [(ask_of_ok asked next).2] at member
        rcases List.mem_append.mp member with first | later
        · exact here first
        · exact ih a later

/-- A call that fails is the last one of a run, which comes to what this call came to. -/
theorem run_of_failed {r : Routine α} {s : State} {before after : List Invocation} {c : Invocation}
    {stop : Stop} (log : invocations setting evaluate call r s = before ++ c :: after)
    (failed : c.outcome = .error stop) :
    after = [] ∧ (run setting evaluate call r s).1 = .error stop := by
  induction r generalizing s before with
  | done a => cases before <;> cases log
  | fail e => cases before <;> cases log
  | ask request next ih =>
    cases asked : answer setting evaluate call request s with
    | mk result s' =>
      cases result with
      | error stop' =>
        obtain ⟨ran, logs⟩ := ask_of_error asked next
        rw [logs] at log
        rw [ran]
        rcases logged_cases asked with none | ⟨first, one, -, fails⟩
        · rw [none] at log
          cases before <;> cases log
        · rw [one] at log
          cases before with
          | nil =>
            obtain ⟨rfl, rfl⟩ := List.cons.inj log
            exact ⟨rfl, congrArg Except.error (Except.error.inj ((fails stop).mp failed))⟩
          | cons b before => cases before <;> cases (List.cons.inj log).2
      | ok a =>
        obtain ⟨ran, logs⟩ := ask_of_ok asked next
        rw [logs] at log
        rw [ran]
        rcases logged_cases asked with none | ⟨first, one, -, fails⟩
        · rw [none] at log
          exact ih a log
        · rw [one] at log
          cases before with
          | nil =>
            obtain ⟨rfl, -⟩ := List.cons.inj log
            cases (fails stop).mp failed
          | cons b before => exact ih a (List.cons.inj log).2

/-! ### Runs of routines that compare -/

section Compares

variable {f : Value} {items : List Value} {Allowed : Value → Value → Value → Prop} {P : α → Prop}
  {r : Routine α}

/-- If every call is answered as allowed, the run ends in a result with the property. -/
theorem run_of_compares (compares : r.Compares f items Allowed P) (s : State)
    (answered : ∀ c ∈ invocations setting evaluate call r s, ∀ a b, c.values = [a, b] →
      ∃ v, c.outcome = .ok v ∧ Allowed a b v) :
    ∃ a after, run setting evaluate call r s = (.ok a, after) ∧ P a := by
  induction compares generalizing s with
  | @done a holds => exact ⟨a, s, rfl, holds⟩
  | @ask a b next left right later ih =>
    cases asked : answer setting evaluate call (.invoke f [a, b]) s with
    | mk result s' =>
      cases result with
      | error stop =>
        rw [(ask_of_error asked next).2] at answered
        obtain ⟨v, fails, -⟩ := answered _ List.mem_cons_self a b rfl
        cases fails
      | ok v =>
        obtain ⟨ran, logs⟩ := ask_of_ok asked next
        rw [logs] at answered
        obtain ⟨v', same, allowed⟩ := answered _ List.mem_cons_self a b rfl
        obtain rfl := Except.ok.inj same
        rw [ran]
        exact ih v allowed s' fun c member => answered c (List.mem_cons_of_mem _ member)

/-- Whatever the answers are, the function is called on two of the items each time. -/
theorem mem_items_of_compares (compares : r.Compares f items (fun _ _ _ => True) P) {s : State}
    {c : Invocation} (member : c ∈ invocations setting evaluate call r s) :
    c.callee = f ∧ ∃ a ∈ items, ∃ b ∈ items, c.values = [a, b] := by
  induction compares generalizing s with
  | done => cases member
  | @ask a b next left right later ih =>
    cases asked : answer setting evaluate call (.invoke f [a, b]) s with
    | mk result s' =>
      cases result with
      | error stop =>
        rw [(ask_of_error asked next).2] at member
        obtain rfl := List.mem_singleton.mp member
        exact ⟨rfl, a, left, b, right, rfl⟩
      | ok v =>
        rw [(ask_of_ok asked next).2] at member
        rcases List.mem_cons.mp member with rfl | inner
        · exact ⟨rfl, a, left, b, right, rfl⟩
        · exact ih v trivial inner

end Compares

/-! ### Sorting -/

/-- To have its arguments evaluated, a routine calls no function itself. -/
theorem invocations_argumentRange (position count : Nat) (s : State) :
    invocations setting evaluate call (Routine.argumentRange position count) s = [] := by
  induction count generalizing position s with
  | zero => rfl
  | succ count ih =>
    rw [Routine.argumentRange, Routine.ask_bind]
    cases asked : answer setting evaluate call (.argument position) s with
    | mk result after =>
      cases result with
      | error stop => exact (ask_of_error asked _).2
      | ok v =>
        rw [(ask_of_ok asked _).2, Routine.done_bind, invocations_bind, ih]
        cases run setting evaluate call (Routine.argumentRange (position + 1) count) after with
        | mk result' after' => cases result' <;> rfl

section Sorting

variable {s after : State} {id : Nat} {xs : List Value} {f : Value} {rest : List Value}

/-- Once its arguments are there, sorting is to sort the items and make an array of them. -/
theorem sort_of_arguments
    (given : run setting evaluate call (Routine.arguments call) s =
      (.ok (.array id xs :: f :: rest), after)) :
    run setting evaluate call (Library.sort call) s =
        run setting evaluate call
          (Library.sortBy (Library.comesAfter f) xs >>= Routine.newArray) after ∧
      invocations setting evaluate call (Library.sort call) s =
        invocations setting evaluate call (Library.sortBy (Library.comesAfter f) xs) after := by
  have unasked : invocations setting evaluate call (Routine.arguments call) s = [] :=
    invocations_argumentRange 0 _ s
  constructor
  · rw [Library.sort, run_bind, bind_apply, given]
    rfl
  · rw [Library.sort, invocations_bind, given, unasked, List.nil_append]
    dsimp only [List.headD]
    rw [invocations_bind]
    cases run setting evaluate call (Library.sortBy (Library.comesAfter f) xs) after with
    | mk result after' => cases result <;> exact List.append_nil _

/-- The log has an answer of the comparator to the two values. -/
def Answered (calls : List Invocation) (a b v : Value) : Prop :=
  ∃ c ∈ calls, c.values = [a, b] ∧ c.outcome = .ok v

/-- If no call fails, there is an array, whose items were sorted by what the log has. -/
theorem exists_sorts_of_answered
    (given : run setting evaluate call (Routine.arguments call) s =
      (.ok (.array id xs :: f :: rest), after))
    (succeed : ∀ c ∈ invocations setting evaluate call (Library.sort call) s,
      ∃ v, c.outcome = .ok v) :
    ∃ id' ys, (run setting evaluate call (Library.sort call) s).1 = .ok (.array id' ys) ∧
      Library.Sorts (Library.Decides
        (Answered (invocations setting evaluate call (Library.sort call) s))) xs ys := by
  obtain ⟨ran, logs⟩ := sort_of_arguments given
  rw [ran, logs]
  rw [logs] at succeed
  generalize log : invocations setting evaluate call
    (Library.sortBy (Library.comesAfter f) xs) after = calls at succeed ⊢
  have compares := Library.sortBy_compares f xs (Answered calls)
  obtain ⟨ys, after', sorted, sorts⟩ := run_of_compares compares after (by
    rw [log]
    intro c member a b values
    obtain ⟨v, outcome⟩ := succeed c member
    exact ⟨v, outcome, c, member, values, outcome⟩)
  refine ⟨(after'.store.reserve 1).1, ys, ?_, sorts⟩
  rw [run_bind, bind_apply, sorted]
  rfl

/-- Sorting an array with any comparator. Each call of the comparator is one on two of the items. If
none fails, the outcome is an array of the same items; and if the signs of the answers depend on the
two items alone and make a total preorder, the outcome is ordered by it and has the items that tie
in their order. If a call fails, no call is made after it, and sorting fails with what it came
to. -/
theorem sort_stable {fuel : Nat}
    (given : run setting (perform setting fuel) call (Routine.arguments call) s =
      (.ok (.array id xs :: f :: rest), after)) :
    let calls := invocationsOf setting (fuel + 1) Builtin.sort.toValue call s
    let result := (perform setting (fuel + 1) (.call Builtin.sort.toValue call) s).1
    (∀ c ∈ calls, ∃ a ∈ xs, ∃ b ∈ xs, c.values = [a, b] ∧ ∃ before,
      c.outcome = (callWith setting fuel f call.scope [a, b] call.callee before).1) ∧
    ((∀ c ∈ calls, ∃ v, c.outcome = .ok v) →
      ∃ id' ys, result = .ok (.array id' ys) ∧ ys.Perm xs ∧
        ∀ order : Value → Value → Ordering, Library.IsPreorder order xs →
          (∀ a b v, Answered calls a b v → v.toNumber.sign = order a b) →
          (ys.Pairwise fun a b => order a b ≠ .gt) ∧
            ∀ a ∈ xs, ys.filter (Library.ties order a) = xs.filter (Library.ties order a)) ∧
    ∀ before c later stop, calls = before ++ c :: later → c.outcome = .error stop →
      later = [] ∧ result = .error stop := by
  intro calls result
  refine ⟨?_, ?_, ?_⟩
  · intro c member
    have logs : calls = _ := (sort_of_arguments given).2
    rw [logs] at member
    obtain ⟨rfl, a, left, b, right, values⟩ := mem_items_of_compares
      (Library.sortBy_compares f xs fun _ _ _ => True) member
    obtain ⟨before, made⟩ := outcome_of_mem_invocations member
    rw [values] at made
    exact ⟨a, left, b, right, values, before, made⟩
  · intro succeed
    obtain ⟨id', ys, array, sorts⟩ := exists_sorts_of_answered given succeed
    refine ⟨id', ys, array, sorts.perm, ?_⟩
    intro order preorder signs
    apply sorts.stable preorder
    · rintro a b _ ⟨v, answered, rfl⟩
      rw [signs a b v answered]
    · exact List.Subset.refl xs
  · intro before c later stop log failed
    exact run_of_failed (r := Library.sort call) log failed

end Sorting

/-- The text `1` and the truth value tie, and both come before the number. -/
theorem sort_stable_minus :
    let xs : List Value := [.number 2, .string "1", .bool true]
    let call : Call := ⟨⟨0, []⟩, [.value (.array 0 xs), .value Builtin.minus.toValue], none⟩
    let s : State := { store := { levels := #[[]] } }
    let setting : Setting := { now := ⟨0, 0, 0⟩ }
    let order (a b : Value) : Ordering := (a.toNumber.sub b.toNumber).sign
    ∃ id ys, (perform setting 2 (.call Builtin.sort.toValue call) s).1 = .ok (.array id ys) ∧
      (Value.array id ys).text = "1,true,2" ∧ (ys.Pairwise fun a b => order a b ≠ .gt) ∧
      ys.filter (Library.ties order (.string "1")) =
        xs.filter (Library.ties order (.string "1")) := by
  intro xs call s setting order
  have given : run setting (perform setting 1) call (Routine.arguments call) s =
      (.ok (.array 0 xs :: Builtin.minus.toValue :: []), s) := rfl
  obtain ⟨-, sorts, -⟩ := sort_stable given
  have agreed : ∀ c ∈ invocationsOf setting 2 Builtin.sort.toValue call s,
      c.outcome.toOption.map (fun v => v.toNumber.sign) =
        some (order (c.values.getD 0 .undefined) (c.values.getD 1 .undefined)) := by
    decide +kernel
  have preorder : Library.IsPreorder order xs := ⟨by decide +kernel, by decide +kernel⟩
  have text : (perform setting 2 (.call Builtin.sort.toValue call) s).1.toOption.map Value.text =
      some "1,true,2" := by decide +kernel
  obtain ⟨id, ys, result, -, stable⟩ := sorts fun c member => by
    obtain ⟨v, answered, -⟩ := Option.map_eq_some_iff.mp (agreed c member)
    cases outcome : c.outcome with
    | ok v => exact ⟨v, rfl⟩
    | error stop =>
      rw [outcome] at answered
      cases answered
  obtain ⟨ordered, kept⟩ := stable order preorder (by
    rintro a b v ⟨c, member, values, outcome⟩
    have same := agreed c member
    rw [values, outcome] at same
    exact Option.some.inj same)
  rw [result] at text
  exact ⟨id, ys, result, Option.some.inj text, ordered, kept (.string "1") (by simp [xs])⟩

end Bracket.Evaluator
