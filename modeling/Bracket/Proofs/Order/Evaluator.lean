import Bracket.Proofs.Evaluator.Caller
import Bracket.Proofs.Order.Library

/-!
The order in which arguments are evaluated. A run that is watched comes to what it comes to
otherwise, and besides notes every expression that is evaluated for it, be it the last thing that
the run does because it fails there: those of arguments by their positions, and any others with
their scopes. Main statement: any call notes arguments at strictly increasing positions, and behind
them no more than the body of the closure that is called; what it did not note has no influence on
it.
-/

namespace Bracket.Evaluator

variable {α β : Type} {setting : Setting} {evaluate : Task → Eval Value} {call : Call}

/-- What is evaluated for a call: the expression of an argument, or any other in a scope. -/
inductive Evaluation where
  | argument (position : Nat)
  | expression (n : Node) (scope : Scope)

/-- What a run came to, and what was evaluated for it, in the order in which it was. -/
structure Watched (α : Type) where
  outcome : Except Stop α × State
  evaluations : List Evaluation

/-- What is evaluated to answer a question. Of arguments only those are that are expressions. -/
def evaluated (call : Call) : Request → List Evaluation
  | .argument position =>
    match call.arguments[position]? with
    | some (.node _) => [.argument position]
    | _ => []
  | .evaluate n scope => [.expression n scope]
  | _ => []

/-- Runs a routine and notes what is evaluated. -/
def watch (setting : Setting) (evaluate : Task → Eval Value) (call : Call) :
    Routine α → State → Watched α
  | .done a, s => ⟨(.ok a, s), []⟩
  | .fail e, s => ⟨(.error (.error e), s), []⟩
  | .ask request next, s =>
    match answer setting evaluate call request s with
    | (.error stop, after) => ⟨(.error stop, after), evaluated call request⟩
    | (.ok a, after) =>
      let rest := watch setting evaluate call (next a) after
      ⟨rest.outcome, evaluated call request ++ rest.evaluations⟩

/-- Performs a call and notes what is evaluated for it. -/
def watchCall (setting : Setting) (fuel : Nat) (f : Value) (call : Call) (s : State) :
    Watched Value :=
  match fuel, f with
  | fuel + 1, .function id procedure =>
    watch setting (perform setting fuel) call
      (procedure.routine setting.hosts (.function id procedure) call) s
  | fuel, f => ⟨perform setting fuel (.call f call) s, []⟩

/-- The one expression that a closure has of its own: its body, in a new scope inside the one where
the closure was made. -/
def ownBody (st : Store) : Value → List Evaluation
  | .function _ (.closure _ (some body) env) => [.expression body (st.newScope (some env)).1]
  | _ => []

/-! ### Runs that are watched -/

/-- To watch a run does not change it. -/
theorem watch_outcome (r : Routine α) (s : State) :
    (watch setting evaluate call r s).outcome = run setting evaluate call r s := by
  induction r generalizing s with
  | done a => rfl
  | fail e => rfl
  | ask request next ih =>
    rw [watch, run, bind_apply]
    cases answer setting evaluate call request s with
    | mk result after =>
      cases result with
      | error stop => rfl
      | ok a => exact ih a after

/-- One routine after another notes what the first one notes, and then what the second one does if
the first has come to its end. -/
theorem watch_bind (r : Routine α) (f : α → Routine β) (s : State) :
    (watch setting evaluate call (r >>= f) s).evaluations =
      (watch setting evaluate call r s).evaluations ++
        match (watch setting evaluate call r s).outcome with
        | (.ok a, after) => (watch setting evaluate call (f a) after).evaluations
        | (.error _, _) => [] := by
  induction r generalizing s with
  | done a => rfl
  | fail e => rfl
  | ask request next ih =>
    rw [Routine.ask_bind, watch, watch]
    cases answer setting evaluate call request s with
    | mk result after =>
      cases result with
      | error stop => exact (List.append_nil _).symm
      | ok a =>
        dsimp only
        rw [ih, List.append_assoc]

/-- An argument that is noted is an expression. -/
theorem mem_evaluated {request : Request} {position : Nat}
    (noted : .argument position ∈ evaluated call request) :
    request = .argument position ∧ ∃ n, call.arguments[position]? = some (.node n) := by
  cases request with
  | argument asked =>
    simp only [evaluated] at noted
    split at noted
    · next n found =>
      obtain rfl := Evaluation.argument.inj (List.mem_singleton.mp noted)
      exact ⟨rfl, n, found⟩
    · cases noted
  | evaluate n scope => cases List.mem_singleton.mp noted
  | _ => cases noted

theorem watch_expression {r : Routine α} {s : State} {position : Nat}
    (noted : .argument position ∈ (watch setting evaluate call r s).evaluations) :
    ∃ n, call.arguments[position]? = some (.node n) := by
  induction r generalizing s with
  | done a => cases noted
  | fail e => cases noted
  | ask request next ih =>
    rw [watch] at noted
    cases outcome : answer setting evaluate call request s with
    | mk result after =>
      rw [outcome] at noted
      cases result with
      | error stop => exact (mem_evaluated noted).2
      | ok a =>
        rcases List.mem_append.mp noted with here | later
        · exact (mem_evaluated here).2
        · exact ih a later

/-- What a question that is not for an expression notes: an argument, if it asks for one. -/
theorem evaluated_eq (call : Call) {request : Request} {lower : Nat} (here : request.From lower)
    (other : ∀ n scope, request ≠ .evaluate n scope) :
    ∃ positions : List Nat, evaluated call request = positions.map .argument ∧
      positions.Pairwise (· < ·) ∧
      ∀ position ∈ positions, lower ≤ position ∧ position < request.after lower := by
  cases request with
  | argument position =>
    simp only [evaluated]
    split
    · refine ⟨[position], rfl, List.pairwise_singleton _ _, ?_⟩
      exact List.forall_mem_singleton.mpr ⟨here, Nat.lt_succ_self position⟩
    · exact ⟨[], rfl, .nil, List.forall_mem_nil _⟩
  | evaluate n scope => exact absurd rfl (other n scope)
  | _ => exact ⟨[], rfl, .nil, List.forall_mem_nil _⟩

/-- A routine that asks for arguments alone, and for these in order, has them evaluated in order and
nothing else. -/
theorem watch_inOrder {r : Routine α} {lower upper : Nat} (order : r.InOrder lower upper)
    (only : r.ArgumentsOnly) (s : State) :
    ∃ positions : List Nat,
      (watch setting evaluate call r s).evaluations = positions.map .argument ∧
      positions.Pairwise (· < ·) ∧ ∀ position ∈ positions, lower ≤ position := by
  induction r generalizing lower s with
  | done a => exact ⟨[], rfl, .nil, List.forall_mem_nil _⟩
  | fail e => exact ⟨[], rfl, .nil, List.forall_mem_nil _⟩
  | ask request next ih =>
    obtain ⟨here, later⟩ := order
    obtain ⟨other, only⟩ := only
    -- what this question notes lies between what came before and what comes after
    obtain ⟨positions, noted, single, first⟩ := evaluated_eq call here other
    have ahead : lower ≤ request.after lower := by
      cases request with
      | argument position => exact Nat.le_trans here (Nat.le_succ position)
      | _ => exact Nat.le_refl lower
    rw [watch]
    cases answer setting evaluate call request s with
    | mk result after =>
      cases result with
      | error stop => exact ⟨positions, noted, single, fun position i => (first position i).1⟩
      | ok a =>
        obtain ⟨rest, behind, increasing, bound⟩ := ih a (later a) (only a) after
        refine ⟨positions ++ rest, ?_, ?_, ?_⟩
        · dsimp only
          rw [noted, behind, List.map_append]
        · refine List.pairwise_append.mpr ⟨single, increasing, ?_⟩
          intro position early other late
          exact Nat.lt_of_lt_of_le (first position early).2 (bound other late)
        · intro position either
          rcases List.mem_append.mp either with early | late
          · exact (first position early).1
          · exact Nat.le_trans ahead (bound position late)

/-- A closure has its arguments evaluated in order, and then its body if it comes so far. -/
theorem watch_applyClosure (params : List String) (body : Option Node) (env : Scope) (id : Nat)
    (s : State) :
    ∃ (positions : List Nat) (own : List Evaluation),
      (watch setting evaluate call (applyClosure params body env call) s).evaluations =
        positions.map .argument ++ own ∧
      positions.Pairwise (· < ·) ∧
      own <+: ownBody s.store (.function id (.closure params body env)) := by
  let inner := (s.store.newScope (some env)).1
  let entered : State := { s with store := (s.store.newScope (some env)).2 }
  have order := bindParameters_inOrder call inner 0 params
  have only := bindParameters_argumentsOnly call inner 0 params
  obtain ⟨positions, noted, increasing, -⟩ :
      ∃ positions : List Nat, (watch setting evaluate call (bindParameters call inner 0 params)
          entered).evaluations = positions.map .argument ∧
        positions.Pairwise (· < ·) ∧ ∀ position ∈ positions, 0 ≤ position :=
    watch_inOrder order only entered
  have behind (rest : Unit → Routine Value) :
      (watch setting evaluate call (bindParameters call inner 0 params >>= rest)
        entered).evaluations = positions.map .argument ++ _ :=
    (watch_bind _ rest entered).trans (congrArg (· ++ _) noted)
  cases body with
  | none =>
    refine ⟨positions, _, behind fun _ => .done .undefined, increasing, ?_⟩
    split <;> exact List.nil_prefix
  | some n =>
    refine ⟨positions, _, behind fun _ => Routine.evaluate n inner, increasing, ?_⟩
    split
    · next after reached =>
      show (watch setting evaluate call (.ask (.evaluate n inner) .done) after).evaluations <+: _
      rw [watch]
      cases answer setting evaluate call (.evaluate n inner) after with
      | mk result last => cases result <;> exact List.prefix_rfl
    · exact List.nil_prefix

/-! ### What is not noted has no influence -/

/-- The arguments are the given ones, apart from expressions that are not noted. -/
structure Covers (evaluations : List Evaluation) (arguments arguments' : List Argument) : Prop where
  length : arguments'.length = arguments.length
  noted : ∀ position, .argument position ∈ evaluations →
    arguments'[position]? = arguments[position]?
  values : ∀ (position : Nat) (v : Value), arguments[position]? = some (Argument.value v) →
    arguments'[position]? = some (Argument.value v)

/-- A question finds the same if the argument that is evaluated for it is the same. -/
theorem Covers.asked {arguments' : List Argument} {position : Nat}
    (covers : Covers (evaluated call (.argument position)) call.arguments arguments') :
    arguments'[position]? = call.arguments[position]? := by
  cases found : call.arguments[position]? with
  | none =>
    rw [List.getElem?_eq_none_iff] at found ⊢
    rw [covers.length]
    exact found
  | some argument =>
    cases argument with
    | value v => exact covers.values position v found
    | node n =>
      have noted : Evaluation.argument position ∈ evaluated call (.argument position) := by
        simp [evaluated, found]
      rw [covers.noted position noted, found]

theorem answer_congr {arguments' : List Argument} {request : Request}
    (covers : Covers (evaluated call request) call.arguments arguments') :
    answer setting evaluate ⟨call.scope, arguments', call.callee⟩ request =
      answer setting evaluate call request := by
  cases request with
  | argument position => simp only [answer, covers.asked]
  | _ => rfl

theorem evaluated_congr {arguments' : List Argument} {request : Request}
    (covers : Covers (evaluated call request) call.arguments arguments') :
    evaluated ⟨call.scope, arguments', call.callee⟩ request = evaluated call request := by
  cases request with
  | argument position => simp only [evaluated, covers.asked]
  | _ => rfl

theorem watch_congr {arguments' : List Argument} (r : Routine α) (s : State)
    (covers : Covers (watch setting evaluate call r s).evaluations call.arguments arguments') :
    watch setting evaluate ⟨call.scope, arguments', call.callee⟩ r s =
      watch setting evaluate call r s := by
  induction r generalizing s with
  | done a => rfl
  | fail e => rfl
  | ask request next ih =>
    rw [watch] at covers
    have first : Covers (evaluated call request) call.arguments arguments' := by
      refine { covers with noted := fun position here => covers.noted position ?_ }
      split
      · exact here
      · exact List.mem_append_left _ here
    rw [watch, watch, answer_congr first, evaluated_congr first]
    cases outcome : answer setting evaluate call request s with
    | mk result after =>
      cases result with
      | error stop => rfl
      | ok a =>
        rw [outcome] at covers
        have rest := ih a after
          { covers with noted := fun position later =>
              covers.noted position (List.mem_append_right _ later) }
        dsimp only
        rw [rest]

/-! ### Calls -/

theorem watchCall_outcome (setting : Setting) (fuel : Nat) (f : Value) (call : Call) (s : State) :
    (watchCall setting fuel f call s).outcome = perform setting fuel (.call f call) s := by
  cases fuel with
  | zero => cases f <;> rfl
  | succ fuel =>
    cases f with
    | function id procedure => exact watch_outcome _ s
    | _ => rfl

/-- A call has arguments evaluated in order, and then the body of a closure. -/
theorem watchCall_inOrder (limit : Nat) (now : Date) (fuel : Nat) (f : Value) (call : Call)
    (s : State) :
    ∃ (positions : List Nat) (own : List Evaluation),
      (watchCall (.standard limit now) fuel f call s).evaluations =
        positions.map .argument ++ own ∧
      positions.Pairwise (· < ·) ∧ own <+: ownBody s.store f := by
  have nothing : ∃ (positions : List Nat) (own : List Evaluation),
      ([] : List Evaluation) = positions.map .argument ++ own ∧
      positions.Pairwise (· < ·) ∧ own <+: ownBody s.store f :=
    ⟨[], [], rfl, .nil, List.nil_prefix⟩
  cases fuel with
  | zero => cases f <;> exact nothing
  | succ fuel =>
    cases f with
    | function id procedure =>
      cases procedure with
      | native name code properties =>
        obtain ⟨upper, order⟩ := code.routine_inOrder call
        obtain ⟨positions, noted, increasing, -⟩ :=
          watch_inOrder order (code.routine_argumentsOnly call) s
        exact ⟨positions, [], noted.trans (List.append_nil _).symm, increasing, List.nil_prefix⟩
      | closure params body env =>
        rw [watchCall, Procedure.routine]
        split
        · exact nothing
        · exact watch_applyClosure params body env id s
    | _ => exact nothing

theorem watchCall_expression {fuel : Nat} {f : Value} {s : State} {position : Nat}
    (noted : .argument position ∈ (watchCall setting fuel f call s).evaluations) :
    ∃ n, call.arguments[position]? = some (.node n) := by
  cases fuel with
  | zero => cases f <;> cases noted
  | succ fuel =>
    cases f with
    | function id procedure => exact watch_expression noted
    | _ => cases noted

theorem watchCall_congr (limit : Nat) (now : Date) (fuel : Nat) (f : Value) (call : Call)
    (s : State) {arguments' : List Argument}
    (covers : Covers (watchCall (.standard limit now) fuel f call s).evaluations call.arguments
      arguments') :
    watchCall (.standard limit now) fuel f ⟨call.scope, arguments', call.callee⟩ s =
      watchCall (.standard limit now) fuel f call s := by
  cases fuel with
  | zero => cases f <;> rfl
  | succ fuel =>
    cases f with
    | function id procedure =>
      have same : call.Like ⟨call.scope, arguments', call.callee⟩ := ⟨covers.length, rfl⟩
      have routine := procedure.routine_congr (.function id procedure) same
      show watch _ _ _ (procedure.routine [] _ _) s = _
      rw [routine]
      exact watch_congr _ s covers
    | _ => rfl

/-- Arguments are evaluated at most once, from left to right. With the standard library alone,
whatever function is called and whatever the call comes to, all that is evaluated for it are
arguments that are expressions, at strictly increasing positions, and behind them, if a closure is
called, its body in a new scope. What the function does cannot depend on the expressions themselves:
it is the same for every call of as many arguments and with the same name. And an expression that is
not evaluated may be replaced by any argument: the same is evaluated, with the same outcome. -/
theorem arguments_left_to_right (limit : Nat) (now : Date) (fuel : Nat) (f : Value) (call : Call)
    (s : State) :
    let watched := watchCall (.standard limit now) fuel f call s
    watched.outcome = perform (.standard limit now) fuel (.call f call) s ∧
      (∃ (positions : List Nat) (own : List Evaluation),
        watched.evaluations = positions.map .argument ++ own ∧
        positions.Pairwise (· < ·) ∧
        (∀ position ∈ positions, ∃ n, call.arguments[position]? = some (.node n)) ∧
        own <+: ownBody s.store f) ∧
      (∀ id procedure, f = .function id procedure → ∀ call', call.Like call' →
        procedure.routine [] f call' = procedure.routine [] f call) ∧
      ∀ arguments', Covers watched.evaluations call.arguments arguments' →
        watchCall (.standard limit now) fuel f ⟨call.scope, arguments', call.callee⟩ s =
          watched := by
  intro watched
  refine ⟨watchCall_outcome _ fuel f call s, ?_, ?_, ?_⟩
  · obtain ⟨positions, own, noted, increasing, body⟩ := watchCall_inOrder limit now fuel f call s
    refine ⟨positions, own, noted, increasing, ?_, body⟩
    intro position member
    have here : .argument position ∈ watched.evaluations := by
      rw [noted]
      exact List.mem_append_left _ (List.mem_map_of_mem member)
    exact watchCall_expression here
  · rintro id procedure rfl call' same
    exact procedure.routine_congr _ same
  · intro arguments' covers
    exact watchCall_congr limit now fuel f call s covers

/-- A choice evaluates the condition and the branch that it takes; the other branch, which would
fail, may be anything. -/
theorem arguments_left_to_right_ternary :
    let yes : Argument := .node (.leaf ⟨"true", 0⟩ (.boolean true))
    let result : Argument := .node (.leaf ⟨"null", 0⟩ .null)
    let failing : Argument := .node (.call ⟨"(", 0⟩ [])
    let call : Call := ⟨⟨0, []⟩, [yes, result, failing], none⟩
    let s : State := { store := { levels := #[[]] } }
    let setting : Setting := .standard 256 ⟨0, 0, 0⟩
    (watchCall setting 2 (Builtin.toValue .ternary) call s).evaluations =
        [.argument 0, .argument 1] ∧
      Covers [.argument 0, .argument 1] call.arguments [yes, result, yes] ∧
      (watchCall setting 2 (Builtin.toValue .ternary) ⟨⟨0, []⟩, [yes, result, yes], none⟩
        s).outcome.1 = .ok .null := by
  intro yes result failing call s setting
  have evaluations : (watchCall setting 2 (Builtin.toValue .ternary) call s).evaluations =
      [.argument 0, .argument 1] := rfl
  have covers : Covers [.argument 0, .argument 1] call.arguments [yes, result, yes] := by
    refine ⟨rfl, by simp [call], ?_⟩
    rintro (_ | _ | _ | position) v found <;> simp [call, yes, result, failing] at found
  have same := (arguments_left_to_right 256 ⟨0, 0, 0⟩ 2 (Builtin.toValue .ternary) call s).2.2.2
    [yes, result, yes] covers
  refine ⟨evaluations, covers, ?_⟩
  rw [same]
  rfl

end Bracket.Evaluator
