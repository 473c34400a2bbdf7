import Bracket.Proofs.Evaluator.Termination
import Bracket.Proofs.Session.Opening

/-!
What the limit of nesting does for the texts of a session. Main statement: a text has an outcome
unless its evaluation comes to an endless tower of native functions, and a text that comes to an
expression beyond the limit ends in the error that says so.
-/

namespace Bracket.Session

open Evaluator

/-- The evaluation of a text comes to a job. -/
def Reaches (text : String) (bindings : Table Value) (x : Session × World) (job : Job) : Prop :=
  ∃ nodes scope s w first, opening text bindings x = (.ok (nodes, scope), s, w) ∧
    (Plan.ofNodes scope nodes Plan.done).Asks (setting x) { store := w.store } first ∧
    Awaits (setting x) first job

variable {text : String} {bindings : Table Value} {x : Session × World} {nodes : List Node}
  {scope : Scope} {s : Session} {w : World}

/-- The outcome of a text that opens is that of the plan of its trees. -/
theorem evaluate_fst_of_opening
    (opened : opening text bindings x = (.ok (nodes, scope), s, w)) (fuel elapsed : Nat) :
    (evaluate fuel elapsed text bindings x).1 =
      ((Plan.ofNodes scope nodes Plan.done).run (perform (setting x) fuel)
        { store := w.store }).1.map fun values => lastValue (nodes.zip values) := by
  rw [evaluate_fst, compute_eq, opened, Plan.run_ofNodes_done]
  dsimp only
  cases evaluateAll (setting x) fuel scope nodes { store := w.store } with
  | mk result after => cases result <;> rfl

theorem evaluate_ends_of_opening
    (opened : opening text bindings x = (.ok (nodes, scope), s, w)) (fuel elapsed : Nat) :
    (evaluate fuel elapsed text bindings x).1 ≠ .error .outOfFuel ↔
      ((Plan.ofNodes scope nodes Plan.done).run (perform (setting x) fuel)
        { store := w.store }).1 ≠ .error .outOfFuel := by
  rw [evaluate_fst_of_opening opened]
  cases ((Plan.ofNodes scope nodes Plan.done).run (perform (setting x) fuel)
    { store := w.store }).1 with
  | error stop => simp [Except.map]
  | ok values => simp [Except.map]

/-- A text without an outcome comes to an endless tower of native functions. -/
theorem exists_tower (elapsed : Nat)
    (endless : ∀ fuel, (evaluate fuel elapsed text bindings x).1 = .error .outOfFuel) :
    ∃ tower, IsTower (setting x) tower ∧ Reaches text bindings x (tower 0) := by
  have steady := (opening_isSteady text bindings).ends x
  cases opened : opening text bindings x with
  | mk result after =>
    obtain ⟨s, w⟩ := after
    rw [opened] at steady
    cases result with
    | error stop =>
      have stopped := endless 0
      rw [evaluate_fst, compute_eq, opened] at stopped
      simp only [Except.map, Except.error.injEq] at stopped
      exact absurd (congrArg Except.error stopped) steady
    | ok trees =>
      obtain ⟨nodes, scope⟩ := trees
      by_contra none
      have ends : ∀ first, (Plan.ofNodes scope nodes Plan.done).Asks (setting x)
          { store := w.store } first → Finishes (setting x) first := by
        intro first asks
        by_contra stuck
        obtain ⟨tower, native, awaits⟩ := not_finishes_iff_tower.mp stuck
        exact none ⟨tower, native, nodes, scope, s, w, first, opened, asks, awaits⟩
      obtain ⟨fuel, ended⟩ := Plan.ends_of_asks ends
      exact (evaluate_ends_of_opening opened fuel elapsed).mpr ended (endless fuel)

theorem finishes_of_reaches {job : Job} (reached : Reaches text bindings x job) {fuel elapsed : Nat}
    (ended : (evaluate fuel elapsed text bindings x).1 ≠ .error .outOfFuel) :
    Finishes (setting x) job := by
  obtain ⟨nodes, scope, s, w, first, opened, asks, awaits⟩ := reached
  exact awaits.finishes ⟨fuel, asks.ends ((evaluate_ends_of_opening opened fuel elapsed).mp ended)⟩

/-- A text ends in the error that a job it comes to ends in. -/
theorem evaluate_fails_of_reaches {job : Job} (reached : Reaches text bindings x job)
    (elapsed : Nat) {fuel : Nat} {e : Error}
    (failed : (perform (setting x) fuel job.1 job.2).1 = .error (.error e)) :
    ∃ fuel, (evaluate fuel elapsed text bindings x).1 = .error (.error e) := by
  obtain ⟨nodes, scope, s, w, first, opened, asks, awaits⟩ := reached
  obtain ⟨fuel, failed⟩ := awaits.fails failed
  obtain ⟨fuel, failed⟩ := asks.fails failed
  refine ⟨fuel, ?_⟩
  rw [evaluate_fst_of_opening opened, failed]
  rfl

/-- For every limit, text and bindings, the text has an outcome if and only if its evaluation comes
to no endless tower of native functions, each called by the one before without an expression in
between; and a text that comes to an expression beyond the limit ends in the error for it. -/
theorem evaluate_ends_iff (elapsed : Nat) (text : String) (bindings : Table Value)
    (x : Session × World) :
    ((∃ fuel, (evaluate fuel elapsed text bindings x).1 ≠ .error .outOfFuel) ↔
      ¬ ∃ tower, IsTower (setting x) tower ∧ Reaches text bindings x (tower 0)) ∧
    ∀ n scope s, Reaches text bindings x (.node n scope, s) → x.1.limit ≤ s.depth →
      ∃ fuel, (evaluate fuel elapsed text bindings x).1 = .error (.error (.tooDeep x.1.limit)) := by
  refine ⟨⟨?_, ?_⟩, ?_⟩
  · rintro ⟨fuel, ended⟩ ⟨tower, native, reached⟩
    have stuck : ¬ Finishes (setting x) (tower 0) :=
      not_finishes_iff_tower.mpr ⟨tower, native, .refl⟩
    exact stuck (finishes_of_reaches reached ended)
  · intro none
    by_contra endless
    push Not at endless
    exact none (exists_tower elapsed endless)
  · intro n scope s reached deep
    exact evaluate_fails_of_reaches reached elapsed (perform_tooDeep deep)

end Bracket.Session

namespace Bracket.Evaluator

variable {setting : Setting} {scope : Scope} {callee : Option Node}

/-! ### A text without an outcome -/

/-- A function that applies a function to itself, made from the library without a function literal:
`array` gives `[v]`, a `partial` keeps that for `apply`, a `map` makes `[v, [v]]` by it, and an
`apply` of `apply` to these calls `v` on `v`. -/
def isDoubler : Value → Bool
  | .function _ (.native _ (.chained [
      .function _ (.native _ (.builtin .array) _),
      .function _ (.native _ (.bound (.function _ (.native _ (.builtin .bind) _))
        [.function _ (.native _ (.flipped (.function _ (.native _ (.builtin .apply) _)) []) _)]) _),
      .function _ (.native _ (.bound (.function _ (.native _ (.builtin .map) _))
        [.array _ [.function _ (.native _ (.builtin .or) _),
          .function _ (.native _ (.builtin .array) _)]]) _),
      .function _ (.native _ (.bound (.function _ (.native _ (.builtin .apply) _))
        [.function _ (.native _ (.builtin .apply) _)]) _)]) _) => true
  | _ => false

theorem spawns_call {f : Value} {call : Call} {t : Task} {next : Value → Plan Value} {s : State}
    (plan : (Task.call f call).plan setting = .part t next) :
    Spawns setting (.call f call, s) (t, s) := by
  refine ⟨s, rfl, ?_⟩
  rw [plan]
  exact .here

/-- A doubler evaluates its argument first. -/
theorem doubler_plan {u : Value} (doubler : isDoubler u = true) (n : Node) :
    (Task.call u ⟨scope, [.node n], callee⟩).plan setting =
      .part (.node n scope) fun v => (Task.call u ⟨scope, [.value v], callee⟩).plan setting := by
  unfold isDoubler at doubler
  split at doubler
  · rfl
  · cases doubler

/-- Without an expression in between, a doubler comes to the call of a function on itself. -/
theorem doubler_asks {u : Value} (doubler : isDoubler u = true) (id : Nat) (procedure : Procedure)
    (s : State) :
    ∃ q w s', ((Task.call u ⟨scope, [.value (.function id procedure)], callee⟩).plan setting).Asks
        setting s (.call q ⟨scope, [.value w], callee⟩, s') ∧
      Relation.TransGen (Spawns setting) (.call q ⟨scope, [.value w], callee⟩, s')
        (.call (.function id procedure)
          ⟨scope, [.value (.function id procedure)], callee⟩, s') := by
  unfold isDoubler at doubler
  split at doubler
  · -- the first three of the composed functions have their values; the fourth is waited for
    refine ⟨_, _, _, .behind (rfl : perform setting 1 _ _ = _)
      (.behind (rfl : perform setting 2 _ _ = _)
        (.behind (rfl : perform setting 6 _ _ = _) .here)), ?_⟩
    exact .head (spawns_call rfl) (.head (spawns_call rfl) (.single (spawns_call rfl)))
  · cases doubler

theorem isDoubler_function {u : Value} (doubler : isDoubler u = true) :
    ∃ id procedure, u = .function id procedure := by
  cases u with
  | function id procedure => exact ⟨id, procedure, rfl⟩
  | _ => cases doubler

theorem doubler_awaits {u : Value} (doubler : isDoubler u = true) (s : State) :
    ∃ s', Relation.TransGen (Spawns setting) (.call u ⟨scope, [.value u], callee⟩, s)
      (.call u ⟨scope, [.value u], callee⟩, s') := by
  obtain ⟨id, procedure, rfl⟩ := isDoubler_function doubler
  obtain ⟨q, w, s', asks, later⟩ := doubler_asks doubler id procedure s
  exact ⟨s', .head ⟨s, rfl, asks⟩ later⟩

theorem doubler_awaits_argument {u v : Value} (doubler : isDoubler u = true)
    (doubler' : isDoubler v = true) {n : Node} {s after : State} {fuel : Nat}
    (made : perform setting fuel (.node n scope) s = (.ok v, after)) :
    ∃ s', Relation.TransGen (Spawns setting) (.call u ⟨scope, [.node n], callee⟩, s)
      (.call v ⟨scope, [.value v], callee⟩, s') := by
  obtain ⟨id, procedure, rfl⟩ := isDoubler_function doubler'
  obtain ⟨q, w, s', asks, later⟩ := doubler_asks doubler id procedure after
  refine ⟨s', .head ⟨s, rfl, ?_⟩ later⟩
  rw [doubler_plan doubler]
  exact .behind made asks

/-- A doubler that is called on itself goes on for ever. -/
theorem doubler_endless {u : Value} (doubler : isDoubler u = true) (s : State) :
    ¬ Finishes setting (.call u ⟨scope, [.value u], callee⟩, s) := by
  intro ends
  have accessible := (finishes_iff_acc.mp ends).transGen
  clear ends
  generalize same : (Task.call u ⟨scope, [.value u], callee⟩, s) = job at accessible
  induction accessible generalizing s with
  | intro job _ ih =>
    subst same
    obtain ⟨s', again⟩ := doubler_awaits doubler s
    exact ih _ (Relation.transGen_swap.mpr again) s' rfl

end Bracket.Evaluator

namespace Bracket.Session

open Evaluator

/-- The text is the call of a doubler on an argument that is a doubler as well. -/
def callsDoubler (text : String) (x : Session × World) : Bool :=
  match opening text [] x with
  | (.ok ([.call _ [callee, argument]], scope), _, w) =>
    let (inner, store) := w.store.newScope (some scope)
    match perform (setting x) 9 (.node callee inner) { store, depth := 1 } with
    | (.ok u, after) =>
      match perform (setting x) 9 (.node argument inner) after with
      | (.ok v, _) => isDoubler u && isDoubler v
      | _ => false
    | _ => false
  | _ => false

theorem reaches_doubler {text : String} {x : Session × World} (room : 0 < x.1.limit)
    (calls : callsDoubler text x = true) :
    ∃ job, Reaches text [] x job ∧ ¬ Finishes (setting x) job := by
  unfold callsDoubler at calls
  split at calls
  · next mark callee argument scope s w opened =>
    dsimp only at calls
    split at calls
    · next u after made =>
      split at calls
      · next v last made' =>
        obtain ⟨doubler, doubler'⟩ := Bool.and_eq_true_iff.mp calls
        obtain ⟨id, procedure, rfl⟩ := isDoubler_function doubler
        have entered : (Task.node (.call mark [callee, argument]) scope).enter (setting x).limit
            { store := w.store } = some { store := w.store, depth := 1 } := if_neg (by
          simpa [setting] using Nat.ne_of_gt room)
        have called : Spawns (setting x)
            (.node (.call mark [callee, argument]) scope, _) (_, after) :=
          ⟨_, entered, .nested (.behind made .here)⟩
        obtain ⟨s', later⟩ := doubler_awaits_argument doubler doubler' made'
        have awaits := Relation.TransGen.to_reflTransGen (.head called later)
        exact ⟨_, ⟨_, scope, s, w, _, opened, .here, awaits⟩, doubler_endless doubler' s'⟩
      · cases calls
    · cases calls
  · cases calls

/-- The text of a doubler. -/
def doublerText : String :=
  "(compose (partial apply apply) (partial map (array || array)) " ++
    "(partial partial (flip apply)) array)"

/-- The limit of nesting does not end the call of a doubler on itself. -/
theorem evaluate_doubler_endless :
    ¬ ∃ fuel, (evaluate fuel 0 ("(" ++ doublerText ++ " " ++ doublerText ++ ")") []
      (standard, { now := ⟨0, 0, 0⟩ })).1 ≠ .error .outOfFuel := by
  rintro ⟨fuel, ended⟩
  have calls : callsDoubler ("(" ++ doublerText ++ " " ++ doublerText ++ ")")
      (standard, { now := ⟨0, 0, 0⟩ }) = true := by decide +kernel
  obtain ⟨job, reached, endless⟩ := reaches_doubler (by decide) calls
  exact endless (finishes_of_reaches reached ended)

end Bracket.Session
