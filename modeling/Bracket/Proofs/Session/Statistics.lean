import Bracket.Proofs.Session.Caches
import Bracket.Proofs.Stats

/-!
What a session counts. Only the evaluation of a text writes to the statistics, and only when it
succeeds: whether the tokens, the trees or the library were remembered makes no difference, and
neither does any other operation. Main statement: after any operations the statistics hold the
evaluations that succeeded, each counted once under its text.
-/

namespace Bracket.Session

/-! ### What leaves the statistics alone -/

/-- The computation leaves the statistics alone, whatever its outcome. -/
def SparesStats {α : Type} (r : Run α) : Prop := ∀ x, (r x).2.1.stats = x.1.stats

theorem SparesStats.bind {α β : Type} {r : Run α} {f : α → Run β} (first : SparesStats r)
    (rest : ∀ a, SparesStats (f a)) : SparesStats (r >>= f) := by
  intro x
  have spared := first x
  rw [bind_apply]
  cases outcome : r x with
  | mk result after =>
    rw [outcome] at spared
    cases result with
    | error stop => exact spared
    | ok a => exact (rest a after).trans spared

theorem tokenize_sparesStats (text : String) : SparesStats (tokenize text) := by
  rintro ⟨s, w⟩
  unfold tokenize
  dsimp only
  repeat' split
  all_goals rfl

theorem parse_sparesStats (tokens : List Token) : SparesStats (parse tokens) := by
  rintro ⟨s, w⟩
  unfold parse
  dsimp only
  split <;> rfl

theorem tree_sparesStats (text : String) : SparesStats (tree text) := by
  refine SparesStats.bind (r := get) (fun _ => rfl) fun x => ?_
  obtain ⟨s, w⟩ := x
  dsimp only
  split
  · exact fun _ => rfl
  · refine (tokenize_sparesStats text).bind fun tokens => (parse_sparesStats tokens).bind ?_
    exact fun _ _ => rfl

theorem scopeWith_sparesStats (bindings : Table Value) : SparesStats (scopeWith bindings) := by
  refine SparesStats.bind (r := libraryScope) ?_ fun _ _ => rfl
  rintro ⟨s, w⟩
  unfold libraryScope
  dsimp only
  split <;> rfl

theorem evaluating_sparesStats {α : Type} (f : Evaluator.Setting → Evaluator.Eval α) :
    SparesStats (evaluating f) :=
  fun _ => rfl

theorem compute_sparesStats (fuel : Nat) (text : String) (bindings : Table Value) :
    SparesStats (compute fuel text bindings) :=
  (tree_sparesStats text).bind fun _ => (scopeWith_sparesStats bindings).bind fun _ =>
    (evaluating_sparesStats _).bind fun _ _ => rfl

theorem callWith_sparesStats (fuel : Nat) (f : Value) (values : List Value) :
    SparesStats (callWith fuel f values) :=
  (scopeWith_sparesStats []).bind fun _ => evaluating_sparesStats _

/-! ### One operation -/

namespace Operation

/-- The evaluation of a text that succeeds: the text, and the time that it took. -/
def success? : Operation → Session × World → Option (String × Nat)
  | .evaluate fuel elapsed text bindings, x =>
    (Session.evaluate fuel elapsed text bindings x).1.toOption.map fun _ => (text, elapsed)
  | .evaluateNodes fuel elapsed text bindings, x =>
    (Session.evaluateNodes fuel elapsed text bindings x).1.toOption.map fun _ => (text, elapsed)
  | _, _ => none

end Operation

/-- An evaluation is recorded if it succeeds. -/
theorem evaluateNodes_stats (fuel elapsed : Nat) (text : String) (bindings : Table Value)
    (x : Session × World) :
    (evaluateNodes fuel elapsed text bindings x).2.1.stats =
      x.1.stats.recordAll (Operation.success? (.evaluateNodes fuel elapsed text bindings) x).toList
    := by
  have spared := compute_sparesStats fuel text bindings x
  rw [Operation.success?, evaluateNodes, bind_apply]
  cases outcome : compute fuel text bindings x with
  | mk result after =>
    rw [outcome] at spared
    cases result with
    | error stop => exact spared
    | ok evaluated => exact congrArg (Stats.record · text elapsed) spared

/-- The value of a text is computed with success exactly when its expressions are. -/
theorem success?_evaluate (fuel elapsed : Nat) (text : String) (bindings : Table Value)
    (x : Session × World) :
    Operation.success? (.evaluate fuel elapsed text bindings) x =
      Operation.success? (.evaluateNodes fuel elapsed text bindings) x := by
  rw [Operation.success?, Operation.success?, evaluate_fst, evaluateNodes_fst]
  cases (compute fuel text bindings x).1 <;> rfl

/-- An operation records the evaluation that succeeds with it, and nothing else. -/
theorem Operation.after_stats (op : Operation) (x : Session × World) :
    (op.after x).1.stats = x.1.stats.recordAll (op.success? x).toList := by
  cases op with
  | tokenize text => exact tokenize_sparesStats text x
  | parse tokens => exact parse_sparesStats tokens x
  | evaluate fuel elapsed text bindings =>
    rw [Operation.after, evaluate_snd, success?_evaluate]
    exact evaluateNodes_stats fuel elapsed text bindings x
  | evaluateNodes fuel elapsed text bindings =>
    exact evaluateNodes_stats fuel elapsed text bindings x
  | callWith fuel f values => exact callWith_sparesStats fuel f values x
  | registerFunction | insertFunction | removeFunction | insertKeyword | removeKeyword
  | insertRecognizer | removeRecognizer | setLimit | setClock => rfl

/-! ### Any operations -/

/-- The session and the world after operations, one after the other. -/
def afterAll (ops : List Operation) (x : Session × World) : Session × World :=
  ops.foldl (fun x op => op.after x) x

/-- The evaluations that succeed along operations, in order. -/
def successes : List Operation → Session × World → List (String × Nat)
  | [], _ => []
  | op :: rest, x => (op.success? x).toList ++ successes rest (op.after x)

/-- Operations record the evaluations that succeed along them. -/
theorem afterAll_stats (ops : List Operation) (x : Session × World) :
    (afterAll ops x).1.stats = x.1.stats.recordAll (successes ops x) := by
  induction ops generalizing x with
  | nil => rfl
  | cons op rest ih =>
    rw [successes, Stats.recordAll_append, ← op.after_stats]
    exact ih (op.after x)

/-- After any operations on a new session, the number of calls that the statistics give for a text
is the number of evaluations of exactly that text that succeeded, with no entry if there was none;
there are as many entries as distinct texts of such evaluations; and whatever the next operation
is, it leaves the statistics as they are unless it is an evaluation that succeeds, which is
recorded once. -/
theorem stats_count_successes (d : Defaults) (w : World) (ops : List Operation) :
    let x := afterAll ops (ofDefaults d, w)
    let texts := (successes ops (ofDefaults d, w)).map Prod.fst
    (∀ text, (x.1.stats.get? text).map Usage.calls =
      if text ∈ texts then some (texts.count text) else none) ∧
    x.1.stats.size = texts.dedup.length ∧
    ∀ op : Operation, (op.after x).1.stats = match op.success? x with
      | none => x.1.stats
      | some (text, elapsed) => x.1.stats.record text elapsed := by
  intro x texts
  have counted : x.1.stats = Stats.recordAll {} (successes ops (ofDefaults d, w)) :=
    afterAll_stats ops (ofDefaults d, w)
  refine ⟨fun text => ?_, ?_, fun op => ?_⟩
  · rw [counted, Stats.get?_recordAll]
    split
    · exact congrArg some (Stats.calls_usageIn _ text)
    · rfl
  · rw [counted, Stats.size_recordAll]
  · rw [op.after_stats]
    cases op.success? x <;> rfl

/-- A text that is remembered counts again, and one that fails does not count. -/
example :
    (afterAll [.evaluate 9 0 "(+ 1 2)" [], .evaluate 9 0 "(nope)" [], .setLimit 8,
        .evaluateNodes 9 0 "(+ 1 2)" []] (standard, { now := ⟨0, 0, 0⟩ })).1.stats.usages =
      [("(+ 1 2)", ⟨2, 0⟩)] := by
  decide +kernel

end Bracket.Session
