import Bracket.Proofs.Evaluator.Termination

/-!
One evaluator, used again and again. All that it carries from one use to the next, besides the
store, is the depth. Main statement: whatever a use ends in, the depth is restored, and it was
within the limit all along; hence every use has the answer that a fresh evaluator gives.
-/

namespace Bracket.Evaluator

variable {setting : Setting}

/-- The ways into the evaluator: an expression, expressions in order, the call of a function. -/
inductive Entry where
  | expression (n : Node) (scope : Scope)
  | expressions (nodes : List Node) (scope : Scope)
  | function (f : Value) (call : Call)

namespace Entry

/-- The values of an entry. -/
def run (setting : Setting) (fuel : Nat) : Entry → Eval (List Value)
  | .expression n scope => do return [← perform setting fuel (.node n scope)]
  | .expressions nodes scope => evaluateAll setting fuel scope nodes
  | .function f call => do return [← perform setting fuel (.call f call)]

/-- What an entry asks for. -/
def plan : Entry → Plan (List Value)
  | .expression n scope => .part (.node n scope) fun v => .done [v]
  | .expressions nodes scope => .ofNodes scope nodes .done
  | .function f call => .part (.call f call) fun v => .done [v]

/-- Running an entry carries out its plan. -/
theorem run_eq_plan (entry : Entry) (fuel : Nat) (s : State) :
    entry.run setting fuel s = entry.plan.run (perform setting fuel) s := by
  cases entry with
  | expression n scope =>
    exact (Plan.run_part (f := fun v => pure [v]) _ _ (fun _ _ => rfl) s).symm
  | expressions nodes scope => exact (Plan.run_ofNodes_done setting fuel scope nodes s).symm
  | function f call =>
    exact (Plan.run_part (f := fun v => pure [v]) _ _ (fun _ _ => rfl) s).symm

/-- The depth after an entry is that before it, whatever the outcome. -/
theorem run_depth (entry : Entry) (fuel : Nat) (s : State) :
    (entry.run setting fuel s).2.depth = s.depth := by
  rw [run_eq_plan]
  exact Plan.run_depth (perform_depth setting fuel) entry.plan s

/-- The evaluation of an entry comes to a job, at any nesting. -/
def Reaches (setting : Setting) (entry : Entry) (s : State) (job : Job) : Prop :=
  ∃ first, entry.plan.Asks setting s first ∧ Awaits setting first job

/-- The depth is set to this number during the evaluation of an entry: where a job that it comes
to is entered, or where that job is left again. -/
def Counts (setting : Setting) (entry : Entry) (s : State) (depth : Nat) : Prop :=
  ∃ job, entry.Reaches setting s job ∧
    (depth = job.2.depth ∨ ∃ inner, job.1.enter setting.limit job.2 = some inner ∧
      depth = inner.depth)

end Entry

/-! ### The depth stays within the limit -/

/-- What a job waits for is at the depth of the job or within the limit. -/
theorem Spawns.depth_within {job part : Job} (spawns : Spawns setting job part)
    (within : job.2.depth ≤ setting.limit) : part.2.depth ≤ setting.limit := by
  obtain ⟨t, s⟩ := job
  cases t with
  | node n scope => exact spawns.depth_node.2
  | call f call =>
    rw [spawns.depth_call]
    exact within

theorem Awaits.depth_within {job part : Job} (awaits : Awaits setting job part)
    (within : job.2.depth ≤ setting.limit) :
    job.2.depth ≤ part.2.depth ∧ part.2.depth ≤ setting.limit := by
  induction awaits with
  | refl => exact ⟨Nat.le_refl _, within⟩
  | tail _ spawns ih =>
    obtain ⟨lower, upper⟩ := ih
    exact ⟨Nat.le_trans lower spawns.depth_le, spawns.depth_within upper⟩

/-- A task that is entered is entered within the limit. -/
theorem Task.enter_within {t : Task} {s inner : State}
    (entered : t.enter setting.limit s = some inner) (within : s.depth ≤ setting.limit) :
    s.depth ≤ inner.depth ∧ inner.depth ≤ setting.limit := by
  cases t with
  | call f call =>
    obtain rfl := Option.some.inj entered
    exact ⟨Nat.le_refl _, within⟩
  | node n scope =>
    simp only [Task.enter] at entered
    split at entered
    · cases entered
    · next room =>
      obtain rfl := Option.some.inj entered
      exact ⟨Nat.le_succ s.depth, Nat.not_lt.mp room⟩

/-- During the evaluation of an entry the depth is never below that on entry, and never beyond the
limit. -/
theorem Entry.Counts.within {entry : Entry} {s : State} {depth : Nat}
    (counts : entry.Counts setting s depth) (within : s.depth ≤ setting.limit) :
    s.depth ≤ depth ∧ depth ≤ setting.limit := by
  obtain ⟨⟨t, inside⟩, ⟨first, asks, awaits⟩, read⟩ := counts
  have start : first.2.depth = s.depth := asks.depth
  obtain ⟨lower, upper⟩ := awaits.depth_within (start ▸ within)
  rw [start] at lower
  rcases read with rfl | ⟨inner, entered, rfl⟩
  · exact ⟨lower, upper⟩
  · obtain ⟨deeper, limited⟩ := Task.enter_within entered upper
    exact ⟨Nat.le_trans lower deeper, limited⟩

/-! ### Used again -/

/-- One use of an evaluator. Before it the host may do with the store what it likes. -/
structure Use where
  prepare : Store → Store
  fuel : Nat
  entry : Entry

/-- The answers of one evaluator to a sequence of uses, and its state in the end. -/
def runAll (setting : Setting) : List Use → State → List (Except Stop (List Value)) × State
  | [], s => ([], s)
  | use :: uses, s =>
    let (answer, after) := use.entry.run setting use.fuel { s with store := use.prepare s.store }
    let (answers, last) := runAll setting uses after
    (answer :: answers, last)

/-- The answers to a sequence of uses where each has a fresh evaluator, and the store in the end. -/
def runAfresh (setting : Setting) : List Use → Store → List (Except Stop (List Value)) × Store
  | [], st => ([], st)
  | use :: uses, st =>
    let (answer, after) := use.entry.run setting use.fuel { store := use.prepare st }
    let (answers, last) := runAfresh setting uses after.store
    (answer :: answers, last)

/-- An evaluator that has been used answers like a fresh one. -/
theorem runAll_eq_runAfresh (uses : List Use) (st : Store) :
    runAll setting uses { store := st } =
      ((runAfresh setting uses st).1, { store := (runAfresh setting uses st).2 }) := by
  induction uses generalizing st with
  | nil => rfl
  | cons use uses ih =>
    have restored : (use.entry.run setting use.fuel { store := use.prepare st }).2.depth = 0 :=
      use.entry.run_depth use.fuel _
    rw [runAll, runAfresh]
    cases outcome : use.entry.run setting use.fuel { store := use.prepare st } with
    | mk answer after =>
      -- nothing but the store is left behind
      have same : after = { store := after.store } := by
        rw [outcome] at restored
        cases after
        cases restored
        rfl
      dsimp only
      rw [same, ih]

/-- Whatever an evaluation ends in, at whatever nesting it failed, the depth is as before
afterwards, and never was beyond the limit in between; so every evaluation of a sequence on one
evaluator has the answer of a fresh one. -/
theorem evaluator_reusable (setting : Setting) :
    (∀ (entry : Entry) (fuel : Nat) (s : State),
      (entry.run setting fuel s).2.depth = s.depth ∧
      (s.depth ≤ setting.limit →
        ∀ depth, entry.Counts setting s depth → s.depth ≤ depth ∧ depth ≤ setting.limit)) ∧
    ∀ (uses : List Use) (st : Store),
      runAll setting uses { store := st } =
        ((runAfresh setting uses st).1, { store := (runAfresh setting uses st).2 }) := by
  refine ⟨?_, runAll_eq_runAfresh⟩
  intro entry fuel s
  refine ⟨entry.run_depth fuel s, ?_⟩
  intro within depth counts
  exact counts.within within

/-- An expression that fails at its second level counts to one, and the next expression on the same
evaluator has its value. -/
theorem evaluator_reusable_tooDeep :
    let setting : Setting := ⟨1, [], ⟨0, 0, 0⟩⟩
    let null : Node := .leaf ⟨"null", 1⟩ .null
    let deep : Entry := .expression (.call ⟨"(", 0⟩ [null]) ⟨0, []⟩
    let plain : Entry := .expression null ⟨0, []⟩
    (deep.Counts setting { store := {} } 1 ∧ 1 ≤ setting.limit) ∧
    (runAll setting [⟨id, 2, deep⟩, ⟨id, 1, plain⟩] { store := {} }).1 =
      [.error (.error (.tooDeep 1)), .ok [.null]] := by
  intro setting null deep plain
  have counts : deep.Counts setting { store := {} } 1 :=
    ⟨_, ⟨_, .here, .refl⟩, .inr ⟨_, rfl, rfl⟩⟩
  obtain ⟨kept, again⟩ := evaluator_reusable setting
  refine ⟨⟨counts, ((kept deep 2 _).2 (Nat.zero_le _) 1 counts).2⟩, ?_⟩
  rw [again]
  rfl

end Bracket.Evaluator
