import Bracket.Proofs.Evaluator.Fuel
import Mathlib.Logic.Relation
import Mathlib.Order.WellFounded

/-!
When evaluations end. A task waits for the tasks that it spawns, so it ends if and only if no chain
of tasks, each waiting for the next, goes on for ever. Main statement: since every expression counts
for the depth, such a chain is from some point on a tower of native functions alone, each calling
the next one directly.
-/

namespace Bracket.Evaluator

variable {α : Type} {setting : Setting}

/-- A task and the state that it is performed in. -/
abbrev Job := Task × State

/-- With enough fuel the job has an outcome. -/
def Finishes (setting : Setting) (job : Job) : Prop :=
  ∃ fuel, (perform setting fuel job.1 job.2).1 ≠ .error .outOfFuel

/-- Carrying out the plan comes to a job, when the parts before it have their values. -/
inductive Plan.Asks (setting : Setting) : Plan α → State → Job → Prop
  | here {t : Task} {next : Value → Plan α} {s : State} : Asks setting (.part t next) s (t, s)
  | behind {t : Task} {next : Value → Plan α} {s after : State} {v : Value} {fuel : Nat} {job : Job}
      (valued : perform setting fuel t s = (.ok v, after))
      (later : Asks setting (next v) after job) :
      Asks setting (.part t next) s job
  | reserve {count : Nat} {next : Nat → Plan α} {s : State} {job : Job}
      (later : Asks setting (next s.store.nextId)
        { s with store := (s.store.reserve count).2 } job) :
      Asks setting (.reserve count next) s job
  | nested {outer : Scope} {next : Scope → Plan α} {s : State} {job : Job}
      (later : Asks setting (next (s.store.newScope (some outer)).1)
        { s with store := (s.store.newScope (some outer)).2 } job) :
      Asks setting (.nested outer next) s job
  | assign {scope : Scope} {name : String} {v : Value} {next : Plan α} {s : State} {job : Job}
      (later : Asks setting next { s with store := s.store.assign scope name v } job) :
      Asks setting (.assign scope name v next) s job
  | lookup {scope : Scope} {name : String} {next : Option Value → Plan α} {s : State} {job : Job}
      (later : Asks setting (next (s.store.get? scope name)) s job) :
      Asks setting (.lookup scope name next) s job

/-- The first job waits for the second. -/
def Spawns (setting : Setting) (job part : Job) : Prop :=
  ∃ inner, job.1.enter setting.limit job.2 = some inner ∧
    (job.1.plan setting).Asks setting inner part

/-! ### A plan ends if and only if all that it comes to ends -/

/-- Where a plan has an outcome, all that it comes to has one. -/
theorem Plan.Asks.ends {plan : Plan α} {s : State} {job : Job} (asks : plan.Asks setting s job)
    {fuel : Nat} (ended : (plan.run (perform setting fuel) s).1 ≠ .error .outOfFuel) :
    (perform setting fuel job.1 job.2).1 ≠ .error .outOfFuel := by
  induction asks with
  | here => exact Plan.run_part_ne ended
  | @behind t next s after v fuel' job valued _ ih =>
    apply ih
    intro stopped
    apply ended
    -- the fuel does not run out in the part, so that it has its value with this fuel as well
    have first := Plan.run_part_ne ended
    have same := perform_unique first (by simp [valued] : (perform setting fuel' t s).1 ≠ _)
    rw [Plan.run, same, valued]
    exact stopped
  | reserve _ ih => exact ih ended
  | nested _ ih => exact ih ended
  | assign _ ih => exact ih ended
  | lookup _ ih => exact ih ended

/-- Behind a part that has its value, the plan goes on as if it started there. -/
theorem Plan.run_behind {t : Task} {next : Value → Plan α} {s after : State} {v : Value}
    {first second : Nat} (valued : perform setting first t s = (.ok v, after))
    (ended : ((next v).run (perform setting second) after).1 ≠ .error .outOfFuel) :
    (Plan.part t next).run (perform setting (max first second)) s =
      (next v).run (perform setting second) after := by
  have first_ended : (perform setting first t s).1 ≠ .error .outOfFuel := by simp [valued]
  have value := perform_mono (Nat.le_max_left first second) t s first_ended
  rw [Plan.run, value, valued]
  exact Plan.run_approximates (fun t => perform_mono (Nat.le_max_right first second) t) (next v)
    after ended

/-- Where all that a plan comes to has an outcome, the plan has one. -/
theorem Plan.ends_of_asks {plan : Plan α} {s : State}
    (ends : ∀ job, plan.Asks setting s job → Finishes setting job) :
    ∃ fuel, (plan.run (perform setting fuel) s).1 ≠ .error .outOfFuel := by
  induction plan generalizing s with
  | done a => exact ⟨0, by simp [Plan.run]⟩
  | fail e => exact ⟨0, by simp [Plan.run]⟩
  | part t next ih =>
    obtain ⟨first, ended⟩ := ends _ .here
    cases outcome : perform setting first t s with
    | mk result after =>
      cases result with
      | error stop =>
        refine ⟨first, ?_⟩
        rw [outcome] at ended
        simpa [Plan.run, outcome] using ended
      | ok v =>
        obtain ⟨second, rest⟩ := ih v fun job later => ends job (.behind outcome later)
        refine ⟨max first second, ?_⟩
        rw [Plan.run_behind outcome rest]
        exact rest
  | reserve count next ih => exact ih _ fun job later => ends job (.reserve later)
  | nested outer next ih => exact ih _ fun job later => ends job (.nested later)
  | assign scope name v next ih => exact ih fun job later => ends job (.assign later)
  | lookup scope name next ih => exact ih _ fun job later => ends job (.lookup later)

theorem Spawns.ends {job part : Job} (spawns : Spawns setting job part) {fuel : Nat}
    (ended : (perform setting (fuel + 1) job.1 job.2).1 ≠ .error .outOfFuel) :
    (perform setting fuel part.1 part.2).1 ≠ .error .outOfFuel := by
  obtain ⟨inner, entered, asks⟩ := spawns
  rw [perform_succ, entered] at ended
  exact asks.ends ended

theorem finishes_of_spawns {job : Job}
    (ends : ∀ part, Spawns setting job part → Finishes setting part) :
    Finishes setting job := by
  cases entered : job.1.enter setting.limit job.2 with
  | none =>
    refine ⟨1, ?_⟩
    rw [perform_succ, entered]
    simp
  | some inner =>
    obtain ⟨fuel, ended⟩ := Plan.ends_of_asks fun part asks => ends part ⟨inner, entered, asks⟩
    refine ⟨fuel + 1, ?_⟩
    rw [perform_succ, entered]
    exact ended

/-- A job has an outcome if and only if no chain of jobs that wait for each other is endless. -/
theorem finishes_iff_acc {job : Job} :
    Finishes setting job ↔ Acc (fun part job => Spawns setting job part) job := by
  constructor
  · rintro ⟨fuel, ended⟩
    induction fuel generalizing job with
    | zero => exact absurd rfl ended
    | succ fuel ih => exact Acc.intro job fun part spawns => ih (spawns.ends ended)
  · intro accessible
    induction accessible with
    | intro job _ ih => exact finishes_of_spawns ih

/-! ### Only native code can go on for ever -/

/-- The depth is the same whenever a plan comes to a job. -/
theorem Plan.Asks.depth {plan : Plan α} {s : State} {job : Job} (asks : plan.Asks setting s job) :
    job.2.depth = s.depth := by
  induction asks with
  | here => rfl
  | @behind t next s after v fuel job valued _ ih =>
    have restored := perform_depth setting fuel t s
    rw [valued] at restored
    exact ih.trans restored
  | reserve _ ih | nested _ ih | assign _ ih | lookup _ ih => exact ih

/-- What an expression waits for is one level deeper, within the limit. -/
theorem Spawns.depth_node {n : Node} {scope : Scope} {s : State} {part : Job}
    (spawns : Spawns setting (.node n scope, s) part) :
    part.2.depth = s.depth + 1 ∧ part.2.depth ≤ setting.limit := by
  obtain ⟨inner, entered, asks⟩ := spawns
  have depth := asks.depth
  simp only [Task.enter] at entered
  split at entered
  · cases entered
  · next room =>
    obtain rfl := Option.some.inj entered
    exact ⟨depth, by rw [depth]; exact Nat.not_lt.mp room⟩

/-- What a call waits for is at the depth of the call. -/
theorem Spawns.depth_call {f : Value} {call : Call} {s : State} {part : Job}
    (spawns : Spawns setting (.call f call, s) part) : part.2.depth = s.depth := by
  obtain ⟨inner, entered, asks⟩ := spawns
  obtain rfl := Option.some.inj entered
  exact asks.depth

theorem Spawns.depth_le {job part : Job} (spawns : Spawns setting job part) :
    job.2.depth ≤ part.2.depth := by
  obtain ⟨t, s⟩ := job
  cases t with
  | node n scope =>
    have deeper := spawns.depth_node.1
    exact Nat.le_of_lt (deeper ▸ Nat.lt_succ_self s.depth)
  | call f call => exact Nat.le_of_eq spawns.depth_call.symm

/-- The task is a call. -/
def Task.isCall : Task → Bool
  | .call .. => true
  | .node .. => false

theorem depth_chain {chain : Nat → Job} (linked : ∀ i, Spawns setting (chain i) (chain (i + 1)))
    (start i : Nat) : (chain start).2.depth ≤ (chain (start + i)).2.depth := by
  induction i with
  | zero => exact Nat.le_refl _
  | succ i ih => exact Nat.le_trans ih (linked (start + i)).depth_le

/-- From some point on, an endless chain of jobs that wait for each other has only calls. -/
theorem calls_eventually {chain : Nat → Job}
    (linked : ∀ i, Spawns setting (chain i) (chain (i + 1))) (start : Nat) :
    ∃ first, ∀ i, (chain (first + i)).1.isCall = true := by
  -- every expression of the chain uses up one of the levels that are left
  induction room : setting.limit - (chain start).2.depth using Nat.strong_induction_on
    generalizing start with
  | _ room ih =>
    by_cases calls : ∀ i, (chain (start + i)).1.isCall = true
    · exact ⟨start, calls⟩
    · push Not at calls
      obtain ⟨i, expression⟩ := calls
      have earlier := depth_chain linked start i
      have deeper := linked (start + i)
      cases job : chain (start + i) with
      | mk t s =>
        rw [job] at expression earlier deeper
        cases t with
        | call f call => exact absurd rfl expression
        | node n scope =>
          obtain ⟨depth, within⟩ := deeper.depth_node
          exact ih _ (by simp only at earlier; omega) (start + i + 1) rfl

end Bracket.Evaluator

namespace Bracket

variable {α β : Type}

/-- A question that does not call a function. -/
def Request.IsQuiet : Request → Prop
  | .invoke _ _ => False
  | _ => True

namespace Routine

/-- No question of the routine calls a function. -/
def IsQuiet : Routine α → Prop
  | .done _ => True
  | .fail _ => True
  | .ask request next => request.IsQuiet ∧ ∀ a, IsQuiet (next a)

theorem IsQuiet.bind {r : Routine α} {f : α → Routine β} (first : r.IsQuiet)
    (rest : ∀ a, (f a).IsQuiet) : (r >>= f).IsQuiet := by
  induction r with
  | done a => exact rest a
  | fail e => trivial
  | ask request next ih => exact ⟨first.1, fun a => ih a (first.2 a)⟩

theorem argumentOrUndefined_isQuiet (call : Call) (position : Nat) :
    (argumentOrUndefined call position).IsQuiet := by
  unfold argumentOrUndefined
  split
  · exact ⟨trivial, fun _ => trivial⟩
  · trivial

end Routine

theorem bindParameters_isQuiet (call : Call) (scope : Scope) (position : Nat)
    (params : List String) : (bindParameters call scope position params).IsQuiet := by
  induction params generalizing position with
  | nil => trivial
  | cons param params ih =>
    refine (Routine.argumentOrUndefined_isQuiet call position).bind fun v => ?_
    exact ⟨trivial, fun _ => ih (position + 1)⟩

/-- A closure evaluates its arguments and its body, and calls nothing itself. -/
theorem applyClosure_isQuiet (params : List String) (body : Option Node) (env : Scope)
    (call : Call) : (applyClosure params body env call).IsQuiet := by
  refine ⟨trivial, fun scope => (bindParameters_isQuiet call scope 0 params).bind fun _ => ?_⟩
  cases body with
  | none => trivial
  | some node => exact ⟨trivial, fun _ => trivial⟩

end Bracket

namespace Bracket.Evaluator

variable {α : Type} {setting : Setting}

theorem Plan.Asks.isCall_of_isQuiet {call : Call} {r : Routine α} {s : State} {job : Job}
    (quiet : r.IsQuiet) (asks : (Plan.ofRoutine setting call r).Asks setting s job) :
    job.1.isCall = false := by
  induction r generalizing s with
  | done a => cases asks
  | fail e => cases asks
  | ask request next ih =>
    cases request with
    | argument position =>
      rw [Plan.ofRoutine] at asks
      split at asks
      · cases asks with
        | here => rfl
        | behind _ later => exact ih _ (quiet.2 _) later
      · exact ih _ (quiet.2 _) asks
      · exact ih _ (quiet.2 _) asks
    | invoke f values => exact absurd quiet.1 id
    | evaluate node scope =>
      cases asks with
      | here => rfl
      | behind _ later => exact ih _ (quiet.2 _) later
    | reserve count =>
      cases asks with
      | reserve later => exact ih _ (quiet.2 _) later
    | now => exact ih _ (quiet.2 _) asks
    | nested outer =>
      cases asks with
      | nested later => exact ih _ (quiet.2 _) later
    | assign scope name v =>
      cases asks with
      | assign later => exact ih _ (quiet.2 _) later
    | lookup scope name =>
      cases asks with
      | lookup later => exact ih _ (quiet.2 _) later

/-- The task calls native code. -/
def Task.IsNative (t : Task) : Prop :=
  ∃ id name code properties call, t = .call (.function id (.native name code properties)) call

/-- A call that waits for a call is a call of native code. -/
theorem Spawns.isNative {job part : Job} (spawns : Spawns setting job part)
    (call : job.1.isCall = true) (call' : part.1.isCall = true) : job.1.IsNative := by
  obtain ⟨t, s⟩ := job
  obtain ⟨inner, -, asks⟩ := spawns
  cases t with
  | node n scope => cases call
  | call f made =>
    cases f with
    | function id procedure =>
      cases procedure with
      | native name code properties => exact ⟨id, name, code, properties, made, rfl⟩
      | closure params body env =>
        have quiet : (Procedure.routine setting.hosts (.function id (.closure params body env))
            (.closure params body env) made).IsQuiet := by
          rw [Procedure.routine]
          split
          · trivial
          · exact applyClosure_isQuiet params body env made
        rw [asks.isCall_of_isQuiet quiet] at call'
        cases call'
    | _ => cases asks

/-- An endless tower of native functions, each waiting for the next one that it calls. -/
def IsTower (setting : Setting) (tower : Nat → Job) : Prop :=
  ∀ i, (tower i).1.IsNative ∧ Spawns setting (tower i) (tower (i + 1))

/-- A job waits for another one, directly or through others. -/
def Awaits (setting : Setting) : Job → Job → Prop := Relation.ReflTransGen (Spawns setting)

theorem awaits_chain {chain : Nat → Job} (linked : ∀ i, Spawns setting (chain i) (chain (i + 1)))
    (i : Nat) : Awaits setting (chain 0) (chain i) := by
  induction i with
  | zero => exact .refl
  | succ i ih => exact ih.tail (linked i)

theorem Awaits.finishes {job part : Job} (awaits : Awaits setting job part)
    (ends : Finishes setting job) : Finishes setting part := by
  induction awaits with
  | refl => exact ends
  | tail _ spawns ih => exact finishes_iff_acc.mpr ((finishes_iff_acc.mp ih).inv spawns)

/-- A job has no outcome if and only if it comes to an endless tower of native functions. -/
theorem not_finishes_iff_tower {job : Job} :
    ¬ Finishes setting job ↔ ∃ tower, IsTower setting tower ∧ Awaits setting job (tower 0) := by
  constructor
  · intro endless
    rw [finishes_iff_acc, not_acc_iff_exists_descending_chain] at endless
    obtain ⟨chain, rfl, linked⟩ := endless
    obtain ⟨first, calls⟩ := calls_eventually linked 0
    refine ⟨fun i => chain (first + i), fun i => ?_, awaits_chain linked first⟩
    exact ⟨(linked (first + i)).isNative (calls i) (calls (i + 1)), linked (first + i)⟩
  · rintro ⟨tower, native, awaits⟩ ends
    have accessible := finishes_iff_acc.mp (awaits.finishes ends)
    refine not_acc_iff_exists_descending_chain.mpr ?_ accessible
    exact ⟨tower, rfl, fun i => (native i).2⟩

/-! ### Errors pass through everything that waits for them -/

/-- A plan ends in the error that something it comes to ends in. -/
theorem Plan.Asks.fails {plan : Plan α} {s : State} {job : Job} (asks : plan.Asks setting s job)
    {fuel : Nat} {e : Error} (failed : (perform setting fuel job.1 job.2).1 = .error (.error e)) :
    ∃ enough, (plan.run (perform setting enough) s).1 = .error (.error e) := by
  induction asks with
  | here =>
    refine ⟨fuel, ?_⟩
    rw [Plan.run]
    split
    · next same => simp [same] at failed
    · next same => simpa [same] using failed
  | @behind t next s after v first job valued _ ih =>
    obtain ⟨second, rest⟩ := ih failed
    refine ⟨max first second, ?_⟩
    rw [Plan.run_behind valued (by simp [rest])]
    exact rest
  | reserve _ ih | nested _ ih | assign _ ih | lookup _ ih => exact ih failed

/-- A job ends in the error that a job it waits for ends in. -/
theorem Awaits.fails {job part : Job} (awaits : Awaits setting job part) {fuel : Nat} {e : Error}
    (failed : (perform setting fuel part.1 part.2).1 = .error (.error e)) :
    ∃ enough, (perform setting enough job.1 job.2).1 = .error (.error e) := by
  induction awaits generalizing fuel with
  | refl => exact ⟨fuel, failed⟩
  | tail _ spawns ih =>
    obtain ⟨inner, entered, asks⟩ := spawns
    obtain ⟨enough, failed⟩ := asks.fails failed
    refine ih (?_ : (perform setting (enough + 1) _ _).1 = _)
    rw [perform_succ, entered]
    exact failed

/-- An expression beyond the limit is too deep. -/
theorem perform_tooDeep {n : Node} {scope : Scope} {s : State} (deep : setting.limit ≤ s.depth) :
    (perform setting 1 (.node n scope) s).1 = .error (.error (.tooDeep setting.limit)) := by
  rw [perform_succ, Task.enter, if_pos (Nat.lt_succ_of_le deep)]

end Bracket.Evaluator
