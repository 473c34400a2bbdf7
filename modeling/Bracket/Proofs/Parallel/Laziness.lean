import Bracket.Proofs.Parallel.Presence
import Bracket.Proofs.Parallel.Simulation

/-!
Expressions as arguments, and their values. A function that is called on expressions evaluates them
when it comes to it, in between whatever else it does, and some of them never; called on values it
finds all of them evaluated. What an expression makes has other numbers and other levels then, but
it belongs to what was made beforehand, and the two are put together when the expression is
evaluated at last.
Main statement: a call on expressions and the call on their values have alike outcomes.
-/

namespace Bracket

/-! ### Likenesses that are put together -/

namespace Likeness

variable {C D : Likeness}

/-- What belongs together under either of two likenesses that do not get in each other's way. -/
def union (C D : Likeness)
    (apart : ∀ {i i' j j' : Nat}, C.ids i i' → D.ids j j' → (i = j ↔ i' = j')) : Likeness where
  ids i i' := C.ids i i' ∨ D.ids i i'
  closures body scope body' scope' :=
    C.closures body scope body' scope' ∨ D.closures body scope body' scope'
  ids_iff := by
    rintro i i' j j' (left | right) (left' | right')
    · exact C.ids_iff left left'
    · exact apart left right'
    · rw [eq_comm, apart left' right, eq_comm]
    · exact D.ids_iff right right'
  text_eq := by
    rintro body body' scope scope' (left | right)
    · exact C.text_eq left
    · exact D.text_eq right

theorem le_union_left (apart : ∀ {i i' j j' : Nat}, C.ids i i' → D.ids j j' → (i = j ↔ i' = j')) :
    C ≤ C.union D apart :=
  ⟨fun _ _ => .inl, fun _ _ _ _ => .inl⟩

theorem le_union_right (apart : ∀ {i i' j j' : Nat}, C.ids i i' → D.ids j j' → (i = j ↔ i' = j')) :
    D ≤ C.union D apart :=
  ⟨fun _ _ => .inr, fun _ _ _ _ => .inr⟩

end Likeness

namespace Evaluator

/-! ### Expressions that are evaluated beforehand -/

/-- Evaluation takes numbers and makes levels, and gives none back. -/
theorem perform_grown (setting : Setting) (fuel : Nat) (t : Task) (s : State) :
    s.store.Grown (perform setting fuel t s).2.store := by
  induction fuel generalizing t s with
  | zero => exact .refl _
  | succ fuel ih =>
    have planned (inner : State) :
        inner.store.Grown ((t.plan setting).run (perform setting fuel) inner).2.store :=
      Plan.run_keeps (R := fun s after => s.store.Grown after.store) (fun s => .refl s.store)
        .trans ih (fun _ count => .reserve count) (fun _ outer => .newScope (some outer))
        (fun _ scope name v => .assign scope name v) (t.plan setting) inner
    rw [perform_succ]
    cases t with
    | call f call => exact planned s
    | node n scope =>
      rw [Task.enter]
      by_cases deep : setting.limit < s.depth + 1
      · rw [if_pos deep]
        exact .refl _
      · rw [if_neg deep]
        exact planned { s with depth := s.depth + 1 }

variable {setting : Setting} {fuel : Nat} {scope : Scope} {nodes : List Node} {values : List Value}
  {stage : Nat → State}

/-- The states between the expressions when they are evaluated in order. -/
structure Stages (setting : Setting) (fuel : Nat) (scope : Scope) (nodes : List Node)
    (values : List Value) (stage : Nat → State) : Prop where
  size : values.length = nodes.length
  step : ∀ {p : Nat} {n : Node}, nodes[p]? = some n → ∃ v, values[p]? = some v ∧
    perform setting fuel (.node n scope) (stage p) = (.ok v, stage (p + 1))
  rest : ∀ {p : Nat}, nodes[p]? = none → stage (p + 1) = stage p

/-- Expressions that all have values have them stage by stage. -/
theorem exists_stages {s after : State}
    (evaluated : evaluateAll setting fuel scope nodes s = (.ok values, after)) :
    ∃ stage, Stages setting fuel scope nodes values stage ∧ stage 0 = s ∧
      stage nodes.length = after := by
  induction nodes generalizing s values with
  | nil =>
    obtain ⟨⟨⟩, rfl⟩ := Prod.mk.inj evaluated
    exact ⟨fun _ => s, ⟨rfl, nofun, fun _ => rfl⟩, rfl, rfl⟩
  | cons n rest ih =>
    rw [evaluateAll, bind_apply] at evaluated
    cases first : perform setting fuel (.node n scope) s with
    | mk result mid =>
      rw [first] at evaluated
      cases result with
      | error stop => cases evaluated
      | ok v =>
        dsimp only at evaluated
        rw [bind_apply] at evaluated
        cases others : evaluateAll setting fuel scope rest mid with
        | mk result last =>
          rw [others] at evaluated
          cases result with
          | error stop => cases evaluated
          | ok vs =>
            obtain ⟨⟨⟩, rfl⟩ := Prod.mk.inj evaluated
            obtain ⟨stage, stages, rfl, rfl⟩ := ih others
            refine ⟨fun p => p.casesOn s stage, ⟨?_, ?_, ?_⟩, rfl, rfl⟩
            · exact congrArg (· + 1) stages.size
            · rintro (_ | p) m found
              · obtain rfl := Option.some.inj found
                exact ⟨v, rfl, first⟩
              · exact stages.step found
            · rintro (_ | p) missing
              · cases missing
              · exact stages.rest missing

/-- Values that expressions have with some fuel they have with more. -/
theorem evaluateAll_mono {less : Nat} (le : less ≤ fuel) {s after : State}
    (evaluated : evaluateAll setting less scope nodes s = (.ok values, after)) :
    evaluateAll setting fuel scope nodes s = (.ok values, after) := by
  rw [← Plan.run_ofNodes_done] at evaluated ⊢
  rw [← evaluated]
  refine Plan.run_approximates (fun t => perform_mono le t) _ s ?_
  rw [evaluated]
  exact nofun

namespace Stages

/-- What evaluation keeps is kept from stage to stage. -/
theorem mono (stages : Stages setting fuel scope nodes values stage) {R : State → State → Prop}
    (refl : ∀ s, R s s) (trans : ∀ {a b c}, R a b → R b c → R a c)
    (part : ∀ t s, R s (perform setting fuel t s).2) {p q : Nat} (le : p ≤ q) :
    R (stage p) (stage q) := by
  induction le with
  | refl => exact refl _
  | @step q le ih =>
    refine trans ih ?_
    cases found : nodes[q]? with
    | none =>
      rw [stages.rest found]
      exact refl _
    | some n =>
      obtain ⟨v, -, evaluated⟩ := stages.step found
      have kept := part (.node n scope) (stage q)
      rwa [evaluated] at kept

theorem grown (stages : Stages setting fuel scope nodes values stage) {p q : Nat} (le : p ≤ q) :
    (stage p).store.Grown (stage q).store :=
  stages.mono (R := fun s after => s.store.Grown after.store) (fun s => .refl s.store) .trans
    (perform_grown setting fuel) le

theorem depth (stages : Stages setting fuel scope nodes values stage) (p : Nat) :
    (stage p).depth = (stage 0).depth :=
  stages.mono (R := fun s after => after.depth = s.depth) (fun _ => rfl)
    (fun first second => second.trans first) (perform_depth setting fuel) (Nat.zero_le p)

theorem keeps {limit : Nat} {now : Date}
    (stages : Stages (.standard limit now) fuel scope nodes values stage) {p q : Nat}
    (le : p ≤ q) : (stage p).store.Keeps (stage p).store.levels.size (stage q).store := by
  refine stages.mono (R := fun s after => s.store.Keeps s.store.levels.size after.store)
    (fun s => .refl _ s.store) ?_ ?_ le
  · intro a b c first second
    refine ⟨Nat.le_trans first.size_le second.size_le, fun l low => ?_⟩
    rw [second.locals l (Nat.lt_of_lt_of_le low first.size_le), first.locals l low]
  · exact fun t s => perform_keeps limit now fuel t s (Nat.le_refl _)

end Stages

end Evaluator

namespace Parallel

open Evaluator
open Lexical (Spares Agree)

variable {C D : Likeness} {F : Frame} {s s' : State} {limit fuel lower p : Nat} {now : Date}
  {scope : Scope} {nodes : List Node} {values : List Value} {stage : Nat → State}

/-! ### Both sides of the call -/

/-- Where one side is to evaluate the expressions from the first stage on, and the other begins at
the last stage: what was there at first is kept on both sides, the numbers that belong together are
taken, and those of the stages to come are free. -/
structure Ahead (stage : Nat → State) (count : Nat) (F : Frame) (lower : Nat) (C : Likeness)
    (s s' : State) : Prop where
  base : .present (stage 0).store ≤ C
  apart : ¬F.aligned
  shown : ∀ l ∈ F.hidden, (stage 0).store.levels.size ≤ l
  shown' : ∀ l ∈ F.hidden', (stage count).store.levels.size ≤ l
  keeps : (stage 0).store.Keeps (stage 0).store.levels.size s.store
  keeps' : (stage count).store.Keeps (stage count).store.levels.size s'.store
  next_le : (stage 0).store.nextId ≤ s.store.nextId
  next_le' : (stage count).store.nextId ≤ s'.store.nextId
  depth : s.depth = (stage 0).depth
  taken : ∀ {i i' : Nat}, C.ids i i' → i < s.store.nextId ∧ i' < s'.store.nextId ∧
    (i' < (stage lower).store.nextId ∨ (stage count).store.nextId ≤ i')

/-- What is kept stays so as long as the levels that are written are later ones. -/
theorem keeps_of_spares {base st st' : Store} {hidden : Set Nat}
    (keeps : base.Keeps base.levels.size st) (spares : Spares hidden st st')
    (shown : ∀ l ∈ hidden, base.levels.size ≤ l) : base.Keeps base.levels.size st' where
  size_le := Nat.le_trans keeps.size_le spares.size_le
  locals l low := by
    have outside : l ∉ hidden := by
      intro inside
      have late := shown l inside
      omega
    rw [spares.locals l (Nat.lt_of_lt_of_le low keeps.size_le) outside, keeps.locals l low]

/-- The second side is at a stage that is past: nothing is hidden there. -/
def Frame.past (F : Frame) : Frame := { hidden := F.hidden, aligned := False }

/-- What was there at first stands for the same wherever it is kept. -/
theorem anchored_of_sound {base st st' : Store} (sound : base.Sound)
    (keeps : base.Keeps base.levels.size st) (keeps' : base.Keeps base.levels.size st')
    (shown : ∀ l ∈ F.hidden, base.levels.size ≤ l)
    (shown' : ∀ l ∈ F.hidden', base.levels.size ≤ l) (below : scope.Below base.levels.size)
    {leaves : List (Mark × Literal)}
    (keywords : ∀ mark v, (mark, Literal.keyword v) ∈ leaves → v.Present base) :
    Anchored F (.present base) st st' scope scope leaves :=
  .own keeps keeps' shown shown' below (fun _ _ found => (sound.get? found).like)
    fun mark v member => (keywords mark v member).like

/-- Two states that keep what was there at first are paired as far as that goes. -/
theorem sim_of_sound {base : Store} (sound : base.Sound) (apart : ¬F.aligned)
    (keeps : base.Keeps base.levels.size s.store) (keeps' : base.Keeps base.levels.size s'.store)
    (next_le : base.nextId ≤ s.store.nextId) (next_le' : base.nextId ≤ s'.store.nextId)
    (shown : ∀ l ∈ F.hidden, base.levels.size ≤ l ∧ l < s.store.levels.size)
    (shown' : ∀ l ∈ F.hidden', base.levels.size ≤ l ∧ l < s'.store.levels.size)
    (depth : s'.depth = s.depth) : Sim F (.present base) s s' where
  depth := depth
  sizes together := absurd together apart
  hidden_lt l inside := (shown l inside).2
  hidden_lt' l inside := (shown' l inside).2
  fits := by
    rintro i _ ⟨rfl, taken⟩
    exact .inl ⟨Nat.lt_of_lt_of_le taken next_le, Nat.lt_of_lt_of_le taken next_le'⟩
  body same := same.1
  anchored := by
    rintro body _ scope _ ⟨rfl, rfl, below, keywords⟩
    exact anchored_of_sound sound keeps keeps' (fun l inside => (shown l inside).1)
      (fun l inside => (shown' l inside).1) below keywords

/-- What belongs together under two likenesses is paired if it is under each of them. -/
theorem Sim.union (sim : Sim F C s s') (fits : D.Fits s.store.nextId s'.store.nextId)
    (body : ∀ {body body' : Option Node} {scope scope' : Scope},
      D.closures body scope body' scope' → body' = body)
    (anchored : ∀ {body body' : Option Node} {scope scope' : Scope},
      D.closures body scope body' scope' →
      Anchored F D s.store s'.store scope scope' (bodyLeaves body))
    (apart : ∀ {i i' j j' : Nat}, C.ids i i' → D.ids j j' → (i = j ↔ i' = j')) :
    Sim F (C.union D apart) s s' where
  depth := sim.depth
  sizes := sim.sizes
  hidden_lt := sim.hidden_lt
  hidden_lt' := sim.hidden_lt'
  fits := by
    rintro i i' (old | new)
    · exact sim.fits old
    · exact fits new
  body := by
    rintro b b' scope scope' (old | new)
    · exact sim.body old
    · exact body new
  anchored := by
    have spares (st : Store) (hidden : Set Nat) : Spares hidden st st := .of_keeps (.refl _ st)
    rintro b b' scope scope' (old | new)
    · exact (sim.anchored old).later (Likeness.le_union_left apart) (spares _ _) (spares _ _)
    · exact (anchored new).later (Likeness.le_union_right apart) (spares _ _) (spares _ _)

namespace Ahead

variable {count : Nat}

/-- Positions that were passed are not asked for any more. -/
theorem advance (stages : Stages (.standard limit now) fuel scope nodes values stage)
    (ahead : Ahead stage count F lower C s s') (le : lower ≤ p) : Ahead stage count F p C s s' :=
  { ahead with
    taken := by
      intro i i' pair
      obtain ⟨low, low', early | late⟩ := ahead.taken pair
      · exact ⟨low, low', .inl (Nat.lt_of_lt_of_le early (stages.grown le).next_le)⟩
      · exact ⟨low, low', .inr late⟩ }

/-- Whatever else the call does takes new numbers, and leaves alone what was there. -/
theorem later {after after' : State} (ahead : Ahead stage count F lower C s s')
    (later : Later F C s s' D after after') : Ahead stage count F lower D after after' where
  base := Likeness.le_trans ahead.base later.grows.le
  apart := ahead.apart
  shown := ahead.shown
  shown' := ahead.shown'
  keeps := keeps_of_spares ahead.keeps later.spares ahead.shown
  keeps' := keeps_of_spares ahead.keeps' later.spares' ahead.shown'
  next_le := Nat.le_trans ahead.next_le later.grows.next_le
  next_le' := Nat.le_trans ahead.next_le' later.grows.next_le'
  depth := later.depth.trans ahead.depth
  taken := by
    intro i i' pair
    have next_le := later.grows.next_le
    have next_le' := later.grows.next_le'
    rcases later.grows.fresh pair with old | ⟨new, new'⟩
    · have known := ahead.taken old
      omega
    · have begun := ahead.next_le'
      omega

/-- The first side may go on alone. -/
theorem onward {after : State} (ahead : Ahead stage count F lower C s s') (sim : Sim F C s s')
    (later : Later F C s s' C after s') : Sim F C after s' where
  depth := sim.depth.trans later.depth.symm
  sizes together := absurd together ahead.apart
  hidden_lt l inside := Nat.lt_of_lt_of_le (sim.hidden_lt l inside) later.spares.size_le
  hidden_lt' := sim.hidden_lt'
  fits pair := by
    have taken := (ahead.later later).taken pair
    exact .inl ⟨taken.1, taken.2.1⟩
  body := sim.body
  anchored same := (sim.anchored same).later (Likeness.le_refl C) later.spares later.spares'

theorem hide (ahead : Ahead stage count F lower C s s') (outer outer' : Option Scope) :
    Ahead stage count (F.hide s.store.levels.size s'.store.levels.size) lower C
      { s with store := (s.store.newScope outer).2 }
      { s' with store := (s'.store.newScope outer').2 } where
  base := ahead.base
  apart := ahead.apart
  shown := by
    rintro l (rfl | inside)
    · exact ahead.keeps.size_le
    · exact ahead.shown l inside
  shown' := by
    rintro l (rfl | inside)
    · exact ahead.keeps'.size_le
    · exact ahead.shown' l inside
  keeps := ahead.keeps.trans (.newScope ahead.keeps.size_le outer)
  keeps' := ahead.keeps'.trans (.newScope ahead.keeps'.size_le outer')
  next_le := ahead.next_le
  next_le' := ahead.next_le'
  depth := ahead.depth
  taken := ahead.taken

theorem reveal {level level' : Nat}
    (ahead : Ahead stage count (F.hide level level') lower C s s') :
    Ahead stage count F lower C s s' :=
  { ahead with
    shown := fun l inside => ahead.shown l (Set.mem_insert_of_mem level inside)
    shown' := fun l inside => ahead.shown' l (Set.mem_insert_of_mem level' inside) }

/-- What the expression made beforehand stands for the same later on. -/
theorem carry (stages : Stages (.standard limit now) fuel scope nodes values stage)
    (ahead : Ahead stage count F lower C s s') (le : p ≤ count) {st : Store}
    {left right : Scope} {leaves : List (Mark × Literal)}
    (anchored : Anchored F.past D st (stage p).store left right leaves) :
    Anchored F D st s'.store left right leaves := by
  have kept := stages.keeps le
  have low (l : Nat) (member : l ∈ right.level :: right.outer) :
      l < (stage count).store.levels.size :=
    Nat.lt_of_lt_of_le (anchored.settled' l member).1 kept.size_le
  refine ⟨anchored.settled, fun l member => ⟨?_, fun inside => ?_⟩,
    fun together => absurd together ahead.apart, ?_, anchored.keywords⟩
  · exact Nat.lt_of_lt_of_le (low l member) ahead.keeps'.size_le
  · exact Nat.not_lt_of_le (ahead.shown' l inside) (low l member)
  · refine anchored.finds.congr (fun _ _ => rfl) fun l member => ?_
    rw [ahead.keeps'.locals l (low l member), kept.locals l (anchored.settled' l member).1]

/-- What the expression makes on one side is put together with what it made beforehand. -/
theorem join (stages : Stages (.standard limit now) fuel scope nodes values stage)
    (sim : Sim F C s s') (ahead : Ahead stage count F lower C s s') (le : lower ≤ p)
    (within : p < count) {after : State} (sim' : Sim F.past D after (stage (p + 1)))
    (later : Later F.past (.present (stage 0).store) s (stage p) D after (stage (p + 1))) :
    ∃ E, C ≤ E ∧ D ≤ E ∧ Sim F E after s' ∧ Ahead stage count F (p + 1) E after s' := by
  have begun := (stages.grown (Nat.zero_le (p + 1))).next_le
  have passed := (stages.grown le).next_le
  have ended : (stage (p + 1)).store.nextId ≤ (stage count).store.nextId :=
    (stages.grown within).next_le
  have grown := later.grows.next_le
  have first := ahead.next_le
  have last := ahead.next_le'
  have apart : ∀ {i i' j j' : Nat}, C.ids i i' → D.ids j j' → (i = j ↔ i' = j') := by
    intro i i' j j' old pair
    rcases later.grows.fresh pair with known | new
    · exact C.ids_iff old (ahead.base.1 j j' known)
    · have taken := ahead.taken old
      omega
  -- what belongs together since the expression was evaluated has a number of that stage
  have made {i i' : Nat} (pair : D.ids i i') :
      i < after.store.nextId ∧ i' < (stage (p + 1)).store.nextId := by
    rcases later.grows.fresh pair with ⟨rfl, low⟩ | new
    · omega
    · omega
  have moved : Later F C s s' C after s' :=
    ⟨⟨Likeness.le_refl C, grown, Nat.le_refl _, .inl⟩, later.spares,
      .of_keeps (.refl _ s'.store), later.depth⟩
  have known : Ahead stage count F (p + 1) C after s' :=
    (ahead.later moved).advance stages (Nat.le_succ_of_le le)
  have fits : D.Fits after.store.nextId s'.store.nextId := by
    intro i i' pair
    have taken := made pair
    exact .inl (by omega)
  have left : C ≤ C.union D apart := Likeness.le_union_left apart
  refine ⟨C.union D apart, left, Likeness.le_union_right apart, ?_, ?_⟩
  · refine (ahead.onward sim moved).union fits sim'.body (fun new => ?_) apart
    exact ahead.carry stages within (sim'.anchored new)
  · refine { known with base := Likeness.le_trans ahead.base left, taken := ?_ }
    rintro i i' (old | new)
    · exact known.taken old
    · have taken := made new
      omega

/-- An expression that is evaluated at last has a value alike to the one that it had beforehand. -/
theorem argument (stages : Stages (.standard limit now) fuel scope nodes values stage)
    (sound : (stage 0).store.Sound) {n : Node} (present : n.Present (stage 0).store)
    (below : scope.Below (stage 0).store.levels.size) (sim : Sim F C s s')
    (ahead : Ahead stage count F lower C s s') (le : lower ≤ p) (within : p < count) {v : Value}
    (evaluated : perform (.standard limit now) fuel (.node n scope) (stage p) =
      (.ok v, stage (p + 1))) :
    Follows F C
      (fun D after after' a b => a.Like D b ∧ Ahead stage count F (p + 1) D after after')
      (perform (.standard limit now) fuel (.node n scope) s) (.ok v, s') := by
  have simulated : Simulated limit now fuel := perform_simulated limit now fuel
  have kept := stages.keeps (Nat.zero_le p)
  have anchored : Anchored F.past (.present (stage 0).store) s.store (stage p).store scope scope
      n.leaves :=
    anchored_of_sound (F := F.past) sound ahead.keeps kept ahead.shown
      (fun l inside => absurd inside (Set.notMem_empty l)) below present
  have begun : Sim F.past (.present (stage 0).store) s (stage p) :=
    sim_of_sound sound id ahead.keeps kept ahead.next_le (stages.grown (Nat.zero_le p)).next_le
      (fun l inside => ⟨ahead.shown l inside, sim.hidden_lt l inside⟩)
      (fun l inside => absurd inside (Set.notMem_empty l))
      ((stages.depth p).trans ahead.depth.symm)
  obtain ⟨D, -, sim', agree⟩ := simulated.part begun (.node anchored)
  rw [evaluated] at sim' agree
  revert sim' agree
  generalize perform (.standard limit now) fuel (.node n scope) s = outcome
  obtain ⟨result, after⟩ := outcome
  intro sim' agree
  cases agree with
  | ok related =>
    obtain ⟨E, left, right, joined, ahead'⟩ :=
      ahead.join stages sim le within sim' related.2
    exact ⟨E, left, joined, .ok ⟨related.1.mono right, ahead'⟩⟩

end Ahead

/-- A call on expressions is served like the call on their values. -/
theorem Stages.serves (stages : Stages (.standard limit now) fuel scope nodes values stage)
    (sound : (stage 0).store.Sound) (present : ∀ n ∈ nodes, n.Present (stage 0).store)
    (below : scope.Below (stage 0).store.levels.size) (callee : Option Node) :
    Serves limit now fuel ⟨scope, nodes.map .node, callee⟩ ⟨scope, values.map .value, callee⟩
      (Ahead stage nodes.length) where
  size := by simp only [Call.size, List.length_map, stages.size]
  callee := rfl
  later ahead later := ahead.later later
  hide outer outer' ahead := ahead.hide outer outer'
  reveal ahead := ahead.reveal
  argument := by
    intro F lower C s s' position sim ahead le
    simp only [answer, List.getElem?_map]
    cases found : nodes[position]? with
    | none =>
      have missing : values[position]? = none := by
        rw [List.getElem?_eq_none_iff, stages.size]
        exact List.getElem?_eq_none_iff.mp found
      rw [missing]
      exact .ok sim ⟨.undefined, ahead.advance stages (Nat.le_succ_of_le le)⟩
    | some n =>
      obtain ⟨v, value, evaluated⟩ := stages.step found
      have within : position < nodes.length := (List.getElem?_eq_some_iff.mp found).1
      rw [value]
      exact ahead.argument stages sound (present n (List.mem_of_getElem? found)) below sim le
        within evaluated

/-! ### Calls on expressions and on values -/

/-- Calls a function on expressions, which it evaluates in the scope when it asks for them. -/
def callOn (setting : Setting) (fuel : Nat) (f : Value) (scope : Scope) (nodes : List Node)
    (callee : Option Node) : Eval Value :=
  perform setting fuel (.call f ⟨scope, nodes.map .node, callee⟩)

/-- What belongs together in two stores that came of `st`: whatever was there belongs to itself,
and closures have the same body, whose names have captured what belongs together. -/
structure Corresponds (st : Store) (C : Likeness) (after after' : Store) : Prop where
  same : .present st ≤ C
  body : ∀ {body body' : Option Node} {scope scope' : Scope},
    C.closures body scope body' scope' → body' = body
  captured : ∀ {body body' : Option Node} {scope scope' : Scope},
    C.closures body scope body' scope' →
    Finds C (· ∈ identifiers (bodyLeaves body)) after after' scope scope'

/-- A call on expressions goes on like the call on values that they had stage by stage. -/
theorem callOn_follows (stages : Stages (.standard limit now) fuel scope nodes values stage)
    (sound : (stage 0).store.Sound) {f : Value} (function : f.Present (stage 0).store)
    (below : scope.Below (stage 0).store.levels.size)
    (present : ∀ n ∈ nodes, n.Present (stage 0).store) (callee : Option Node) :
    Follows { aligned := False } (.present (stage 0).store) (fun D _ _ v v' => v.Like D v')
      (callOn (.standard limit now) (fuel + 1) f scope nodes callee (stage 0))
      (callWith (.standard limit now) (fuel + 1) f scope values callee (stage nodes.length)) := by
  have grown := stages.grown (Nat.zero_le nodes.length)
  have kept := stages.keeps (Nat.zero_le nodes.length)
  have none (l : Nat) (inside : l ∈ (∅ : Set Nat)) : False := Set.notMem_empty l inside
  have sim : Sim { aligned := False } (.present (stage 0).store) (stage 0)
      (stage nodes.length) :=
    sim_of_sound sound id (.refl _ _) kept (Nat.le_refl _) grown.next_le
      (fun l inside => (none l inside).elim) (fun l inside => (none l inside).elim)
      (stages.depth _)
  have ahead : Ahead stage nodes.length { aligned := False } 0 (.present (stage 0).store)
      (stage 0) (stage nodes.length) :=
    { base := Likeness.le_refl _
      apart := id
      shown := fun l inside => (none l inside).elim
      shown' := fun l inside => (none l inside).elim
      keeps := .refl _ _
      keeps' := .refl _ _
      next_le := Nat.le_refl _
      next_le' := Nat.le_refl _
      depth := rfl
      taken := by
        rintro i _ ⟨rfl, low⟩
        exact ⟨low, Nat.lt_of_lt_of_le low grown.next_le, .inl low⟩ }
  have serves := Stages.serves stages sound present below callee
  refine (call_follows serves (perform_simulated limit now fuel) function.like sim ahead).imp ?_
  exact fun _ _ _ result => result.1

/-- Lazy and eager calls agree. Where expressions have values in a scope, at any depth, the call of
a function on the expressions and the call on the values that were computed beforehand end in the
same error, or in values that are the same up to the numbers of what is new, if both of them end.
The store and what is called hold values that were made with the store, as evaluation leaves
them. -/
theorem callOn_like_callWith (limit : Nat) (now : Date) {s : State} (sound : s.store.Sound)
    {f : Value} (function : f.Present s.store) {scope : Scope}
    (below : scope.Below s.store.levels.size) {nodes : List Node}
    (present : ∀ n ∈ nodes, n.Present s.store) (callee : Option Node) {values : List Value}
    {after : State} {fuel lazyFuel eagerFuel : Nat}
    (evaluated : evaluateAll (.standard limit now) fuel scope nodes s = (.ok values, after))
    (lazyEnds : (callOn (.standard limit now) lazyFuel f scope nodes callee s).1 ≠
      .error .outOfFuel)
    (eagerEnds : (callWith (.standard limit now) eagerFuel f scope values callee after).1 ≠
      .error .outOfFuel) :
    ∃ C,
      Corresponds s.store C
        (callOn (.standard limit now) lazyFuel f scope nodes callee s).2.store
        (callWith (.standard limit now) eagerFuel f scope values callee after).2.store ∧
      Agree (Value.Like C)
        (callOn (.standard limit now) lazyFuel f scope nodes callee s).1
        (callWith (.standard limit now) eagerFuel f scope values callee after).1 := by
  obtain ⟨most, enough, lazyLe, eagerLe⟩ :
      ∃ most, fuel ≤ most ∧ lazyFuel ≤ most + 1 ∧ eagerFuel ≤ most + 1 :=
    ⟨max fuel (max lazyFuel eagerFuel), by omega, by omega, by omega⟩
  have longer := evaluateAll_mono enough evaluated
  obtain ⟨stage, stages, rfl, rfl⟩ := exists_stages longer
  have lazy : callOn (.standard limit now) (most + 1) f scope nodes callee (stage 0) =
      callOn (.standard limit now) lazyFuel f scope nodes callee (stage 0) :=
    perform_mono lazyLe _ _ lazyEnds
  have eager : callWith (.standard limit now) (most + 1) f scope values callee _ =
      callWith (.standard limit now) eagerFuel f scope values callee (stage nodes.length) :=
    perform_mono eagerLe _ _ eagerEnds
  obtain ⟨D, le, sim, agree⟩ := callOn_follows stages sound function below present callee
  rw [lazy, eager] at sim agree
  exact ⟨D, ⟨le, sim.body, fun same => (sim.anchored same).finds⟩, agree⟩

/-- `{y {x y}}`, a function that makes functions. -/
def maker : Node :=
  .function ⟨"\x7b", 0⟩ [.leaf ⟨"y", 1⟩ .identifier,
    .function ⟨"\x7b", 3⟩ [.leaf ⟨"x", 4⟩ .identifier, .leaf ⟨"y", 6⟩ .identifier]]

/-- The library, and a scope inside it in which `make` is the value of `{y {x y}}`. -/
def workshop : State :=
  let opened : State := { store := { levels := #[Builtin.library, []] } }
  match perform (.standard 256 ⟨0, 0, 0⟩) 2 (.node maker ⟨1, [0]⟩) opened with
  | (.ok f, after) => { after with store := after.store.assign ⟨1, [0]⟩ "make" f }
  | (.error _, after) => after

theorem workshop_sound : workshop.store.Sound := by
  have opened : Store.Sound { levels := #[Builtin.library, []] } := by
    rintro (_ | _ | level)
    · exact Builtin.library_present (Nat.le_refl _)
    · exact List.forall_mem_nil _
    · exact List.forall_mem_nil _
  have present : maker.Present { levels := #[Builtin.library, []] } := by
    intro mark v member
    simp [maker, Node.leaves, Node.leavesAll] at member
  have produced := perform_preserves 256 ⟨0, 0, 0⟩ 2 (t := .node maker ⟨1, [0]⟩)
    (s := { store := { levels := #[Builtin.library, []] } }) opened ⟨present, by decide⟩
  unfold workshop
  dsimp only
  split
  · next f after outcome =>
    rw [outcome] at produced
    exact produced.sound.assign _ _ (produced.result f rfl)
  · next stop after outcome =>
    rw [outcome] at produced
    exact produced.sound

/-- `false`, `(array)` and `(make null)`. -/
def choice : List Node :=
  [.leaf ⟨"false", 0⟩ (.boolean false), .call ⟨"(", 6⟩ [.leaf ⟨"array", 7⟩ .identifier],
    .call ⟨"(", 14⟩ [.leaf ⟨"make", 15⟩ .identifier, .leaf ⟨"null", 20⟩ .null]]

/-- A choice between them, evaluated as far as it comes to them. -/
def chosen : Except Stop Value × State :=
  callOn (.standard 256 ⟨0, 0, 0⟩) 6 (Builtin.toValue .ternary) ⟨1, [0]⟩ choice none workshop

/-- A choice between values. -/
def chosenFrom (values : List Value) (s : State) : Except Stop Value × State :=
  callWith (.standard 256 ⟨0, 0, 0⟩) 6 (Builtin.toValue .ternary) ⟨1, [0]⟩ values none s

/-- A choice on expressions makes no array, and the function that it makes has another number and
another scope than the one that was made beforehand. -/
theorem callOn_like_callWith_ternary :
    ∃ values after,
      evaluateAll (.standard 256 ⟨0, 0, 0⟩) 5 ⟨1, [0]⟩ choice workshop = (.ok values, after) ∧
      chosen.2.store.nextId < after.store.nextId ∧
      ∃ C, Corresponds workshop.store C chosen.2.store (chosenFrom values after).2.store ∧
        Agree (Value.Like C) chosen.1 (chosenFrom values after).1 := by
  have finished {x : Except Stop Value} (ok : x.isOk = true) : x ≠ .error .outOfFuel := by
    rintro rfl
    cases ok
  have plain : ∀ n ∈ choice, n.Present workshop.store := by
    intro n member mark v inside
    simp only [choice, List.mem_cons, List.not_mem_nil, or_false] at member
    rcases member with rfl | rfl | rfl <;> simp [Node.leaves, Node.leavesAll] at inside
  have taken : Builtin.all.length ≤ workshop.store.nextId := by decide +kernel
  have lazyEnds : chosen.1.isOk = true := by decide +kernel
  obtain ⟨beforehand, same⟩ : ∃ beforehand, beforehand =
      evaluateAll (.standard 256 ⟨0, 0, 0⟩) 5 ⟨1, [0]⟩ choice workshop := ⟨_, rfl⟩
  have ended : beforehand.1.isOk = true := by
    rw [same]
    decide +kernel
  have eagerEnds :
      (chosenFrom (beforehand.1.toOption.getD []) beforehand.2).1.isOk = true := by
    rw [same]
    decide +kernel
  have fewer : chosen.2.store.nextId < beforehand.2.store.nextId := by
    rw [same]
    decide +kernel
  obtain ⟨result, after⟩ := beforehand
  cases result with
  | error stop => cases ended
  | ok values =>
    refine ⟨values, after, same.symm, fewer, ?_⟩
    exact callOn_like_callWith 256 ⟨0, 0, 0⟩ workshop_sound
      (Builtin.toValue_present taken .ternary) (by decide +kernel) plain none same.symm
      (finished lazyEnds) (finished eagerEnds)

end Parallel

end Bracket
