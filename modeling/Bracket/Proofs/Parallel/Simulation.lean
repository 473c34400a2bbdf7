import Bracket.Proofs.Order.Library
import Bracket.Proofs.Parallel.Pairing

/-!
Evaluations side by side go on alike. A call may be served in more than one way: on both sides with
the same expressions and alike values, or on one side with expressions and on the other with values
that were computed before. What a call needs of its arguments is therefore stated apart from how
they are given, and calls, closures and native code are treated once for all.
Main statement: the same expression in scopes where its leaves stand for the same, and the calls of
alike functions on the same arguments, have alike outcomes.
-/

namespace Bracket.Parallel

open Evaluator
open Lexical (Settled Spares Agree)

variable {α β γ δ : Type} {C D : Likeness} {F : Frame} {s s' : State}

/-! ### Evaluations that go on alike -/

/-- The outcomes agree, and what is left is paired under a likeness that allows for more. -/
def Follows (F : Frame) (C : Likeness)
    (R : Likeness → State → State → α → β → Prop) (x : Except Stop α × State)
    (y : Except Stop β × State) : Prop :=
  ∃ D, C ≤ D ∧ Sim F D x.2 y.2 ∧ Agree (R D x.2 y.2) x.1 y.1

namespace Follows

variable {R S : Likeness → State → State → α → β → Prop}
  {T : Likeness → State → State → γ → δ → Prop} {x : Except Stop α × State}
  {y : Except Stop β × State}

theorem ok {a : α} {b : β} (sim : Sim F C s s') (related : R C s s' a b) :
    Follows F C R (.ok a, s) (.ok b, s') :=
  ⟨C, Likeness.le_refl C, sim, .ok related⟩

theorem stop (sim : Sim F C s s') (stop : Stop) :
    Follows F C R (.error stop, s) (.error stop, s') :=
  ⟨C, Likeness.le_refl C, sim, .stop stop⟩

theorem mono (le : C ≤ D) (follows : Follows F D R x y) :
    Follows F C R x y := by
  obtain ⟨E, le', rest⟩ := follows
  exact ⟨E, Likeness.le_trans le le', rest⟩

/-- What is known of the states that are left may be added to the results. -/
theorem imp (follows : Follows F C R x y)
    (weaker : ∀ D a b, R D x.2 y.2 a b → S D x.2 y.2 a b) : Follows F C S x y := by
  obtain ⟨D, le, sim, agree⟩ := follows
  exact ⟨D, le, sim, agree.imp (weaker D)⟩

theorem reveal {level level' : Nat} (follows : Follows (F.hide level level') C R x y) :
    Follows F C R x y := by
  obtain ⟨D, le, sim, agree⟩ := follows
  exact ⟨D, le, sim.reveal, agree⟩

/-- What comes after evaluations that go on alike may rely on what they leave. -/
theorem bind {x : Eval α} {y : Eval β} {f : α → Eval γ} {g : β → Eval δ}
    (first : Follows F C R (x s) (y s'))
    (rest : ∀ {D after after'} {a : α} {b : β}, C ≤ D → Sim F D after after' →
      R D after after' a b → Follows F D T (f a after) (g b after')) :
    Follows F C T ((x >>= f) s) ((y >>= g) s') := by
  rw [bind_apply, bind_apply]
  obtain ⟨D, le, sim, agree⟩ := first
  revert sim agree
  generalize x s = outcome, y s' = outcome'
  obtain ⟨result, after⟩ := outcome
  obtain ⟨result', after'⟩ := outcome'
  intro sim agree
  cases agree with
  | stop stop => exact ⟨D, le, sim, .stop stop⟩
  | ok related => exact (rest le sim related).mono le

end Follows

/-! ### Tasks -/

/-- The same expression, whose leaves stand for the same, or values that are alike. -/
inductive Passed (F : Frame) (C : Likeness) (st st' : Store)
    (scope scope' : Scope) : Argument → Argument → Prop
  | node {n : Node} (anchored : Anchored F C st st' scope scope' n.leaves) :
      Passed F C st st' scope scope' (.node n) (.node n)
  | value {v v' : Value} (alike : v.Like C v') :
      Passed F C st st' scope scope' (.value v) (.value v')

/-- The calls have the same name and the same arguments. -/
structure Site (F : Frame) (C : Likeness) (st st' : Store) (call call' : Call) : Prop where
  callee : call'.callee = call.callee
  each : List.Forall₂ (Passed F C st st' call.scope call'.scope) call.arguments call'.arguments

/-- The tasks have the same expression, or call alike functions on the same arguments. -/
inductive Stands (F : Frame) (C : Likeness) (st st' : Store) : Task → Task → Prop
  | node {n : Node} {scope scope' : Scope} (anchored : Anchored F C st st' scope scope' n.leaves) :
      Stands F C st st' (.node n scope) (.node n scope')
  | call {f f' : Value} {call call' : Call} (function : f.Like C f')
      (site : Site F C st st' call call') : Stands F C st st' (.call f call) (.call f' call')

/-- The results are alike, and the numbers that the likeness adds are new since `s` and `s'`. -/
abbrev Result (C : Likeness) (s s' : State) : Likeness → State → State → Value → Value → Prop :=
  fun D after after' v v' => v.Like D v' ∧ Grows C s.store s'.store D after.store after'.store

variable {limit fuel : Nat} {now : Date}

/-- With so much fuel, both sides go on alike. -/
def Simulated (limit : Nat) (now : Date) (fuel : Nat) : Prop :=
  ∀ {F : Frame} {C : Likeness} {s s' : State} {t t' : Task},
    Sim F C s s' → Stands F C s.store s'.store t t' →
    Follows F C (Result C s s') (perform (.standard limit now) fuel t s)
      (perform (.standard limit now) fuel t' s')

/-- Both sides go on from `s` and `s'`: what the likeness adds is new, no level is written but
hidden ones, and the depth is as before. -/
structure Later (F : Frame) (C : Likeness) (s s' : State) (D : Likeness) (after after' : State) :
    Prop where
  grows : Grows C s.store s'.store D after.store after'.store
  spares : Spares F.hidden s.store after.store
  spares' : Spares F.hidden' s'.store after'.store
  depth : after.depth = s.depth

/-- Parts write no level at all. -/
theorem Simulated.part (simulated : Simulated limit now fuel) {t t' : Task}
    (sim : Sim F C s s') (stands : Stands F C s.store s'.store t t') :
    Follows F C (fun D after after' v v' => v.Like D v' ∧ Later F C s s' D after after')
      (perform (.standard limit now) fuel t s) (perform (.standard limit now) fuel t' s') := by
  refine (simulated sim stands).imp fun D v v' result => ⟨result.1, ?_⟩
  exact {
    grows := result.2
    spares := .of_keeps (perform_keeps limit now fuel t s (Nat.le_refl _))
    spares' := .of_keeps (perform_keeps limit now fuel t' s' (Nat.le_refl _))
    depth := perform_depth (.standard limit now) fuel t s }

theorem Site.later {st st' after after' : Store} {call call' : Call}
    (site : Site F C st st' call call') (le : C ≤ D) (spares : Spares F.hidden st after)
    (spares' : Spares F.hidden' st' after') : Site F D after after' call call' where
  callee := site.callee
  each := site.each.imp fun _ _ passed => by
    cases passed with
    | node anchored => exact .node (anchored.later le spares spares')
    | value alike => exact .value (alike.mono le)

/-! ### What a call needs of its arguments -/

/-- What is known of the two sides of a call: which levels are hidden, from which position on
arguments may still be asked for, what belongs together, and the states. -/
abbrev Stance := (F : Frame) → (lower : Nat) → (C : Likeness) → (s s' : State) → Prop

/-- The arguments of a call are served on both sides: as long as the stance holds and they are
asked for in order, they have alike values; and the stance goes on to hold whatever else the call
does. -/
structure Serves (limit : Nat) (now : Date) (fuel : Nat) (call call' : Call) (J : Stance) :
    Prop where
  size : call'.size = call.size
  callee : call'.callee = call.callee
  later : ∀ {F lower C s s' D after after'}, J F lower C s s' → Later F C s s' D after after' →
    J F lower D after after'
  hide : ∀ {F lower C s s'} (outer outer' : Option Scope), J F lower C s s' →
    J (F.hide s.store.levels.size s'.store.levels.size) lower C
      { s with store := (s.store.newScope outer).2 }
      { s' with store := (s'.store.newScope outer').2 }
  reveal : ∀ {F : Frame} {level level' lower C s s'}, J (F.hide level level') lower C s s' →
    J F lower C s s'
  argument : ∀ {F lower C s s' position}, Sim F C s s' → J F lower C s s' → lower ≤ position →
    Follows F C (fun D after after' v v' => v.Like D v' ∧ J F (position + 1) D after after')
      (answer (.standard limit now) (perform (.standard limit now) fuel) call
        (.argument position) s)
      (answer (.standard limit now) (perform (.standard limit now) fuel) call'
        (.argument position) s')

theorem Serves.like {call call' : Call} {J : Stance} (serves : Serves limit now fuel call call' J) :
    call.Like call' where
  size := serves.size
  calleeText := by rw [Call.calleeText, Call.calleeText, serves.callee]

/-- Looking at an argument keeps all levels. -/
theorem answer_argument_keeps (limit : Nat) (now : Date) (fuel : Nat) (call : Call)
    (position : Nat) (s : State) :
    s.store.Keeps s.store.levels.size
      (answer (.standard limit now) (perform (.standard limit now) fuel) call
        (.argument position) s).2.store := by
  cases found : call.arguments[position]? with
  | none =>
    simp only [answer, found]
    exact .refl _ _
  | some argument =>
    simp only [answer, found]
    cases argument with
    | node n => exact perform_keeps limit now fuel _ s (Nat.le_refl _)
    | value v => exact .refl _ _

section Calls

variable {call call' : Call} {J : Stance} {lower : Nat}

/-- Native code goes on alike. -/
theorem run_follows (serves : Serves limit now fuel call call' J)
    (simulated : Simulated limit now fuel) {R : Likeness → α → β → Prop} {r : Routine α}
    {r' : Routine β} (alike : r.Alike R C r') {upper : Nat} (order : r.InOrder lower upper)
    (sim : Sim F C s s') (stance : J F lower C s s') :
    Follows F C (fun D after after' a b => R D a b ∧ ∃ last, J F last D after after')
      (run (.standard limit now) (perform (.standard limit now) fuel) call r s)
      (run (.standard limit now) (perform (.standard limit now) fuel) call' r' s') := by
  induction alike generalizing lower s s' with
  | done related => exact .ok sim ⟨related, lower, stance⟩
  | fail e => exact .stop sim (.error e)
  | argument position _ ih =>
    refine (serves.argument sim stance order.1).bind fun {D after after' v v'} le sim' result => ?_
    exact ih D le v v' result.1 (order.2 v) sim' result.2
  | @invoke C f f' values values' next next' function each _ ih =>
    have passed : List.Forall₂ (Passed F C s.store s'.store call.scope call'.scope)
        (values.map .value) (values'.map .value) := by
      rw [List.forall₂_map_left_iff, List.forall₂_map_right_iff]
      exact each.imp fun _ _ alike => .value alike
    have site : Site F C s.store s'.store ⟨call.scope, values.map .value, call.callee⟩
        ⟨call'.scope, values'.map .value, call'.callee⟩ := ⟨serves.callee, passed⟩
    refine (simulated.part sim (.call function site)).bind
      fun {D after after' v v'} le sim' result => ?_
    exact ih D le v v' result.1 (order.2 v) sim' (serves.later stance result.2)
  | @reserve C count next next' _ ih =>
    have reserved : (C.addNumbers count _ _ sim.fits).Reserved count s.store.nextId
        s'.store.nextId := by
      intro k low
      exact .inr ⟨k, low, rfl, rfl⟩
    have passed : Later F C s s' (C.addNumbers count _ _ sim.fits)
        { s with store := (s.store.reserve count).2 }
        { s' with store := (s'.store.reserve count).2 } :=
      ⟨sim.reserve_grows count, .of_keeps (.reserve count), .of_keeps (.reserve count), rfl⟩
    have rest := ih _ passed.grows.le _ _ reserved (order.2 s.store.nextId) (sim.reserve count)
      (serves.later stance passed)
    exact rest.mono passed.grows.le
  | now _ ih => exact ih now (order.2 now) sim stance

/-- Binding the parameters in levels that are hidden gives alike values to the names that have
them outside. -/
theorem bindParameters_follows (serves : Serves limit now fuel call call' J)
    {inner inner' : Scope} {N : String → Prop} (inside : inner.level ∈ F.hidden)
    (inside' : inner'.level ∈ F.hidden') (params : List String) (position : Nat)
    (sim : Sim F C s s') (stance : J F position C s s')
    (made : inner.Below s.store.levels.size) (made' : inner'.Below s'.store.levels.size)
    (finds : Finds C N s.store s'.store inner inner') :
    Follows F C
      (fun D after after' (_ _ : Unit) => Finds D N after.store after'.store inner inner' ∧
        inner.Below after.store.levels.size ∧ inner'.Below after'.store.levels.size ∧
        ∃ last, J F last D after after')
      (run (.standard limit now) (perform (.standard limit now) fuel) call
        (bindParameters call inner position params) s)
      (run (.standard limit now) (perform (.standard limit now) fuel) call'
        (bindParameters call' inner' position params) s') := by
  induction params generalizing C s s' position with
  | nil => exact .ok sim ⟨finds, made, made', position, stance⟩
  | cons param params ih =>
    rw [bindParameters, bindParameters, run_bind, run_bind, run_argumentOrUndefined,
      run_argumentOrUndefined]
    -- the argument leaves even the hidden levels alone, so what is bound so far is still there
    have keeps := answer_argument_keeps limit now fuel call position s
    have keeps' := answer_argument_keeps limit now fuel call' position s'
    have value := (serves.argument sim stance (Nat.le_refl position)).imp
      (S := fun D after after' v v' =>
        (v.Like D v' ∧ J F (position + 1) D after after') ∧
          s.store.Keeps s.store.levels.size after.store ∧
          s'.store.Keeps s'.store.levels.size after'.store)
      fun _ _ _ result => ⟨result, keeps, keeps'⟩
    refine value.bind fun {D after after' v v'} le sim' result => ?_
    obtain ⟨⟨alike, stance'⟩, keeps, keeps'⟩ := result
    have still : Finds D N after.store after'.store inner inner' := by
      refine Finds.mono (finds.congr ?_ ?_) le
      · exact fun l member => keeps.locals l (made l member)
      · exact fun l member => keeps'.locals l (made' l member)
    have made₁ : inner.Below after.store.levels.size :=
      fun l member => Nat.lt_of_lt_of_le (made l member) keeps.size_le
    have made₁' : inner'.Below after'.store.levels.size :=
      fun l member => Nat.lt_of_lt_of_le (made' l member) keeps'.size_le
    have spares : Spares F.hidden after.store (after.store.assign inner param v) :=
      .assign inside param v
    have spares' : Spares F.hidden' after'.store (after'.store.assign inner' param v') :=
      .assign inside' param v'
    have written : Later F D after after' D
        { after with store := after.store.assign inner param v }
        { after' with store := after'.store.assign inner' param v' } :=
      ⟨.of_next rfl rfl, spares, spares', rfl⟩
    have sizes : F.aligned → (after'.store.assign inner' param v').levels.size =
        (after.store.assign inner param v).levels.size := by
      intro together
      simp only [Store.assign, Array.size_modify, sim'.sizes together]
    exact ih (position + 1) (sim'.later spares spares' rfl rfl sizes) (serves.later stance' written)
      (fun l member => Nat.lt_of_lt_of_le (made₁ l member) spares.size_le)
      (fun l member => Nat.lt_of_lt_of_le (made₁' l member) spares'.size_le)
      (still.assign (made₁ _ List.mem_cons_self) (made₁' _ List.mem_cons_self) param alike)

/-- Closures that belong together go on alike. -/
theorem applyClosure_follows (serves : Serves limit now fuel call call' J)
    (simulated : Simulated limit now fuel) (params : List String) {body : Option Node}
    {env env' : Scope} (same : C.closures body env body env') (sim : Sim F C s s')
    (stance : J F 0 C s s') :
    Follows F C (fun D after after' v v' => v.Like D v' ∧ ∃ last, J F last D after after')
      (run (.standard limit now) (perform (.standard limit now) fuel) call
        (applyClosure params body env call) s)
      (run (.standard limit now) (perform (.standard limit now) fuel) call'
        (applyClosure params body env' call') s') := by
  -- the levels that are made for the parameters stay hidden as long as arguments are evaluated,
  -- for these may make closures; the body is evaluated when the levels are written no more
  have inside := (sim.anchored same).newScope sim.hidden_lt sim.hidden_lt' sim.sizes
  have bound := bindParameters_follows serves (Set.mem_insert _ _) (Set.mem_insert _ _) params 0
    (sim.hide (some env) (some env')) (serves.hide (some env) (some env') stance)
    (fun l member => (inside.settled l member).1) (fun l member => (inside.settled' l member).1)
    inside.finds
  change Follows F C _
    (run _ _ call (bindParameters call (s.store.newScope (some env)).1 0 params >>= _)
      { s with store := (s.store.newScope (some env)).2 })
    (run _ _ call' (bindParameters call' (s'.store.newScope (some env')).1 0 params >>= _)
      { s' with store := (s'.store.newScope (some env')).2 })
  rw [run_bind, run_bind]
  refine bound.reveal.bind fun {D after after' _ _} le sim' result => ?_
  obtain ⟨finds, made, made', last, stance'⟩ := result
  have stance₁ := serves.reveal stance'
  cases body with
  | none => exact .ok sim' ⟨.undefined, last, stance₁⟩
  | some n =>
    have anchored : Anchored F D after.store after'.store (s.store.newScope (some env)).1
        (s'.store.newScope (some env')).1 n.leaves :=
      { settled := fun l member => ⟨made l member, (inside.settled l member).2⟩
        settled' := fun l member => ⟨made' l member, (inside.settled' l member).2⟩
        aligned := inside.aligned
        finds := finds
        keywords := fun mark v member => (inside.keywords mark v member).mono le }
    have result := (simulated.part sim' (.node anchored)).imp
      (S := fun E final final' v v' => v.Like E v' ∧ ∃ last, J F last E final final')
      fun _ _ _ result => ⟨result.1, last, serves.later stance₁ result.2⟩
    rwa [← run_evaluate (.standard limit now) (perform (.standard limit now) fuel) call,
      ← run_evaluate (.standard limit now) (perform (.standard limit now) fuel) call'] at result

/-- Calls of alike functions go on alike. -/
theorem call_follows (serves : Serves limit now fuel call call' J)
    (simulated : Simulated limit now fuel) {f f' : Value} (function : f.Like C f')
    (sim : Sim F C s s') (stance : J F 0 C s s') :
    Follows F C (fun D after after' v v' => v.Like D v' ∧ ∃ last, J F last D after after')
      (perform (.standard limit now) (fuel + 1) (.call f call) s)
      (perform (.standard limit now) (fuel + 1) (.call f' call') s') := by
  have self := function
  cases function with
  | @function id id' procedure procedure' ids alike =>
    cases alike with
    | native name alike each =>
      have routines := Code.routine_alike (fun _ member => absurd member List.not_mem_nil) alike
        serves.like
      obtain ⟨upper, order⟩ := Code.routine_inOrder _ call
      exact run_follows serves simulated routines order sim stance
    | closure params same =>
      obtain rfl := sim.body same
      rw [perform, step, step, Procedure.routine, Procedure.routine, serves.like.isEmpty]
      split
      · exact .ok sim ⟨self, 0, stance⟩
      · exact applyClosure_follows serves simulated params same sim stance
  | _ => exact .stop sim _

/-- Both sides are given the same arguments; numbers are counted from where the call began. -/
structure Given (C₀ : Likeness) (st₀ st₀' : Store) (call call' : Call) (F : Frame) (_ : Nat)
    (C : Likeness) (s s' : State) : Prop where
  site : Site F C s.store s'.store call call'
  grows : Grows C₀ st₀ st₀' C s.store s'.store

/-- The same arguments are served on both sides if both sides go on alike. -/
theorem Simulated.serves (simulated : Simulated limit now fuel) {C₀ : Likeness}
    {st₀ st₀' : Store} (site : Site F C₀ st₀ st₀' call call') :
    Serves limit now fuel call call' (Given C₀ st₀ st₀' call call') where
  size := site.each.length_eq.symm
  callee := site.callee
  later given later :=
    ⟨given.site.later later.grows.le later.spares later.spares', given.grows.trans later.grows⟩
  hide outer outer' given := by
    refine ⟨⟨given.site.callee, given.site.each.imp fun _ _ passed => ?_⟩,
      given.grows.trans (.of_next rfl rfl)⟩
    cases passed with
    | node anchored => exact .node (anchored.hide outer outer')
    | value alike => exact .value alike
  reveal given := by
    refine ⟨⟨given.site.callee, given.site.each.imp fun _ _ passed => ?_⟩, given.grows⟩
    cases passed with
    | node anchored => exact .node anchored.reveal
    | value alike => exact .value alike
  argument := by
    intro F lower C s s' position sim given _
    have passed := forall₂_getElem? given.site.each position
    simp only [answer]
    revert passed
    generalize call.arguments[position]? = argument, call'.arguments[position]? = argument'
    intro passed
    cases passed with
    | none => exact .ok sim ⟨.undefined, given.site, given.grows⟩
    | some passed =>
      cases passed with
      | value alike => exact .ok sim ⟨alike, given.site, given.grows⟩
      | node anchored =>
        refine (simulated.part sim (.node anchored)).imp fun D v v' result => ⟨result.1, ?_⟩
        obtain ⟨grows, spares, spares', -⟩ := result.2
        exact ⟨given.site.later grows.le spares spares', given.grows.trans grows⟩

end Calls

section Expressions

variable {scope scope' : Scope}

theorem Follows.here (sim : Sim F C s s') {v v' : Value} (alike : v.Like C v') :
    Follows F C (Result C s s') (.ok v, s) (.ok v', s') :=
  .ok sim ⟨alike, .of_next rfl rfl⟩

/-- What comes later counts numbers from where the first part began. -/
theorem Follows.after {early early' : State} {x y : Except Stop Value × State}
    (follows : Follows F D (Result D s s') x y)
    (grows : Grows C early.store early'.store D s.store s'.store) :
    Follows F D (Result C early early') x y :=
  follows.imp fun _ _ _ result => ⟨result.1, grows.trans result.2⟩

theorem leaf_follows (sim : Sim F C s s') (mark : Mark) (literal : Literal)
    (anchored : Anchored F C s.store s'.store scope scope' [(mark, literal)]) :
    Follows F C (Result C s s') (leaf mark scope literal s)
      (leaf mark scope' literal s') := by
  cases literal with
  | string s => exact .here sim (.string s)
  | number n => exact .here sim (.number n)
  | boolean b => exact .here sim (.bool b)
  | null => exact .here sim .null
  | undefined => exact .here sim .undefined
  | keyword v => exact .here sim (anchored.keywords mark v List.mem_cons_self)
  | identifier =>
    exact .here sim (Value.Like.getD (anchored.finds mark.text List.mem_cons_self))

theorem Anchored.isUnbound_eq {st st' : Store} {callee : Node}
    (anchored : Anchored F C st st' scope scope' callee.leaves) :
    isUnbound st' scope' callee = isUnbound st scope callee := by
  cases callee with
  | leaf mark literal =>
    cases literal with
    | identifier =>
      have mentioned : mark.text ∈ identifiers [(mark, .identifier)] := List.mem_cons_self
      simp only [isUnbound, anchored.finds.contains_eq mentioned]
    | _ => rfl
  | _ => rfl

/-- A callee that is no function stands alone on both sides. -/
theorem group_follows (sim : Sim F C s s') {callee : Node}
    (anchored : Anchored F C s.store s'.store scope scope' callee.leaves)
    (rest : List Node) {f f' : Value} (alike : f.Like C f') :
    Follows F C (Result C s s')
      ((do
        let unbound ← withStore fun st => (isUnbound st scope callee, st)
        if unbound then fail (.unknownFunction callee.mark.text)
        else if rest.isEmpty then pure f
        else fail (.notCallable callee.text) : Eval Value) s)
      ((do
        let unbound ← withStore fun st => (isUnbound st scope' callee, st)
        if unbound then fail (.unknownFunction callee.mark.text)
        else if rest.isEmpty then pure f'
        else fail (.notCallable callee.text) : Eval Value) s') := by
  change Follows F C _
    ((if isUnbound s.store scope callee then _ else _ : Eval Value) s)
    ((if isUnbound s'.store scope' callee then _ else _ : Eval Value) s')
  rw [anchored.isUnbound_eq]
  split
  · exact .stop sim _
  · split
    · exact .here sim alike
    · exact .stop sim _

/-- An expression whose leaves stand for the same goes on alike. -/
theorem dispatch_follows (simulated : Simulated limit now fuel) (sim : Sim F C s s')
    (n : Node) (anchored : Anchored F C s.store s'.store scope scope' n.leaves) :
    Follows F C (Result C s s')
      (dispatch (perform (.standard limit now) fuel) scope n s)
      (dispatch (perform (.standard limit now) fuel) scope' n s') := by
  cases n with
  | leaf mark literal => exact leaf_follows sim mark literal anchored
  | function mark children =>
    have inside := anchored.part (Node.bodyLeaves_getLast?_subset children)
    have taken := sim.reserve_grows 1
    have grows := taken.addClosure children.getLast? scope scope'
    have kept := inside.later taken.le (.of_keeps (.reserve 1)) (.of_keeps (.reserve 1))
    refine ⟨_, grows.le, (sim.reserve 1).capture kept, .ok ⟨?_, grows⟩⟩
    exact .function (.inr ⟨0, Nat.one_pos, rfl, rfl⟩) (.closure _ (.inr ⟨rfl, rfl, rfl, rfl⟩))
  | member mark target name =>
    refine (simulated.part sim (.node (n := target) anchored)).bind fun _ sim' result => ?_
    exact .ok sim' ⟨Value.Like.getD (result.1.property? name.text), result.2.grows⟩
  | call mark children =>
    cases children with
    | nil => exact .stop sim _
    | cons callee rest =>
      have opened := anchored.newScope sim.hidden_lt sim.hidden_lt' sim.sizes
      have first := opened.part (Node.leaves_subset_all List.mem_cons_self)
      refine (simulated.part (sim.newScope (some scope) (some scope')) (.node first)).bind
        fun {D after after' f f'} le sim' result => ?_
      obtain ⟨alike, grows, spares, spares', -⟩ := result
      have begun : Grows C s.store s'.store D after.store after'.store := grows.before rfl rfl
      have passed : List.Forall₂ (Passed F D after.store after'.store
          (s.store.newScope (some scope)).1 (s'.store.newScope (some scope')).1)
          (rest.map .node) (rest.map .node) := by
        rw [List.forall₂_map_left_iff, List.forall₂_map_right_iff, List.forall₂_same]
        intro n member
        have inside := opened.part (Node.leaves_subset_all (List.mem_cons_of_mem callee member))
        exact .node (inside.later le spares spares')
      have known := alike
      cases alike with
      | function ids procedures =>
        have site : Site F D after.store after'.store
            ⟨(s.store.newScope (some scope)).1, rest.map .node, some (.call mark (callee :: rest))⟩
            ⟨(s'.store.newScope (some scope')).1, rest.map .node,
              some (.call mark (callee :: rest))⟩ := ⟨rfl, passed⟩
        exact (simulated sim' (.call known site)).after begun
      | _ => exact (group_follows sim' (first.later le spares spares') rest known).after begun

end Expressions

/-- The depth may be set to the same on both sides. -/
theorem Follows.atDepth {x y : Except Stop Value × State}
    (follows : Follows F C (Result C s s') x y) (depth : Nat) :
    Follows F C (Result C s s') (x.1, { x.2 with depth }) (y.1, { y.2 with depth }) := by
  obtain ⟨D, le, sim, agree⟩ := follows
  exact ⟨D, le, sim.atDepth depth, agree⟩

/-- Both sides go on alike, whatever the fuel. -/
theorem perform_simulated (limit : Nat) (now : Date) (fuel : Nat) : Simulated limit now fuel := by
  induction fuel with
  | zero => exact fun sim _ => .stop sim .outOfFuel
  | succ fuel ih =>
    intro F C s s' t t' sim stands
    cases stands with
    | call function site =>
      refine (call_follows (ih.serves site) ih function sim ⟨site, .of_next rfl rfl⟩).imp ?_
      rintro D v v' ⟨alike, last, given⟩
      exact ⟨alike, given.grows⟩
    | @node n scope scope' anchored =>
      rw [perform, step, step, deeper, deeper, sim.depth]
      split
      · exact .stop sim _
      · exact (dispatch_follows ih (sim.atDepth (s.depth + 1)) n anchored).atDepth s.depth

/-- Expressions that are evaluated in order go on alike. -/
theorem evaluateAll_follows (limit : Nat) (now : Date) (fuel : Nat) {scope scope' : Scope}
    {nodes : List Node} (sim : Sim F C s s')
    (anchored : ∀ n ∈ nodes, Anchored F C s.store s'.store scope scope' n.leaves) :
    Follows F C (fun D _ _ => Value.LikeAll D)
      (evaluateAll (.standard limit now) fuel scope nodes s)
      (evaluateAll (.standard limit now) fuel scope' nodes s') := by
  have simulated : Simulated limit now fuel := perform_simulated limit now fuel
  induction nodes generalizing C s s' with
  | nil => exact .ok sim .nil
  | cons n rest ih =>
    have first := anchored n List.mem_cons_self
    refine (simulated.part sim (.node first)).bind
      fun {D after after' v v'} le sim' result => ?_
    obtain ⟨alike, grows, spares, spares', -⟩ := result
    have others := ih sim' fun m member =>
      (anchored m (List.mem_cons_of_mem n member)).later le spares spares'
    refine others.bind fun le' sim'' values => ?_
    exact .ok sim'' (.cons (alike.mono le') values)

end Bracket.Parallel
