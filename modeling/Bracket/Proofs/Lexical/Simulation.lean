import Bracket.Proofs.Lexical.Pairing

/-!
Scope chains implement static scoping. The evaluator shares frames that are written while calls are
made, and gives every call an empty frame of its own; the reference has none of these. Yet the
frames that a closure holds are not written once it holds them, so they go on to stand for the
environment that the reference captured.
Main statement: both evaluators have the same outcome.
-/

namespace Bracket

/-- Asking for an argument that may be missing evaluates it if it is there. -/
theorem Evaluator.run_argumentOrUndefined (setting : Setting) (evaluate : Task → Eval Value)
    (call : Call) (position : Nat) :
    run setting evaluate call (Routine.argumentOrUndefined call position) =
      answer setting evaluate call (.argument position) := by
  unfold Routine.argumentOrUndefined
  split
  · exact bind_pure _
  · next missing =>
    have none : call.arguments[position]? = none :=
      List.getElem?_eq_none (Nat.le_of_not_lt missing)
    simp only [answer, none]
    rfl

theorem Evaluator.run_evaluate (setting : Setting) (evaluate : Task → Eval Value) (call : Call)
    (n : Node) (scope : Scope) :
    run setting evaluate call (Routine.evaluate n scope) = evaluate (.node n scope) :=
  bind_pure _

namespace Lexical

variable {α β γ δ : Type}

/-! ### Evaluations that go on alike -/

/-- The outcomes are the same stop, or results that are related. -/
inductive Agree (R : α → β → Prop) : Except Stop α → Except Stop β → Prop
  | ok {a : α} {b : β} (related : R a b) : Agree R (.ok a) (.ok b)
  | stop (stop : Stop) : Agree R (.error stop) (.error stop)

theorem Agree.imp {R S : α → β → Prop} {x : Except Stop α} {y : Except Stop β}
    (agree : Agree R x y) (weaker : ∀ a b, R a b → S a b) : Agree S x y := by
  cases agree with
  | ok related => exact .ok (weaker _ _ related)
  | stop stop => exact .stop stop

/-- The outcomes agree, and the store that is left stands for what is captured; there may be more
pairs than before. -/
def Follows (host : Store) (hidden : Set Nat) (P : Pairing)
    (R : Pairing → Evaluator.State → α → β → Prop) (x : Except Stop α × Evaluator.State)
    (y : Except Stop β × State) : Prop :=
  ∃ Q, P ≤ Q ∧ Sim host hidden Q x.2.store y.2 ∧ Agree (R Q x.2) x.1 y.1

variable {host : Store} {hidden : Set Nat} {P Q : Pairing} {s : Evaluator.State} {s' : State}

namespace Follows

variable {R : Pairing → Evaluator.State → α → β → Prop}
  {S : Pairing → Evaluator.State → γ → δ → Prop}

theorem ok {a : α} {b : β} (sim : Sim host hidden P s.store s') (related : R P s a b) :
    Follows host hidden P R (.ok a, s) (.ok b, s') :=
  ⟨P, le_refl P, sim, .ok related⟩

theorem stop (sim : Sim host hidden P s.store s') (stop : Stop) :
    Follows host hidden P R (.error stop, s) (.error stop, s') :=
  ⟨P, le_refl P, sim, .stop stop⟩

theorem mono {x : Except Stop α × Evaluator.State} {y : Except Stop β × State} (le : P ≤ Q)
    (follows : Follows host hidden Q R x y) : Follows host hidden P R x y := by
  obtain ⟨Q', le', rest⟩ := follows
  exact ⟨Q', le.trans le', rest⟩

theorem reveal {hidden' : Set Nat} {x : Except Stop α × Evaluator.State}
    {y : Except Stop β × State} (follows : Follows host hidden' P R x y)
    (subset : hidden ⊆ hidden') : Follows host hidden P R x y := by
  obtain ⟨Q, le, sim, agree⟩ := follows
  exact ⟨Q, le, sim.reveal subset, agree⟩

/-- What comes after evaluations that go on alike may rely on what they leave. -/
theorem bind {x : Evaluator.Eval α} {y : Eval β} {f : α → Evaluator.Eval γ} {g : β → Eval δ}
    (first : Follows host hidden P R (x s) (y s'))
    (rest : ∀ {Q after after'} {a : α} {b : β}, P ≤ Q → Sim host hidden Q after.store after' →
      R Q after a b → Follows host hidden Q S (f a after) (g b after')) :
    Follows host hidden P S ((x >>= f) s) ((y >>= g) s') := by
  rw [bind_apply, bind_apply]
  obtain ⟨Q, le, sim, agree⟩ := first
  revert sim agree
  generalize x s = outcome, y s' = outcome'
  obtain ⟨result, after⟩ := outcome
  obtain ⟨result', after'⟩ := outcome'
  intro sim agree
  cases agree with
  | stop stop => exact ⟨Q, le, sim, .stop stop⟩
  | ok related => exact (rest le sim related).mono le

end Follows

/-! ### Calls -/

/-- The same expression, or values that are alike. -/
inductive Passed (host : Store) (P : Pairing) : Argument → Argument → Prop
  | node {n : Node} (below : n.Below host.levels.size) : Passed host P (.node n) (.node n)
  | value {v v' : Value} (alike : v.Like (likeness host P) v') :
      Passed host P (.value v) (.value v')

/-- The arguments of the call are those given, and belong to the environment. -/
structure Site (host : Store) (hidden : Set Nat) (P : Pairing) (st : Store) (call : Call)
    (arguments : List Argument) (env : Env) : Prop where
  each : List.Forall₂ (Passed host P) call.arguments arguments
  settled : Settled hidden st call.scope
  finds : Finds host P st call.scope env

/-- The tasks have the same expression, or call alike functions on the same arguments, where the
scope stands for the environment. -/
inductive Stands (host : Store) (hidden : Set Nat) (P : Pairing) (st : Store) :
    Evaluator.Task → Task → Prop
  | node {n : Node} {scope : Scope} {env : Env} (below : n.Below host.levels.size)
      (settled : Settled hidden st scope) (finds : Finds host P st scope env) :
      Stands host hidden P st (.node n scope) (.node n env)
  | call {f f' : Value} {call : Call} {arguments : List Argument} {env : Env}
      (function : f.Like (likeness host P) f') (site : Site host hidden P st call arguments env) :
      Stands host hidden P st (.call f call) (.call f' arguments call.callee env)

/-- The results are alike. -/
abbrev Alike (host : Store) : Pairing → Evaluator.State → Value → Value → Prop :=
  fun Q _ => Value.Like (likeness host Q)

variable {limit fuel : Nat} {now : Date}

/-- With so much fuel, both evaluators go on alike. -/
def Simulated (host : Store) (limit : Nat) (now : Date) (fuel : Nat) : Prop :=
  ∀ {hidden : Set Nat} {P : Pairing} {s : Evaluator.State} {s' : State} {t : Evaluator.Task}
    {t' : Task}, Sim host hidden P s.store s' → Stands host hidden P s.store t t' →
    Follows host hidden P (Alike host) (Evaluator.perform (.standard limit now) fuel t s)
      (perform ⟨limit, now, host⟩ fuel s.depth t' s')

/-- The results of parts are alike, and the parts leave depth and levels as they were at `s`. -/
structure Comes (host : Store) (s : Evaluator.State) (Q : Pairing) (after : Evaluator.State)
    (v v' : Value) : Prop where
  alike : v.Like (likeness host Q) v'
  keeps : s.store.Keeps s.store.levels.size after.store
  depth : after.depth = s.depth

theorem Simulated.part (simulated : Simulated host limit now fuel)
    (sim : Sim host hidden P s.store s') {t : Evaluator.Task} {t' : Task}
    (stands : Stands host hidden P s.store t t') :
    Follows host hidden P (Comes host s) (Evaluator.perform (.standard limit now) fuel t s)
      (perform ⟨limit, now, host⟩ fuel s.depth t' s') := by
  have keeps := Evaluator.perform_keeps limit now fuel t s (Nat.le_refl _)
  have depth := Evaluator.perform_depth (.standard limit now) fuel t s
  obtain ⟨Q, le, sim, agree⟩ := simulated sim stands
  refine ⟨Q, le, sim, ?_⟩
  revert keeps depth agree
  generalize Evaluator.perform (.standard limit now) fuel t s = outcome
  generalize (perform ⟨limit, now, host⟩ fuel s.depth t' s').1 = result'
  obtain ⟨result, after⟩ := outcome
  intro keeps depth agree
  cases agree with
  | stop stop => exact .stop stop
  | ok alike => exact .ok ⟨alike, keeps, depth⟩

theorem Site.later {st st' : Store} {call : Call} {arguments : List Argument} {env : Env}
    (site : Site host hidden P st call arguments env) (le : P ≤ Q) (spares : Spares hidden st st') :
    Site host hidden Q st' call arguments env where
  each := site.each.imp fun _ _ passed => by
    cases passed with
    | node below => exact .node below
    | value alike => exact .value (alike.mono (likeness_mono le))
  settled := site.settled.grow spares.size_le
  finds := (site.finds.later site.settled spares).mono le

section Calls

variable {call : Call} {arguments : List Argument} {env : Env} {depth : Nat}

/-- An argument has alike values on both sides. -/
theorem argument_follows (simulated : Simulated host limit now fuel)
    (sim : Sim host hidden P s.store s')
    (site : Site host hidden P s.store call arguments env) (position : Nat) :
    Follows host hidden P (Comes host s)
      (Evaluator.answer (.standard limit now) (Evaluator.perform (.standard limit now) fuel) call
        (.argument position) s)
      (argument (perform ⟨limit, now, host⟩ fuel s.depth) arguments env position s') := by
  have passed := forall₂_getElem? site.each position
  have here {v v' : Value} (alike : v.Like (likeness host P) v') :
      Follows host hidden P (Comes host s) (.ok v, s) (.ok v', s') :=
    .ok sim ⟨alike, .refl _ _, rfl⟩
  unfold argument
  simp only [Evaluator.answer]
  revert passed
  generalize call.arguments[position]? = given, arguments[position]? = given'
  intro passed
  cases passed with
  | none => exact here .undefined
  | some passed =>
    cases passed with
    | node below => exact simulated.part sim (.node below site.settled site.finds)
    | value alike => exact here alike

/-- Native code goes on alike. -/
theorem run_follows (simulated : Simulated host limit now fuel)
    {R : Likeness → α → β → Prop} {C : Likeness} {r : Routine α} {r' : Routine β}
    (alike : r.Alike R C r') (same : C = likeness host P) (sim : Sim host hidden P s.store s')
    (site : Site host hidden P s.store call arguments env) (level : s.depth = depth) :
    Follows host hidden P (fun Q _ => R (likeness host Q))
      (Evaluator.run (.standard limit now) (Evaluator.perform (.standard limit now) fuel) call r s)
      (run ⟨limit, now, host⟩ (perform ⟨limit, now, host⟩ fuel depth) arguments call.callee env
        r' s') := by
  induction alike generalizing P s s' with
  | done related =>
    subst same
    exact .ok sim related
  | fail e => exact .stop sim (.error e)
  | argument position later ih =>
    subst same level
    refine (argument_follows simulated sim site position).bind fun le sim' comes => ?_
    exact ih _ (likeness_mono le) _ _ comes.alike rfl sim'
      (site.later le (.of_keeps comes.keeps)) comes.depth
  | @invoke C f f' values values' next next' function each later ih =>
    subst same level
    have passed : List.Forall₂ (Passed host P) (values.map .value) (values'.map .value) := by
      rw [List.forall₂_map_left_iff, List.forall₂_map_right_iff]
      exact each.imp fun _ _ alike => .value alike
    have inner : Site host hidden P s.store ⟨call.scope, values.map .value, call.callee⟩
        (values'.map .value) env := ⟨passed, site.settled, site.finds⟩
    refine (simulated.part sim (.call function inner)).bind fun le sim' comes => ?_
    exact ih _ (likeness_mono le) _ _ comes.alike rfl sim'
      (site.later le (.of_keeps comes.keeps)) comes.depth
  | reserve count later ih =>
    subst same
    have reserved : (likeness host P).Reserved count s.store.nextId s'.nextId := by
      intro i _
      exact congrArg (· + i) sim.nextId.symm
    exact ih _ (Likeness.le_refl _) _ _ reserved rfl (sim.reserve count)
      (site.later (le_refl P) (.of_keeps (.reserve count))) level
  | now later ih => exact ih now same sim site level

/-- Binding the parameters in a level that is hidden extends the environment that the scope of that
level stands for. -/
theorem bindParameters_follows (simulated : Simulated host limit now fuel) {inner : Scope}
    (inside : inner.level ∈ hidden) (params : List String) (position : Nat) {extended : Env}
    (sim : Sim host hidden P s.store s') (site : Site host hidden P s.store call arguments env)
    (made : inner.Below s.store.levels.size) (finds : Finds host P s.store inner extended)
    (level : s.depth = depth) :
    Follows host hidden P
      (fun Q after (_ : Unit) bound => Finds host Q after.store inner bound ∧
        inner.Below after.store.levels.size ∧ after.depth = depth)
      (Evaluator.run (.standard limit now) (Evaluator.perform (.standard limit now) fuel) call
        (Bracket.bindParameters call inner position params) s)
      (bindParameters (perform ⟨limit, now, host⟩ fuel depth) arguments env position params
        extended s') := by
  induction params generalizing P s s' position extended with
  | nil => exact .ok sim ⟨finds, made, level⟩
  | cons param params ih =>
    subst level
    rw [Bracket.bindParameters, Evaluator.run_bind, Evaluator.run_argumentOrUndefined]
    refine (argument_follows simulated sim site position).bind
      fun {Q after after' v v'} le sim' comes => ?_
    -- the argument leaves even the hidden level alone, so what is bound so far is still there
    have made' : inner.Below after.store.levels.size :=
      fun l member => Nat.lt_of_lt_of_le (made l member) comes.keeps.size_le
    have finds' : Finds host Q after.store inner extended :=
      (finds.congr fun l member => comes.keeps.locals l (made l member)).mono le
    have spares : Spares hidden after.store (after.store.assign inner param v) :=
      .assign inside param v
    exact ih (position + 1) (s := { after with store := after.store.assign inner param v })
      (sim'.later spares rfl)
      ((site.later le (.of_keeps comes.keeps)).later (le_refl Q) spares)
      (fun l member => Nat.lt_of_lt_of_le (made' l member) spares.size_le)
      (finds'.assign (made' _ List.mem_cons_self) param comes.alike) comes.depth

/-- A closure goes on alike where it was made in scopes that are paired. -/
theorem applyClosure_follows (simulated : Simulated host limit now fuel)
    (params : List String) {body : Option Node} {scope scope' : Scope}
    (below : ∀ n ∈ body, n.Below host.levels.size) (paired : P scope scope')
    (sim : Sim host hidden P s.store s') (site : Site host hidden P s.store call arguments env)
    (level : s.depth = depth) :
    Follows host hidden P (Alike host)
      (Evaluator.run (.standard limit now) (Evaluator.perform (.standard limit now) fuel) call
        (Bracket.applyClosure params body scope call) s)
      (applyClosure (perform ⟨limit, now, host⟩ fuel depth) params body
        (envOf host s'.captured scope') arguments env s') := by
  -- the level that is made for the parameters stays hidden as long as arguments are evaluated,
  -- for these may capture scopes; the body is evaluated when the level is written no more
  have settled := (sim.settled paired).newScope sim.hidden_lt
  have spares : Spares hidden s.store (s.store.newScope (some scope)).2 :=
    .of_keeps (.newScope (Nat.le_refl _) _)
  have site' : Site host (insert s.store.levels.size hidden) P
      (s.store.newScope (some scope)).2 call arguments env :=
    { site.later (le_refl P) spares with settled := site.settled.hide _ }
  have bound := bindParameters_follows simulated (Set.mem_insert _ _) params 0
    (s := { s with store := (s.store.newScope (some scope)).2 }) (sim.hide (some scope)) site'
    (fun l member => (settled l member).1) (sim.finds paired).newScope level
  change Follows host hidden P (Alike host) (Evaluator.run _ _ call
    (Bracket.bindParameters call (s.store.newScope (some scope)).1 0 params >>= _)
    { s with store := (s.store.newScope (some scope)).2 }) _
  rw [Evaluator.run_bind]
  refine (bound.reveal (Set.subset_insert _ _)).bind
    fun {Q after after' _ extended} le sim' found => ?_
  obtain ⟨finds, made, rfl⟩ := found
  cases body with
  | none => exact .ok sim' .undefined
  | some n =>
    have settled' : Settled hidden after.store (s.store.newScope (some scope)).1 :=
      fun l member => ⟨made l member, (settled l member).2⟩
    have result := simulated sim' (.node (below n rfl) settled' finds)
    rwa [← Evaluator.run_evaluate (.standard limit now)
      (Evaluator.perform (.standard limit now) fuel) call] at result

/-- A call goes on alike. -/
theorem call_follows (simulated : Simulated host limit now fuel) {f f' : Value}
    (function : f.Like (likeness host P) f') (sim : Sim host hidden P s.store s')
    (site : Site host hidden P s.store call arguments env) :
    Follows host hidden P (Alike host)
      (Evaluator.step (.standard limit now) (Evaluator.perform (.standard limit now) fuel)
        (.call f call) s)
      (step ⟨limit, now, host⟩ (perform ⟨limit, now, host⟩ fuel) s.depth
        (.call f' arguments call.callee env) s') := by
  have self := function
  cases function with
  | @function id id' procedure procedure' ids alike =>
    cases alike with
    | native name alike each =>
      have same : call.Like ⟨⟨0, []⟩, arguments, call.callee⟩ := ⟨site.each.length_eq.symm, rfl⟩
      have routine := Code.routine_alike (fun _ member => absurd member List.not_mem_nil) alike same
      exact run_follows simulated routine rfl sim site rfl
    | closure params same =>
      obtain ⟨rfl, below, paired⟩ := same
      have empty : arguments.isEmpty = call.arguments.isEmpty := by
        rw [Bool.eq_iff_iff, List.isEmpty_iff_length_eq_zero, List.isEmpty_iff_length_eq_zero,
          site.each.length_eq]
      change Follows host hidden P (Alike host)
        (Evaluator.run _ _ call (if params ≠ [] ∧ call.arguments.isEmpty then _ else _) s)
        ((if params ≠ [] ∧ arguments.isEmpty then _ else _ : Eval Value) s')
      rw [empty]
      split
      · exact .ok sim self
      · exact applyClosure_follows simulated params below paired sim site rfl
  | _ => exact .stop sim _

end Calls

section Expressions

variable {scope : Scope} {env : Env} {depth : Nat}

theorem leaf_follows (sim : Sim host hidden P s.store s') (finds : Finds host P s.store scope env)
    (mark : Mark) {literal : Literal} (below : (Node.leaf mark literal).Below host.levels.size) :
    Follows host hidden P (Alike host) (Evaluator.leaf mark scope literal s)
      (.ok (leaf mark env literal), s') := by
  cases literal with
  | string s => exact .ok sim (.string s)
  | number n => exact .ok sim (.number n)
  | boolean b => exact .ok sim (.bool b)
  | null => exact .ok sim .null
  | undefined => exact .ok sim .undefined
  | keyword v => exact .ok sim (sim.like_self below.of_keyword)
  | identifier => exact .ok sim (Value.Like.getD (finds mark.text))

/-- A name is bound on both sides or on neither. -/
theorem Finds.isSome_eq {st : Store} (finds : Finds host P st scope env) (name : String) :
    (st.get? scope name).isSome = (env name).isSome := by
  have found := finds name
  revert found
  generalize st.get? scope name = v, env name = v'
  intro found
  cases found <;> rfl

theorem Finds.isUnbound_eq {st : Store} (finds : Finds host P st scope env) (callee : Node) :
    isUnbound env callee = Evaluator.isUnbound st scope callee := by
  cases callee with
  | leaf mark literal =>
    cases literal with
    | identifier => simp [isUnbound, Evaluator.isUnbound, Store.contains, finds.isSome_eq]
    | _ => rfl
  | _ => rfl

/-- A callee that is no function stands alone on both sides. -/
theorem group_follows (sim : Sim host hidden P s.store s') (finds : Finds host P s.store scope env)
    (callee : Node) (rest : List Node) {f f' : Value} (alike : f.Like (likeness host P) f') :
    Follows host hidden P (Alike host)
      ((do
        let unbound ← Evaluator.withStore fun st => (Evaluator.isUnbound st scope callee, st)
        if unbound then Evaluator.fail (.unknownFunction callee.mark.text)
        else if rest.isEmpty then pure f
        else Evaluator.fail (.notCallable callee.text) : Evaluator.Eval Value) s)
      (group env callee rest f' s') := by
  change Follows host hidden P (Alike host)
    ((if Evaluator.isUnbound s.store scope callee then _ else _ : Evaluator.Eval Value) s) _
  rw [group, finds.isUnbound_eq]
  split
  · exact .stop sim _
  · split
    · exact .ok sim alike
    · exact .stop sim _

/-- An expression goes on alike. -/
theorem dispatch_follows (simulated : Simulated host limit now fuel)
    (sim : Sim host hidden P s.store s') {n : Node} (below : n.Below host.levels.size)
    (settled : Settled hidden s.store scope) (finds : Finds host P s.store scope env) :
    Follows host hidden P (Alike host)
      (Evaluator.dispatch (Evaluator.perform (.standard limit now) fuel) scope n s)
      (dispatch ⟨limit, now, host⟩ (perform ⟨limit, now, host⟩ fuel s.depth) env n s') := by
  cases n with
  | leaf mark literal => exact leaf_follows sim finds mark below
  | function mark children =>
    have sim' := (sim.reserve 1).capture settled (finds.congr fun _ _ => rfl)
    have inside : ∀ n ∈ children.getLast?, n.Below host.levels.size :=
      fun n last => below.of_function n (List.mem_of_getLast? last)
    refine ⟨_, P.le_add _ _, sim', .ok (.function sim.nextId.symm (.closure _ ⟨rfl, inside, ?_⟩))⟩
    exact .inr ⟨rfl, rfl⟩
  | member mark target name =>
    refine (simulated.part sim (.node below.of_member settled finds)).bind fun _ sim' comes => ?_
    exact .ok sim' (Value.Like.getD (comes.alike.property? name.text))
  | call mark children =>
    cases children with
    | nil => exact .stop sim _
    | cons callee rest =>
      -- the reference has no frame for the call: the new one is empty and stays so
      have each := below.of_call
      have first := simulated.part (s := { s with store := (s.store.newScope (some scope)).2 })
        (sim.newScope (some scope))
        (.node (each callee List.mem_cons_self) (settled.newScope sim.hidden_lt) finds.newScope)
      refine first.bind fun {Q after after' f f'} le sim' comes => ?_
      have spares : Spares hidden (s.store.newScope (some scope)).2 after.store :=
        .of_keeps comes.keeps
      have passed : List.Forall₂ (Passed host P) (rest.map .node) (rest.map .node) := by
        rw [List.forall₂_map_left_iff, List.forall₂_map_right_iff, List.forall₂_same]
        exact fun n member => .node (each n (List.mem_cons_of_mem _ member))
      have site : Site host hidden Q after.store ⟨(s.store.newScope (some scope)).1,
          rest.map .node, some (.call mark (callee :: rest))⟩ (rest.map .node) env :=
        Site.later ⟨passed, settled.newScope sim.hidden_lt, finds.newScope⟩ le spares
      have alike := comes.alike
      cases alike with
      | function ids procedures =>
        have call := simulated sim' (.call comes.alike site)
        rwa [comes.depth] at call
      | _ => exact group_follows sim' site.finds callee rest comes.alike

end Expressions

/-- Both evaluators go on alike, whatever the fuel. -/
theorem perform_simulated (host : Store) (limit : Nat) (now : Date) (fuel : Nat) :
    Simulated host limit now fuel := by
  induction fuel with
  | zero => exact fun sim _ => .stop sim .outOfFuel
  | succ fuel ih =>
    intro hidden P s s' t t' sim stands
    rw [Evaluator.perform, perform]
    cases stands with
    | call function site => exact call_follows ih function sim site
    | node below settled finds =>
      rw [Evaluator.step, step, Evaluator.deeper]
      split
      · exact .stop sim _
      · exact dispatch_follows ih (s := { s with depth := s.depth + 1 }) sim below settled finds

/-! ### The outcomes -/

/-- The likeness that compares closures by their bodies, beside the parameters. -/
def sameBodies : Likeness where
  ids := Eq
  closures body _ body' _ := body' = body
  ids_iff := @Likeness.eq_iff_eq
  text_eq := by
    rintro body body' scope scope' rfl
    rfl

/-- At first the scopes of the host are paired with themselves. -/
def start (host : Store) : Pairing :=
  fun scope scope' => scope' = scope ∧ scope.Below host.levels.size

theorem start_finds {host : Store} (closed : ∀ l, (host.locals l).Below host.levels.size)
    (scope : Scope) : Finds host (start host) host scope (host.get? scope) := by
  intro name
  cases found : host.get? scope name with
  | none => exact .none
  | some v =>
    have below := Store.below_of_get? closed found
    exact .some (below.like_self (C := likeness host (start host)) (fun _ => rfl)
      fun _ scope inside low => ⟨rfl, inside, rfl, low⟩)

theorem start_sim {host : Store} (closed : ∀ l, (host.locals l).Below host.levels.size) :
    Sim host ∅ (start host) host ⟨[], host.nextId⟩ where
  nextId := rfl
  hidden_lt l inside := absurd inside (Set.notMem_empty l)
  own scope low := ⟨rfl, low⟩
  settled := by
    rintro scope _ ⟨rfl, low⟩ l member
    exact ⟨low l member, Set.notMem_empty l⟩
  finds := by
    rintro _ scope ⟨rfl, low⟩
    rw [envOf, if_pos (low _ List.mem_cons_self)]
    exact start_finds closed scope
  taken := by
    rintro scope _ ⟨rfl, low⟩
    exact low _ List.mem_cons_self

/-- The evaluator implements static scoping. With the standard library alone, an expression in a
scope of a store that holds no other scopes than its own has the same outcome as by static scoping
in the environment that the scope stands for, at every depth and whatever the limit: the same error,
or the same value, where functions are compared by their names, parameters and bodies. One of the
two finishes with so much fuel exactly if the other does. -/
theorem perform_lexical {host : Store} {n : Node} {scope : Scope}
    (closed : ∀ l, (host.locals l).Below host.levels.size) (below : n.Below host.levels.size)
    (made : scope.Below host.levels.size) (limit : Nat) (now : Date) (depth fuel : Nat) :
    Agree (Value.Like sameBodies)
      (Evaluator.perform (.standard limit now) fuel (.node n scope) ⟨host, depth⟩).1
      (perform ⟨limit, now, host⟩ fuel depth (.node n (host.get? scope)) ⟨[], host.nextId⟩).1 := by
  have stands : Stands host ∅ (start host) host (.node n scope) (.node n (host.get? scope)) :=
    .node below (fun l member => ⟨made l member, Set.notMem_empty l⟩) (start_finds closed scope)
  obtain ⟨Q, -, -, agree⟩ :=
    perform_simulated host limit now fuel (s := ⟨host, depth⟩) (start_sim closed) stands
  have le : likeness host Q ≤ sameBodies := ⟨fun _ _ => id, fun _ _ _ _ same => same.1⟩
  exact agree.imp fun _ _ alike => alike.mono le

/-- The body of a closure that was returned from the call that made it sees the parameter of that
call, not the variable of the same name where the closure is called. -/
theorem perform_lexical_returned :
    let host : Store := { levels := #[[("x", .bool true)]] }
    let x : Node := .leaf ⟨"x", 0⟩ .identifier
    let y : Node := .leaf ⟨"y", 0⟩ .identifier
    let nothing : Node := .leaf ⟨"null", 0⟩ .null
    let maker : Node := .function ⟨"\x7b", 0⟩ [x, .function ⟨"\x7b", 0⟩ [y, x]]
    let n : Node := .call ⟨"(", 0⟩ [.call ⟨"(", 0⟩ [maker, nothing], x]
    (∀ l, (host.locals l).Below host.levels.size) ∧ n.Below host.levels.size ∧
      Scope.Below host.levels.size ⟨0, []⟩ ∧
      (Evaluator.perform (.standard 256 ⟨0, 0, 0⟩) 9 (.node n ⟨0, []⟩) ⟨host, 0⟩).1 =
        .ok .null := by
  intro host x y nothing maker n
  have closed : ∀ l, (host.locals l).Below host.levels.size := by
    rintro (_ | l) entry member
    · obtain rfl := List.mem_singleton.mp member
      exact fun _ _ => rfl
    · cases member
  have below : n.Below host.levels.size := fun _ _ => rfl
  have made : Scope.Below host.levels.size ⟨0, []⟩ := by decide
  have agree := perform_lexical closed below made 256 ⟨0, 0, 0⟩ 0 9
  have result : (perform ⟨256, ⟨0, 0, 0⟩, host⟩ 9 0 (.node n (host.get? ⟨0, []⟩))
    ⟨[], host.nextId⟩).1 = .ok .null := rfl
  refine ⟨closed, below, made, ?_⟩
  rw [result] at agree
  generalize (Evaluator.perform _ _ _ _).1 = outcome at agree ⊢
  cases agree with
  | ok alike =>
    cases alike
    rfl

end Lexical

end Bracket
