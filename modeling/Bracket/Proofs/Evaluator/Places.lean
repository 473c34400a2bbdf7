import Bracket.Proofs.Lexical.Simulation
import Bracket.Proofs.Placement

/-!
Evaluation does not look at places. An expression keeps the place of its source, and so do the
bodies of the closures that it makes; but no value, no error and no number depends on it. The
bodies that a run has elsewhere are those of the text that stands elsewhere, while the closures that
were there before keep their places; so what may be moved is a set of ways to move it.
Main statement: the same expressions elsewhere have the same outcome but for the places in closures.
-/

namespace Bracket

/-! ### The same elsewhere -/

namespace Node

mutual

theorem place_id : (n : Node) → n.place id = n
  | .leaf mark l => rfl
  | .call mark children => by
    rw [place, placeAll_id children]
    rfl
  | .function mark children => by
    rw [place, placeAll_id children]
    rfl
  | .member mark target name => by
    rw [place, place_id target]
    rfl

theorem placeAll_id : (nodes : List Node) → placeAll id nodes = nodes
  | [] => rfl
  | n :: rest => by rw [placeAll, place_id n, placeAll_id rest]

end

theorem text_mark_place (f : Nat → Nat) (n : Node) : (n.place f).mark.text = n.mark.text := by
  cases n <;> rfl

end Node

/-- Numbers and scopes are the same, and bodies of closures are moved in one of the given ways. -/
def Likeness.moved (ways : Set (Nat → Nat)) : Likeness where
  ids i i' := i = i'
  closures body scope body' scope' :=
    scope' = scope ∧ ∃ f ∈ ways, body' = body.map (Node.place f)
  ids_iff := eq_iff_eq
  text_eq := by
    rintro body _ scope _ ⟨rfl, f, -, rfl⟩
    cases body with
    | none => rfl
    | some n => exact congrArg some (n.text_place f)

variable {ways : Set (Nat → Nat)}

/-- What is not moved is alike to itself. -/
theorem Value.like_moved (still : id ∈ ways) (v : Value) : v.Like (.moved ways) v := by
  have le : Likeness.renaming id ≤ .moved ways := by
    refine ⟨fun _ _ same => same, ?_⟩
    rintro body scope _ _ ⟨rfl, rfl⟩
    refine ⟨Scope.rename_id scope, id, still, ?_⟩
    cases body with
    | none => rfl
    | some n => rw [Option.map_some, Option.map_some, Node.rename_id, Node.place_id]
  have own := (Value.like_rename (ρ := id) v).mono le
  rwa [Value.rename_id] at own

namespace Evaluator

open Lexical (Agree)

/-- The states differ in the places of closures alone. -/
structure State.Moved (ways : Set (Nat → Nat)) (s s' : State) : Prop where
  depth : s'.depth = s.depth
  next : s'.store.nextId = s.store.nextId
  size : s'.store.levels.size = s.store.levels.size
  locals : ∀ l, Table.Like (.moved ways) (s.store.locals l) (s'.store.locals l)

variable {α β γ δ : Type} {s s' : State}

namespace State.Moved

theorem refl (still : id ∈ ways) (s : State) : State.Moved ways s s where
  depth := rfl
  next := rfl
  size := rfl
  locals _ := List.forall₂_same.mpr fun entry _ => .mk entry.1 (Value.like_moved still entry.2)

theorem atDepth (moved : State.Moved ways s s') (depth : Nat) :
    State.Moved ways { s with depth } { s' with depth } :=
  { moved with depth := rfl }

theorem get? (moved : State.Moved ways s s') (scope : Scope) (name : String) :
    Option.Rel (Value.Like (.moved ways)) (s.store.get? scope name) (s'.store.get? scope name) := by
  unfold Store.get?
  induction scope.level :: scope.outer with
  | nil => exact .none
  | cons level outer ih =>
    have found := (moved.locals level).get? name
    rw [Store.search?, Store.search?]
    revert found
    generalize (s.store.locals level).get? name = v, (s'.store.locals level).get? name = v'
    intro found
    cases found with
    | none => exact ih
    | some alike => exact .some alike

theorem contains_eq (moved : State.Moved ways s s') (scope : Scope) (name : String) :
    s'.store.contains scope name = s.store.contains scope name := by
  have found := moved.get? scope name
  unfold Store.contains
  revert found
  generalize s.store.get? scope name = v, s'.store.get? scope name = v'
  intro found
  cases found <;> rfl

theorem newScope_fst (moved : State.Moved ways s s') (outer : Option Scope) :
    (s'.store.newScope outer).1 = (s.store.newScope outer).1 := by
  simp only [Store.newScope, moved.size]

theorem newScope (moved : State.Moved ways s s') (outer : Option Scope) :
    State.Moved ways { s with store := (s.store.newScope outer).2 }
      { s' with store := (s'.store.newScope outer).2 } where
  depth := moved.depth
  next := moved.next
  size := by simp only [Store.newScope, Array.size_push, moved.size]
  locals l := by
    rw [Store.locals_newScope_eq, Store.locals_newScope_eq]
    exact moved.locals l

theorem reserve (moved : State.Moved ways s s') (count : Nat) :
    State.Moved ways { s with store := (s.store.reserve count).2 }
      { s' with store := (s'.store.reserve count).2 } where
  depth := moved.depth
  next := congrArg (· + count) moved.next
  size := moved.size
  locals := moved.locals

theorem assign (moved : State.Moved ways s s') (scope : Scope) (name : String) {v v' : Value}
    (alike : v.Like (.moved ways) v') :
    State.Moved ways { s with store := s.store.assign scope name v }
      { s' with store := s'.store.assign scope name v' } where
  depth := moved.depth
  next := moved.next
  size := by simp only [Store.assign, Array.size_modify, moved.size]
  locals l := by
    by_cases same : scope.level = l
    · subst same
      rw [Store.locals_assign_self, Store.locals_assign_self, moved.size]
      split
      · exact (moved.locals scope.level).insert name alike
      · exact .nil
    · rw [Store.locals_assign_of_ne _ _ _ _ same, Store.locals_assign_of_ne _ _ _ _ same]
      exact moved.locals l

end State.Moved

/-! ### Outcomes -/

/-- The outcomes agree, and so do the states but for places. -/
structure MovesOn (ways : Set (Nat → Nat)) (R : α → β → Prop) (x : Except Stop α × State)
    (y : Except Stop β × State) : Prop where
  moved : State.Moved ways x.2 y.2
  agree : Agree R x.1 y.1

theorem MovesOn.ok {R : α → β → Prop} {a : α} {b : β} (moved : State.Moved ways s s')
    (related : R a b) : MovesOn ways R (.ok a, s) (.ok b, s') :=
  ⟨moved, .ok related⟩

theorem MovesOn.stop {R : α → β → Prop} (moved : State.Moved ways s s') (stop : Stop) :
    MovesOn ways R (.error stop, s) (.error stop, s') :=
  ⟨moved, .stop stop⟩

theorem MovesOn.bind {R : α → β → Prop} {S : γ → δ → Prop} {x : Eval α} {y : Eval β}
    {f : α → Eval γ} {g : β → Eval δ} (first : MovesOn ways R (x s) (y s'))
    (rest : ∀ {after after' : State} {a : α} {b : β}, State.Moved ways after after' → R a b →
      MovesOn ways S (f a after) (g b after')) :
    MovesOn ways S ((x >>= f) s) ((y >>= g) s') := by
  rw [bind_apply, bind_apply]
  obtain ⟨moved, agree⟩ := first
  revert moved agree
  generalize x s = outcome, y s' = outcome'
  obtain ⟨result, after⟩ := outcome
  obtain ⟨result', after'⟩ := outcome'
  intro moved agree
  cases agree with
  | stop stop => exact .stop moved stop
  | ok related => exact rest moved related

/-! ### Tasks -/

/-- The same expression elsewhere, or values that are alike. -/
inductive Elsewhere (ways : Set (Nat → Nat)) : Argument → Argument → Prop
  | node (n : Node) {f : Nat → Nat} (way : f ∈ ways) :
      Elsewhere ways (.node n) (.node (n.place f))
  | value {v v' : Value} (alike : v.Like (.moved ways) v') : Elsewhere ways (.value v) (.value v')

/-- The calls differ in places alone. -/
structure Transposed (ways : Set (Nat → Nat)) (call call' : Call) : Prop where
  scope : call'.scope = call.scope
  callee : call'.callee.map Node.text = call.callee.map Node.text
  each : List.Forall₂ (Elsewhere ways) call.arguments call'.arguments

theorem Transposed.like {call call' : Call} (transposed : Transposed ways call call') :
    call.Like call' where
  size := transposed.each.length_eq.symm
  calleeText := by
    have texts := transposed.callee
    unfold Call.calleeText
    cases callee : call.callee <;> cases callee' : call'.callee <;> simp_all

/-- The tasks differ in places alone. -/
inductive Corresponding (ways : Set (Nat → Nat)) : Task → Task → Prop
  | node (n : Node) {f : Nat → Nat} (way : f ∈ ways) (scope : Scope) :
      Corresponding ways (.node n scope) (.node (n.place f) scope)
  | call {f f' : Value} {call call' : Call} (function : f.Like (.moved ways) f')
      (transposed : Transposed ways call call') :
      Corresponding ways (.call f call) (.call f' call')

variable {limit fuel : Nat} {now : Date} {evaluate : Task → Eval Value}

/-- Tasks that differ in places alone have the same outcome but for places. -/
def IgnoresPlaces (ways : Set (Nat → Nat)) (evaluate : Task → Eval Value) : Prop :=
  ∀ {t t' : Task} {s s' : State}, State.Moved ways s s' → Corresponding ways t t' →
    MovesOn ways (Value.Like (.moved ways)) (evaluate t s) (evaluate t' s')

section Calls

variable {call call' : Call}

theorem answer_argument_moves (ignores : IgnoresPlaces ways evaluate)
    (transposed : Transposed ways call call') (moved : State.Moved ways s s') (position : Nat) :
    MovesOn ways (Value.Like (.moved ways))
      (answer (.standard limit now) evaluate call (.argument position) s)
      (answer (.standard limit now) evaluate call' (.argument position) s') := by
  have passed := forall₂_getElem? transposed.each position
  simp only [answer]
  revert passed
  generalize call.arguments[position]? = argument, call'.arguments[position]? = argument'
  intro passed
  cases passed with
  | none => exact .ok moved .undefined
  | some passed =>
    cases passed with
    | value alike => exact .ok moved alike
    | node n way =>
      dsimp only
      rw [transposed.scope]
      exact ignores moved (.node n way call.scope)

/-- Native code has the same outcome but for places. -/
theorem run_moves (ignores : IgnoresPlaces ways evaluate)
    (transposed : Transposed ways call call') {R : Likeness → α → β → Prop} {r : Routine α}
    {r' : Routine β} (alike : r.Alike R (.moved ways) r') (moved : State.Moved ways s s') :
    MovesOn ways (R (.moved ways)) (run (.standard limit now) evaluate call r s)
      (run (.standard limit now) evaluate call' r' s') := by
  generalize same : Likeness.moved ways = C at alike
  induction alike generalizing s s' with
  | done related =>
    subst same
    exact .ok moved related
  | fail e => exact .stop moved (.error e)
  | argument position _ ih =>
    subst same
    refine (answer_argument_moves ignores transposed moved position).bind
      fun {after after' v v'} moved' alike => ?_
    exact ih _ (Likeness.le_refl _) v v' alike moved' rfl
  | @invoke C f f' values values' next next' function each _ ih =>
    subst same
    have passed : List.Forall₂ (Elsewhere ways) (values.map .value) (values'.map .value) := by
      rw [List.forall₂_map_left_iff, List.forall₂_map_right_iff]
      exact each.imp fun _ _ alike => .value alike
    have inner : Transposed ways ⟨call.scope, values.map .value, call.callee⟩
        ⟨call'.scope, values'.map .value, call'.callee⟩ :=
      ⟨transposed.scope, transposed.callee, passed⟩
    refine (ignores moved (.call function inner)).bind fun {after after' v v'} moved' alike => ?_
    exact ih _ (Likeness.le_refl _) v v' alike moved' rfl
  | reserve count _ ih =>
    subst same
    refine ih _ (Likeness.le_refl _) _ _ ?_ (moved.reserve count) rfl
    intro k _
    exact congrArg (· + k) moved.next.symm
  | now _ ih => exact ih now moved same

theorem bindParameters_moves (ignores : IgnoresPlaces ways evaluate)
    (transposed : Transposed ways call call') (inner : Scope) (params : List String)
    (position : Nat) (moved : State.Moved ways s s') :
    MovesOn ways (fun _ _ : Unit => True)
      (run (.standard limit now) evaluate call (bindParameters call inner position params) s)
      (run (.standard limit now) evaluate call' (bindParameters call' inner position params)
        s') := by
  induction params generalizing s s' position with
  | nil => exact .ok moved trivial
  | cons param params ih =>
    rw [bindParameters, bindParameters, run_bind, run_bind, run_argumentOrUndefined,
      run_argumentOrUndefined]
    refine (answer_argument_moves ignores transposed moved position).bind
      fun {after after' v v'} moved' alike => ?_
    exact ih (position + 1) (moved'.assign inner param alike)

/-- Closures whose bodies stand elsewhere have the same outcome but for places. -/
theorem applyClosure_moves (ignores : IgnoresPlaces ways evaluate)
    (transposed : Transposed ways call call') (params : List String) (body : Option Node)
    {f : Nat → Nat} (way : f ∈ ways) (env : Scope) (moved : State.Moved ways s s') :
    MovesOn ways (Value.Like (.moved ways))
      (run (.standard limit now) evaluate call (applyClosure params body env call) s)
      (run (.standard limit now) evaluate call'
        (applyClosure params (body.map (Node.place f)) env call') s') := by
  change MovesOn ways _
    (run _ _ call (bindParameters call (s.store.newScope (some env)).1 0 params >>= _)
      { s with store := (s.store.newScope (some env)).2 })
    (run _ _ call' (bindParameters call' (s'.store.newScope (some env)).1 0 params >>= _)
      { s' with store := (s'.store.newScope (some env)).2 })
  rw [run_bind, run_bind, moved.newScope_fst (some env)]
  refine (bindParameters_moves ignores transposed _ params 0 (moved.newScope (some env))).bind
    fun moved' _ => ?_
  cases body with
  | none => exact .ok moved' .undefined
  | some n =>
    dsimp only [Option.map_some]
    rw [run_evaluate, run_evaluate, moved.size]
    exact ignores moved' (.node n way _)

theorem call_moves (ignores : IgnoresPlaces ways evaluate) (transposed : Transposed ways call call')
    {f f' : Value} (function : f.Like (.moved ways) f') (moved : State.Moved ways s s') :
    MovesOn ways (Value.Like (.moved ways))
      (step (.standard limit now) evaluate (.call f call) s)
      (step (.standard limit now) evaluate (.call f' call') s') := by
  have self := function
  cases function with
  | function ids alike =>
    cases alike with
    | native name alike each =>
      have routines := Code.routine_alike (fun _ member => absurd member List.not_mem_nil) alike
        transposed.like
      exact run_moves ignores transposed routines moved
    | @closure params body _ env _ same =>
      obtain ⟨rfl, f, way, rfl⟩ := same
      rw [step, step, Procedure.routine, Procedure.routine, transposed.like.isEmpty]
      split
      · exact .ok moved self
      · exact applyClosure_moves ignores transposed params body way _ moved
  | _ => exact .stop moved _

end Calls

/-! ### Expressions -/

theorem isUnbound_place (moved : State.Moved ways s s') (scope : Scope) (f : Nat → Nat)
    (callee : Node) :
    isUnbound s'.store scope (callee.place f) = isUnbound s.store scope callee := by
  cases callee with
  | leaf mark literal =>
    cases literal with
    | identifier => exact congrArg (!·) (moved.contains_eq scope mark.text)
    | _ => rfl
  | _ => rfl

/-- A callee that is no function stands alone, wherever it is. -/
theorem group_moves (moved : State.Moved ways s s') (scope : Scope) (f : Nat → Nat)
    (callee : Node) (rest : List Node) {v v' : Value} (alike : v.Like (.moved ways) v') :
    MovesOn ways (Value.Like (.moved ways))
      ((do
        let unbound ← withStore fun st => (isUnbound st scope callee, st)
        if unbound then fail (.unknownFunction callee.mark.text)
        else if rest.isEmpty then pure v
        else fail (.notCallable callee.text) : Eval Value) s)
      ((do
        let unbound ← withStore fun st => (isUnbound st scope (callee.place f), st)
        if unbound then fail (.unknownFunction (callee.place f).mark.text)
        else if (rest.map (Node.place f)).isEmpty then pure v'
        else fail (.notCallable (callee.place f).text) : Eval Value) s') := by
  change MovesOn ways _
    ((if isUnbound s.store scope callee then _ else _ : Eval Value) s)
    ((if isUnbound s'.store scope (callee.place f) then _ else _ : Eval Value) s')
  rw [isUnbound_place moved, callee.text_mark_place, callee.text_place, List.isEmpty_map]
  split
  · exact .stop moved _
  · split
    · exact .ok moved alike
    · exact .stop moved _

theorem closure_moves (children : List Node) {f : Nat → Nat} (way : f ∈ ways) (scope : Scope) :
    (closure children scope).Like (.moved ways) (closure (children.map (Node.place f)) scope) := by
  have params : (children.map (Node.place f)).dropLast.map (fun param => param.mark.text) =
      children.dropLast.map fun param => param.mark.text := by
    rw [← List.map_dropLast, List.map_map]
    exact List.map_congr_left fun param _ => param.text_mark_place f
  rw [closure, closure, params, List.getLast?_map]
  exact .closure _ ⟨rfl, f, way, rfl⟩

/-- An expression has the same outcome elsewhere but for places. -/
theorem dispatch_moves (still : id ∈ ways) (ignores : IgnoresPlaces ways evaluate)
    (moved : State.Moved ways s s') (n : Node) {f : Nat → Nat} (way : f ∈ ways) (scope : Scope) :
    MovesOn ways (Value.Like (.moved ways)) (dispatch evaluate scope n s)
      (dispatch evaluate scope (n.place f) s') := by
  cases n with
  | leaf mark literal =>
    cases literal with
    | string s => exact .ok moved (.string s)
    | number n => exact .ok moved (.number n)
    | boolean b => exact .ok moved (.bool b)
    | null => exact .ok moved .null
    | undefined => exact .ok moved .undefined
    | keyword v => exact .ok moved (Value.like_moved still v)
    | identifier => exact .ok moved (Value.Like.getD (moved.get? scope mark.text))
  | function mark children =>
    rw [Node.place, Node.placeAll_eq_map]
    exact .ok (moved.reserve 1) (.function moved.next.symm (closure_moves children way scope))
  | member mark target name =>
    refine (ignores moved (.node target way scope)).bind fun moved' alike => ?_
    exact .ok moved' (Value.Like.getD (alike.property? name.text))
  | call mark children =>
    rw [Node.place, Node.placeAll_eq_map]
    cases children with
    | nil => exact .stop moved _
    | cons callee rest =>
      change MovesOn ways _
        ((evaluate (.node callee (s.store.newScope (some scope)).1) >>= _)
          { s with store := (s.store.newScope (some scope)).2 })
        ((evaluate (.node (callee.place f) (s'.store.newScope (some scope)).1) >>= _)
          { s' with store := (s'.store.newScope (some scope)).2 })
      rw [moved.newScope_fst (some scope)]
      refine (ignores (moved.newScope (some scope)) (.node callee way _)).bind
        fun {after after' v v'} moved' alike => ?_
      rw [moved.size]
      have known := alike
      cases alike with
      | function ids procedures =>
        have passed : List.Forall₂ (Elsewhere ways) (rest.map .node)
            ((rest.map (Node.place f)).map .node) := by
          rw [List.map_map, List.forall₂_map_left_iff, List.forall₂_map_right_iff,
            List.forall₂_same]
          exact fun n _ => .node n way
        have text := (Node.call mark (callee :: rest)).text_place f
        rw [Node.place, Node.placeAll_eq_map] at text
        exact ignores moved' (.call known ⟨rfl, congrArg some text, passed⟩)
      | _ => exact group_moves moved' _ f callee rest known

/-- Evaluation does not look at places, whatever the fuel. -/
theorem perform_ignoresPlaces (still : id ∈ ways) (limit : Nat) (now : Date) (fuel : Nat) :
    IgnoresPlaces ways (perform (.standard limit now) fuel) := by
  induction fuel with
  | zero => exact fun moved _ => .stop moved .outOfFuel
  | succ fuel ih =>
    intro t t' s s' moved corresponding
    cases corresponding with
    | call function transposed => exact call_moves ih transposed function moved
    | node n way scope =>
      rw [perform, step, step, deeper, deeper, moved.depth]
      split
      · exact .stop moved _
      · have inner := dispatch_moves still ih (moved.atDepth (s.depth + 1)) n way scope
        exact ⟨inner.moved.atDepth s.depth, inner.agree⟩

/-- Expressions in order have the same outcomes elsewhere but for places. -/
theorem evaluateAll_moves (still : id ∈ ways) (limit : Nat) (now : Date) (fuel : Nat)
    {f : Nat → Nat} (way : f ∈ ways) (scope : Scope) (nodes : List Node)
    (moved : State.Moved ways s s') :
    MovesOn ways (Value.LikeAll (.moved ways))
      (evaluateAll (.standard limit now) fuel scope nodes s)
      (evaluateAll (.standard limit now) fuel scope (nodes.map (Node.place f)) s') := by
  induction nodes generalizing s s' with
  | nil => exact .ok moved .nil
  | cons n rest ih =>
    refine (perform_ignoresPlaces still limit now fuel moved (.node n way scope)).bind
      fun moved' alike => ?_
    exact (ih moved').bind fun moved'' values => .ok moved'' (.cons alike values)

end Evaluator

end Bracket
