import Bracket.Proofs.Parallel.Pairing

/-!
What may stand in a store. A store gives out numbers and makes levels; a value that was made with it
has numbers that are taken, and its closures go through levels that are made. Such values are alike
to themselves as long as what belongs together goes no further than the store.
Main statement: evaluation keeps to this: what it makes may stand in the store that it leaves.
-/

namespace Bracket

mutual

/-- The value may stand in the store: its numbers are taken, and the levels of its closures made. -/
inductive Value.Present (st : Store) : Value → Prop
  | undefined : Value.Present st .undefined
  | null : Value.Present st .null
  | bool (b : Bool) : Value.Present st (.bool b)
  | number (n : Number) : Value.Present st (.number n)
  | string (s : String) : Value.Present st (.string s)
  | array {id : Nat} {items : List Value} (taken : id < st.nextId)
      (each : ∀ v ∈ items, Value.Present st v) : Value.Present st (.array id items)
  | object {id : Nat} {entries : List (String × Value)} (taken : id < st.nextId)
      (each : ∀ entry ∈ entries, Value.Present st entry.2) : Value.Present st (.object id entries)
  | function {id : Nat} {procedure : Procedure} (taken : id < st.nextId)
      (inside : Procedure.Present st procedure) : Value.Present st (.function id procedure)
  | date (d : Date) : Value.Present st (.date d)

inductive Procedure.Present (st : Store) : Procedure → Prop
  | closure (params : List String) {body : Option Node} {env : Scope}
      (made : env.Below st.levels.size)
      (keywords : ∀ mark v, (mark, Literal.keyword v) ∈ bodyLeaves body → Value.Present st v) :
      Procedure.Present st (.closure params body env)
  | native (name : String) {code : Code} {properties : List (String × Value)}
      (inside : Code.Present st code)
      (each : ∀ entry ∈ properties, Value.Present st entry.2) :
      Procedure.Present st (.native name code properties)

inductive Code.Present (st : Store) : Code → Prop
  | builtin (b : Builtin) : Code.Present st (.builtin b)
  | bound {f : Value} {values : List Value} (function : Value.Present st f)
      (each : ∀ v ∈ values, Value.Present st v) : Code.Present st (.bound f values)
  | flipped {f : Value} {values : List Value} (function : Value.Present st f)
      (each : ∀ v ∈ values, Value.Present st v) : Code.Present st (.flipped f values)
  | chained {functions : List Value} (each : ∀ f ∈ functions, Value.Present st f) :
      Code.Present st (.chained functions)
  | host (index : Nat) : Code.Present st (.host index)

end

/-- The values of the keywords in the expression may stand in the store. -/
def Node.Present (st : Store) (n : Node) : Prop :=
  ∀ mark v, (mark, Literal.keyword v) ∈ n.leaves → v.Present st

/-- Every variable has a value that may stand in the store. -/
def Store.Sound (st : Store) : Prop := ∀ level, ∀ entry ∈ st.locals level, entry.2.Present st

/-! ### Stores that grow -/

/-- The second store has taken no fewer numbers and made no fewer levels. -/
structure Store.Grown (st st' : Store) : Prop where
  next_le : st.nextId ≤ st'.nextId
  size_le : st.levels.size ≤ st'.levels.size

variable {st st' st'' : Store}

namespace Store.Grown

theorem refl (st : Store) : st.Grown st := ⟨Nat.le_refl _, Nat.le_refl _⟩

theorem trans (first : st.Grown st') (second : st'.Grown st'') : st.Grown st'' :=
  ⟨Nat.le_trans first.next_le second.next_le, Nat.le_trans first.size_le second.size_le⟩

theorem reserve (count : Nat) : st.Grown (st.reserve count).2 :=
  ⟨Nat.le_add_right _ count, Nat.le_refl _⟩

theorem newScope (outer : Option Scope) : st.Grown (st.newScope outer).2 :=
  ⟨Nat.le_refl _, by simp [Store.newScope]⟩

theorem assign (scope : Scope) (name : String) (v : Value) : st.Grown (st.assign scope name v) :=
  ⟨Nat.le_refl _, by simp [Store.assign]⟩

end Store.Grown

theorem Scope.Below.grown {scope : Scope} (below : scope.Below st.levels.size)
    (grown : st.Grown st') : scope.Below st'.levels.size :=
  fun l member => Nat.lt_of_lt_of_le (below l member) grown.size_le

theorem Scope.Below.newScope {scope : Scope} (below : scope.Below st.levels.size) :
    (st.newScope (some scope)).1.Below (st.newScope (some scope)).2.levels.size := by
  intro l member
  rcases List.mem_cons.mp member with rfl | outer
  · simp [Store.newScope]
  · exact below.grown (.newScope (some scope)) l outer

mutual

theorem Value.Present.grown (grown : st.Grown st') {v : Value} : v.Present st → v.Present st'
  | .undefined => .undefined
  | .null => .null
  | .bool b => .bool b
  | .number n => .number n
  | .string s => .string s
  | .array taken each =>
    .array (Nat.lt_of_lt_of_le taken grown.next_le) fun v member => (each v member).grown grown
  | .object taken each =>
    .object (Nat.lt_of_lt_of_le taken grown.next_le)
      fun entry member => (each entry member).grown grown
  | .function taken inside =>
    .function (Nat.lt_of_lt_of_le taken grown.next_le) (inside.grown grown)
  | .date d => .date d

theorem Procedure.Present.grown (grown : st.Grown st') {p : Procedure} :
    p.Present st → p.Present st'
  | .closure params made keywords =>
    .closure params (made.grown grown) fun mark v member => (keywords mark v member).grown grown
  | .native name inside each =>
    .native name (inside.grown grown) fun entry member => (each entry member).grown grown

theorem Code.Present.grown (grown : st.Grown st') {code : Code} :
    code.Present st → code.Present st'
  | .builtin b => .builtin b
  | .bound function each =>
    .bound (function.grown grown) fun v member => (each v member).grown grown
  | .flipped function each =>
    .flipped (function.grown grown) fun v member => (each v member).grown grown
  | .chained each => .chained fun f member => (each f member).grown grown
  | .host index => .host index

end

theorem Node.Present.grown {n : Node} (present : n.Present st) (grown : st.Grown st') :
    n.Present st' :=
  fun mark v member => (present mark v member).grown grown

/-! ### Values that are alike to themselves -/

/-- What may stand in the store belongs to itself, and nothing else belongs together. -/
def Likeness.present (st : Store) : Likeness where
  ids i i' := i' = i ∧ i < st.nextId
  closures body scope body' scope' := body' = body ∧ scope' = scope ∧
    scope.Below st.levels.size ∧
    ∀ mark v, (mark, Literal.keyword v) ∈ bodyLeaves body → v.Present st
  ids_iff := by
    rintro i _ j _ ⟨rfl, -⟩ ⟨rfl, -⟩
    exact Iff.rfl
  text_eq := by
    rintro body _ scope _ ⟨rfl, -⟩
    rfl

theorem Likeness.present_mono (grown : st.Grown st') : Likeness.present st ≤ .present st' := by
  refine ⟨?_, ?_⟩
  · rintro i _ ⟨rfl, taken⟩
    exact ⟨rfl, Nat.lt_of_lt_of_le taken grown.next_le⟩
  · rintro body scope _ _ ⟨rfl, rfl, made, keywords⟩
    exact ⟨rfl, rfl, made.grown grown, fun mark v member => (keywords mark v member).grown grown⟩

mutual

theorem Value.Present.like {v : Value} : v.Present st → v.Like (.present st) v
  | .undefined => .undefined
  | .null => .null
  | .bool b => .bool b
  | .number n => .number n
  | .string s => .string s
  | .array taken each =>
    .array ⟨rfl, taken⟩ (List.forall₂_same.mpr fun v member => (each v member).like)
  | .object taken each =>
    .object ⟨rfl, taken⟩
      (List.forall₂_same.mpr fun entry member => .mk entry.1 (each entry member).like)
  | .function taken inside => .function ⟨rfl, taken⟩ inside.like
  | .date d => .date d

theorem Procedure.Present.like {p : Procedure} : p.Present st → p.Like (.present st) p
  | .closure params made keywords => .closure params ⟨rfl, rfl, made, keywords⟩
  | .native name inside each =>
    .native name inside.like
      (List.forall₂_same.mpr fun entry member => .mk entry.1 (each entry member).like)

theorem Code.Present.like {code : Code} : code.Present st → code.Like (.present st) code
  | .builtin b => .builtin b
  | .bound function each =>
    .bound function.like (List.forall₂_same.mpr fun v member => (each v member).like)
  | .flipped function each =>
    .flipped function.like (List.forall₂_same.mpr fun v member => (each v member).like)
  | .chained each => .chained (List.forall₂_same.mpr fun f member => (each f member).like)
  | .host index => .host index

end

mutual

/-- What belongs to something may stand in the store. -/
theorem Value.Like.present {v v' : Value} : v.Like (.present st) v' → v.Present st
  | .undefined => .undefined
  | .null => .null
  | .bool b => .bool b
  | .number n => .number n
  | .string s => .string s
  | .array ids each => .array ids.2 (Value.LikeAll.present each)
  | .object ids each => .object ids.2 (Table.Like.present each)
  | .function ids alike => .function ids.2 alike.present
  | .date d => .date d

theorem Value.LikeAll.present {values values' : List Value} :
    Value.LikeAll (.present st) values values' → ∀ v ∈ values, v.Present st
  | .nil => List.forall_mem_nil _
  | .cons first rest => List.forall_mem_cons.mpr ⟨first.present, Value.LikeAll.present rest⟩

theorem Table.Like.present {entries entries' : Table Value} :
    Table.Like (.present st) entries entries' → ∀ entry ∈ entries, entry.2.Present st
  | .nil => List.forall_mem_nil _
  | .cons (.mk _ alike) rest => List.forall_mem_cons.mpr ⟨alike.present, Table.Like.present rest⟩

theorem Procedure.Like.present {p p' : Procedure} : p.Like (.present st) p' → p.Present st
  | .closure params same => .closure params same.2.2.1 same.2.2.2
  | .native name alike each => .native name alike.present (Table.Like.present each)

theorem Code.Like.present {code code' : Code} : code.Like (.present st) code' → code.Present st
  | .builtin b => .builtin b
  | .bound function each => .bound function.present (Value.LikeAll.present each)
  | .flipped function each => .flipped function.present (Value.LikeAll.present each)
  | .chained each => .chained (Value.LikeAll.present each)
  | .host index => .host index

end

/-! ### Stores that are sound -/

namespace Store.Sound

theorem get? (sound : st.Sound) {scope : Scope} {name : String} {v : Value}
    (found : st.get? scope name = some v) : v.Present st := by
  obtain ⟨level, member⟩ := Store.mem_of_get? found
  exact sound level _ member

/-- Sound stores stay so as long as they grow and no variable changes. -/
theorem grown (sound : st.Sound) (grown : st.Grown st')
    (same : ∀ level, st'.locals level = st.locals level) : st'.Sound := by
  intro level entry member
  rw [same level] at member
  exact (sound level entry member).grown grown

theorem reserve (sound : st.Sound) (count : Nat) : (st.reserve count).2.Sound :=
  sound.grown (.reserve count) fun _ => rfl

theorem newScope (sound : st.Sound) (outer : Option Scope) : (st.newScope outer).2.Sound :=
  sound.grown (.newScope outer) (Store.locals_newScope_eq st outer)

theorem assign (sound : st.Sound) (scope : Scope) (name : String) {v : Value}
    (present : v.Present st) : (st.assign scope name v).Sound := by
  intro level entry member
  refine Value.Present.grown (.assign scope name v) ?_
  by_cases same : scope.level = level
  · subst same
    rw [Store.locals_assign_self] at member
    split at member
    · rcases Registry.mem_insert member with old | new
      · exact sound _ entry old
      · rwa [new]
    · cases member
  · rw [Store.locals_assign_of_ne st scope name v same] at member
    exact sound level entry member

end Store.Sound

/-- The functions of the library have the first numbers of all. -/
theorem Builtin.toValue_present (le : Builtin.all.length ≤ st.nextId) (b : Builtin) :
    b.toValue.Present st := by
  have taken (b : Builtin) : Builtin.all.idxOf b < st.nextId := by
    refine Nat.lt_of_lt_of_le (List.idxOf_lt_length_iff.mpr ?_) le
    cases b <;> decide
  refine .function (taken b) (.native b.name (.builtin b) ?_)
  cases b with
  | date =>
    refine List.forall_mem_singleton.mpr (.function (taken .addDays) ?_)
    exact .native _ (.builtin .addDays) (List.forall_mem_nil _)
  | _ => exact List.forall_mem_nil _

theorem Builtin.library_present (le : Builtin.all.length ≤ st.nextId) :
    ∀ entry ∈ Builtin.library, entry.2.Present st := by
  intro entry member
  obtain ⟨b, -, rfl⟩ := List.mem_map.mp member
  exact b.toValue_present le

/-! ### What evaluation makes -/

/-- The argument may be evaluated in the scope. -/
def Argument.Present (st : Store) (scope : Scope) : Argument → Prop
  | .node n => n.Present st ∧ scope.Below st.levels.size
  | .value v => v.Present st

/-- The arguments of the call may be evaluated. -/
def Call.Present (st : Store) (call : Call) : Prop :=
  ∀ argument ∈ call.arguments, argument.Present st call.scope

theorem Call.Present.grown {call : Call} (present : call.Present st) (grown : st.Grown st') :
    call.Present st' := by
  intro argument member
  have inside := present argument member
  cases argument with
  | node n => exact ⟨inside.1.grown grown, inside.2.grown grown⟩
  | value v => exact Value.Present.grown grown inside

namespace Evaluator

variable {α β : Type} {s : State} {limit : Nat} {now : Date} {evaluate : Task → Eval Value}

/-- The task may be evaluated with the store. -/
def Task.Present (st : Store) : Task → Prop
  | .node n scope => n.Present st ∧ scope.Below st.levels.size
  | .call f arguments => f.Present st ∧ arguments.Present st

/-- The store that is left is sound and has grown, and the result has the property in it. -/
structure Produces (st : Store) (P : Store → α → Prop) (x : Except Stop α × State) : Prop where
  sound : x.2.store.Sound
  grown : st.Grown x.2.store
  result : ∀ a, x.1 = .ok a → P x.2.store a

namespace Produces

variable {P : Store → α → Prop} {Q : Store → β → Prop}

theorem ok {a : α} (sound : s.store.Sound) (holds : P s.store a) :
    Produces s.store P (.ok a, s) where
  sound := sound
  grown := .refl _
  result := by
    rintro _ ⟨⟩
    exact holds

theorem stop (sound : s.store.Sound) (stop : Stop) : Produces s.store P (.error stop, s) where
  sound := sound
  grown := .refl _
  result := by
    rintro _ ⟨⟩

theorem before {x : Except Stop α × State} (produces : Produces st' P x) (grown : st.Grown st') :
    Produces st P x :=
  { produces with grown := grown.trans produces.grown }

theorem imp {R : Store → α → Prop} {x : Except Stop α × State} (produces : Produces st P x)
    (weaker : ∀ a, P x.2.store a → R x.2.store a) : Produces st R x :=
  { produces with result := fun a same => weaker a (produces.result a same) }

theorem bind {x : Eval α} {f : α → Eval β} (first : Produces st P (x s))
    (rest : ∀ {after : State} {a : α}, after.store.Sound → st.Grown after.store →
      P after.store a → Produces after.store Q (f a after)) :
    Produces st Q ((x >>= f) s) := by
  rw [bind_apply]
  obtain ⟨sound, grown, result⟩ := first
  revert sound grown result
  generalize x s = outcome
  obtain ⟨result, after⟩ := outcome
  intro sound grown holds
  cases result with
  | error stop => exact (Produces.stop sound stop).before grown
  | ok a => exact (rest sound grown (holds a rfl)).before grown

end Produces

/-- What is evaluated leaves a sound store, in which the value may stand. -/
def Preserves (evaluate : Task → Eval Value) : Prop :=
  ∀ {t : Task} {s : State}, s.store.Sound → t.Present s.store →
    Produces s.store Value.Present (evaluate t s)

section Calls

variable {call : Call}

theorem answer_argument_produces (preserves : Preserves evaluate) (sound : s.store.Sound)
    (present : call.Present s.store) (position : Nat) :
    Produces s.store Value.Present
      (answer (.standard limit now) evaluate call (.argument position) s) := by
  simp only [answer]
  cases found : call.arguments[position]? with
  | none => exact .ok sound .undefined
  | some argument =>
    have inside := present argument (List.mem_of_getElem? found)
    cases argument with
    | node n => exact preserves (t := .node n call.scope) sound inside
    | value v => exact .ok sound inside

/-- Native code makes values that may stand in the store, for it goes on alike with itself under
the likeness that has such values only. -/
theorem run_produces (preserves : Preserves evaluate) {R : Likeness → α → β → Prop}
    {C : Likeness} {r : Routine α} {r' : Routine β} (alike : r.Alike R C r')
    (le : C ≤ .present s.store) (sound : s.store.Sound) (present : call.Present s.store) :
    Produces s.store (fun st a => ∃ D b, D ≤ .present st ∧ R D a b)
      (run (.standard limit now) evaluate call r s) := by
  induction alike generalizing s with
  | done related => exact .ok sound ⟨_, _, le, related⟩
  | fail e => exact .stop sound (.error e)
  | argument position _ ih =>
    refine (answer_argument_produces preserves sound present position).bind
      fun {after v} sound' grown value => ?_
    have le' := Likeness.le_trans le (Likeness.present_mono grown)
    exact ih _ le' v v value.like (Likeness.le_refl _) sound' (present.grown grown)
  | @invoke C f f' values values' next next' function each _ ih =>
    have inside : Task.Present s.store (.call f ⟨call.scope, values.map .value, call.callee⟩) := by
      refine ⟨(function.mono le).present, fun argument member => ?_⟩
      obtain ⟨v, given, rfl⟩ := List.mem_map.mp member
      exact Value.LikeAll.present (Value.LikeAll.mono le each) v given
    refine Produces.bind (preserves sound inside) fun {after v} sound' grown value => ?_
    have le' := Likeness.le_trans le (Likeness.present_mono grown)
    exact ih _ le' v v value.like (Likeness.le_refl _) sound' (present.grown grown)
  | reserve count _ ih =>
    have grown : s.store.Grown (s.store.reserve count).2 := .reserve count
    have le' := Likeness.le_trans le (Likeness.present_mono grown)
    have reserved : (Likeness.present (s.store.reserve count).2).Reserved count s.store.nextId
        s.store.nextId :=
      fun k low => ⟨rfl, Nat.add_lt_add_left low _⟩
    have rest := ih _ le' _ _ reserved
      (s := { s with store := (s.store.reserve count).2 }) (Likeness.le_refl _)
      (sound.reserve count) (present.grown grown)
    exact rest.before grown
  | now _ ih => exact ih now le sound present

/-- Parameters are bound to values that may stand in the store. -/
theorem bindParameters_produces (preserves : Preserves evaluate) (inner : Scope)
    (params : List String) (position : Nat) (sound : s.store.Sound)
    (present : call.Present s.store) :
    Produces s.store (fun _ (_ : Unit) => True)
      (run (.standard limit now) evaluate call (bindParameters call inner position params) s) := by
  induction params generalizing s position with
  | nil => exact .ok sound trivial
  | cons param params ih =>
    rw [bindParameters, run_bind, run_argumentOrUndefined]
    refine (answer_argument_produces preserves sound present position).bind
      fun {after v} sound' grown value => ?_
    have written : after.store.Grown (after.store.assign inner param v) := .assign inner param v
    have rest := ih (position + 1) (s := { after with store := after.store.assign inner param v })
      (sound'.assign inner param value) ((present.grown grown).grown written)
    exact rest.before written

theorem applyClosure_produces (preserves : Preserves evaluate) (params : List String)
    {body : Option Node} {env : Scope} (made : env.Below s.store.levels.size)
    (keywords : ∀ mark v, (mark, Literal.keyword v) ∈ bodyLeaves body → v.Present s.store)
    (sound : s.store.Sound) (present : call.Present s.store) :
    Produces s.store Value.Present
      (run (.standard limit now) evaluate call (applyClosure params body env call) s) := by
  have opened : s.store.Grown (s.store.newScope (some env)).2 := .newScope (some env)
  have bound : Produces (s.store.newScope (some env)).2 (fun _ (_ : Unit) => True)
      (run (.standard limit now) evaluate call
        (bindParameters call (s.store.newScope (some env)).1 0 params)
        { s with store := (s.store.newScope (some env)).2 }) :=
    bindParameters_produces preserves _ params 0
      (s := { s with store := (s.store.newScope (some env)).2 }) (sound.newScope (some env))
      (present.grown opened)
  change Produces s.store _
    (run _ _ call (bindParameters call (s.store.newScope (some env)).1 0 params >>= _)
      { s with store := (s.store.newScope (some env)).2 })
  rw [run_bind]
  refine (bound.bind fun {after _} sound' grown _ => ?_).before opened
  cases body with
  | none => exact .ok sound' .undefined
  | some n =>
    rw [run_evaluate]
    refine preserves sound' ⟨fun mark v member => ?_, made.newScope.grown grown⟩
    exact (keywords mark v member).grown (opened.trans grown)

theorem call_produces (preserves : Preserves evaluate) {f : Value} (function : f.Present s.store)
    (sound : s.store.Sound) (present : call.Present s.store) :
    Produces s.store Value.Present
      (step (.standard limit now) evaluate (.call f call) s) := by
  have self := function
  cases function with
  | function taken inside =>
    cases inside with
    | @native name code properties inside each =>
      have alike : (code.routine [] call).Alike Value.Like (.present s.store)
          (code.routine [] call) :=
        Code.routine_alike (fun _ member => absurd member List.not_mem_nil) inside.like ⟨rfl, rfl⟩
      refine (run_produces preserves alike (Likeness.le_refl _) sound present).imp ?_
      rintro v ⟨D, v', le, related⟩
      exact (related.mono le).present
    | closure params made keywords =>
      rw [step, Procedure.routine]
      split
      · exact .ok sound self
      · exact applyClosure_produces preserves params made keywords sound present
  | _ => exact .stop sound _

end Calls

/-- A callee that is no function stands alone, or is an error. -/
theorem group_produces {f : Value} (scope : Scope) (callee : Node) (rest : List Node)
    (sound : s.store.Sound) (present : f.Present s.store) :
    Produces s.store Value.Present
      ((do
        let unbound ← withStore fun st => (isUnbound st scope callee, st)
        if unbound then fail (.unknownFunction callee.mark.text)
        else if rest.isEmpty then pure f
        else fail (.notCallable callee.text) : Eval Value) s) := by
  change Produces s.store _ ((if isUnbound s.store scope callee then _ else _ : Eval Value) s)
  split
  · exact .stop sound _
  · split
    · exact .ok sound present
    · exact .stop sound _

/-- An expression leaves a sound store if its parts do. -/
theorem dispatch_produces (preserves : Preserves evaluate) {scope : Scope} {n : Node}
    (present : n.Present s.store) (made : scope.Below s.store.levels.size)
    (sound : s.store.Sound) :
    Produces s.store Value.Present (dispatch evaluate scope n s) := by
  cases n with
  | leaf mark literal =>
    cases literal with
    | keyword v => exact .ok sound (present mark v List.mem_cons_self)
    | identifier =>
      refine .ok sound ?_
      cases found : s.store.get? scope mark.text with
      | none => exact .undefined
      | some v => exact sound.get? found
    | string s => exact .ok sound (.string s)
    | number n => exact .ok sound (.number n)
    | boolean b => exact .ok sound (.bool b)
    | null => exact .ok sound .null
    | undefined => exact .ok sound .undefined
  | function mark children =>
    have grown : s.store.Grown (s.store.reserve 1).2 := .reserve 1
    have inside : Value.Present (s.store.reserve 1).2
        (.function s.store.nextId (closure children scope)) := by
      refine .function (Nat.lt_succ_self _) (.closure _ (made.grown grown) ?_)
      intro mark v member
      exact (present mark v (Node.bodyLeaves_getLast?_subset children member)).grown grown
    have produced : Produces (s.store.reserve 1).2 Value.Present
        (Except.ok (Value.function s.store.nextId (closure children scope)),
          { s with store := (s.store.reserve 1).2 }) :=
      .ok (s := { s with store := (s.store.reserve 1).2 }) (sound.reserve 1) inside
    exact produced.before grown
  | member mark target name =>
    refine (preserves (t := .node target scope) sound ⟨present, made⟩).bind
      fun {after v} sound' _ value => .ok sound' ?_
    exact (Value.Like.getD (value.like.property? name.text)).present
  | call mark children =>
    cases children with
    | nil => exact .stop sound _
    | cons callee rest =>
      have opened : s.store.Grown (s.store.newScope (some scope)).2 := .newScope (some scope)
      have part : ∀ n ∈ callee :: rest, n.Present (s.store.newScope (some scope)).2 := by
        intro n member mark v inside
        exact (present mark v (Node.leaves_subset_all member inside)).grown opened
      have first : Produces (s.store.newScope (some scope)).2 Value.Present
          (evaluate (.node callee (s.store.newScope (some scope)).1)
            { s with store := (s.store.newScope (some scope)).2 }) :=
        preserves (s := { s with store := (s.store.newScope (some scope)).2 })
          (sound.newScope (some scope)) ⟨part callee List.mem_cons_self, made.newScope⟩
      refine Produces.before (first.bind fun {after f} sound' grown function => ?_) opened
      cases f with
      | function id procedure =>
        refine preserves sound' ⟨function, fun argument member => ?_⟩
        obtain ⟨n, inside, rfl⟩ := List.mem_map.mp member
        exact ⟨(part n (List.mem_cons_of_mem callee inside)).grown grown,
          made.newScope.grown grown⟩
      | _ => exact group_produces _ callee rest sound' function

/-- Evaluation leaves a sound store, in which the value may stand. -/
theorem perform_preserves (limit : Nat) (now : Date) (fuel : Nat) :
    Preserves (perform (.standard limit now) fuel) := by
  induction fuel with
  | zero => exact fun sound _ => .stop sound .outOfFuel
  | succ fuel ih =>
    intro t s sound present
    cases t with
    | call f call => exact call_produces ih present.1 sound present.2
    | node n scope =>
      rw [perform, step, deeper]
      split
      · exact .stop sound _
      · have produced := dispatch_produces (s := { s with depth := s.depth + 1 }) ih present.1
          present.2 sound
        exact ⟨produced.sound, produced.grown, produced.result⟩

end Evaluator

end Bracket
