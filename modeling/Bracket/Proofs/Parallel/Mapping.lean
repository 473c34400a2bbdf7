import Bracket.Proofs.Parallel.Composition
import Bracket.Proofs.Registry

/-!
Mapping a composition. Whether all functions are called on one item after the other, or all items
are gone over with one function after the other: each item becomes what the functions make of it on
its own, and the keys and the order of the items stay.
Main statement: mapping a composition goes well exactly if mapping the functions one after the other
does, and the results resemble each other.
-/

namespace Bracket

/-! ### Collections -/

namespace Table

/-- Keys that are put before values are no others than before. -/
theorem keys_zip_sublist {α : Type} (keys : List String) (values : List α) :
    (Table.keys (keys.zip values)).Sublist keys := by
  induction keys generalizing values with
  | nil => simp [Table.keys]
  | cons key keys ih =>
    cases values with
    | nil => exact List.nil_sublist _
    | cons v values => exact (ih values).cons_cons key

end Table

namespace Value

/-- The items of an array, or the values of an object. -/
def parts : Value → List Value
  | .array _ items => items
  | .object _ entries => entries.map Prod.snd
  | _ => []

/-- A new collection with other parts: an array for an array, and an object with the same keys for
an object. For anything else it is an empty object. -/
def withParts (v : Value) (id : Nat) (parts : List Value) : Value :=
  match v with
  | .array .. => .array id parts
  | .object _ entries => .object id ((Table.keys entries).zip parts)
  | _ => .object id []

/-- If it is an object, it has no key twice. -/
def KeysDistinct : Value → Prop
  | .object _ entries => (Table.keys entries).Nodup
  | _ => True

variable {v : Value} {parts : List Value}

theorem parts_withParts (id : Nat) (size : parts.length = v.parts.length) :
    (v.withParts id parts).parts = parts := by
  cases v with
  | array => rfl
  | object _ entries =>
    have size : parts.length ≤ (Table.keys entries).length := by
      simpa [Value.parts, Table.keys] using size.le
    exact List.map_snd_zip size
  | _ => exact (List.length_eq_zero_iff.mp size).symm

/-- The shape of a collection is that of the one that it was made from. -/
theorem withParts_withParts (id : Nat) (size : parts.length = v.parts.length) (id' : Nat)
    (parts' : List Value) :
    (v.withParts id parts).withParts id' parts' = v.withParts id' parts' := by
  cases v with
  | array => rfl
  | object _ entries =>
    have size : (Table.keys entries).length ≤ parts.length := by
      simpa [Value.parts, Table.keys] using size.ge
    simp only [withParts]
    rw [Table.keys, List.map_fst_zip size]
  | _ => rfl

theorem KeysDistinct.withParts (distinct : v.KeysDistinct) (id : Nat) (parts : List Value) :
    (v.withParts id parts).KeysDistinct := by
  cases v with
  | array => trivial
  | object _ entries => exact List.Nodup.sublist (Table.keys_zip_sublist _ parts) distinct
  | _ => exact List.nodup_nil

theorem Resembles.withParts (v : Value) (id id' : Nat) {parts parts' : List Value}
    (each : List.Forall₂ Value.Resembles parts parts') :
    (v.withParts id parts).Resembles (v.withParts id' parts') := by
  cases v with
  | array => exact .array each
  | object _ entries =>
    refine .object ?_
    generalize Table.keys entries = keys
    induction each generalizing keys with
    | nil => simp
    | cons same _ ih =>
      cases keys with
      | nil => exact .nil
      | cons key keys => exact .cons (.mk key same) (ih keys)
  | _ => exact .object .nil

theorem Present.part {st : Store} (present : v.Present st) : ∀ part ∈ v.parts, part.Present st := by
  cases present with
  | array _ each => exact each
  | object _ each => exact List.forall_mem_map.mpr each
  | _ => exact List.forall_mem_nil _

end Value

namespace Library

/-- Going over entries is going over their values. -/
theorem mapM_entries (act : Value → Routine Value) (entries : Table Value) :
    (entries.mapM fun entry => do return (entry.1, ← act entry.2)) = do
      return (Table.keys entries).zip (← (entries.map Prod.snd).mapM act) := by
  induction entries with
  | nil => rfl
  | cons entry entries ih =>
    simp only [List.mapM_cons, List.map_cons, ih, bind_assoc, pure_bind, Table.keys_cons,
      List.zip_cons_cons]

/-- An object is mapped by going over its values. -/
theorem mapObject_eq (f : Value) (entries : Table Value) :
    (entries.mapM (fun (key, v) => do return (key, ← Routine.invoke f [v])) >>= fun mapped =>
      Routine.newObject (Table.ofEntries mapped)) =
    (entries.map Prod.snd).mapM (fun v => Routine.invoke f [v]) >>= fun results =>
      Routine.newObject (Table.ofEntries ((Table.keys entries).zip results)) := by
  have entrywise := congrArg (· >>= fun mapped => Routine.newObject (Table.ofEntries mapped))
    (mapM_entries (fun v => Routine.invoke f [v]) entries)
  refine entrywise.trans ?_
  simp only [bind_assoc, pure_bind]

/-- Mapping goes over the parts of a collection, and makes a new one of the results. -/
theorem map_parts (call : Call) : ∃ mapOver : Value → Value → Routine Value,
    (Library.map call = do
      let source ← Routine.argument call 0
      let f ← Routine.argument call 1
      mapOver source f) ∧
    ∀ source f, source.KeysDistinct → mapOver source f = do
      let parts ← source.parts.mapM fun part => Routine.invoke f [part]
      return source.withParts (← Routine.reserve 1) parts := by
  refine ⟨_, rfl, fun source f distinct => ?_⟩
  cases source with
  | object id entries =>
    have keyed (parts : List Value) :
        Table.ofEntries ((Table.keys entries).zip parts) = (Table.keys entries).zip parts :=
      Table.insertAll_of_nodup [] (List.Nodup.sublist (Table.keys_zip_sublist _ parts) distinct)
    refine (mapObject_eq f entries).trans ?_
    simp only [keyed]
    rfl
  | _ => rfl

end Library

namespace Parallel

open Evaluator

variable {limit : Nat} {now : Date} {base st st' : Store} {scope inner : Scope} {s : State}
  {xs f v w : Value} {functions fs gs : List Value} {n : Node}
  {P P' : Prop} {Q Q' : Store → Value → Prop}

/-! ### Expressions -/

/-- From the inner scope every name has the value that it has from the first one, and all that was
there is still there. -/
structure Within (base : Store) (scope : Scope) (st : Store) (inner : Scope) : Prop where
  more : base.ExtendsTo st
  below : inner.Below st.levels.size
  finds : ∀ name, st.get? inner name = base.get? scope name

namespace Within

theorem start (below : scope.Below base.levels.size) : Within base scope base scope :=
  ⟨.refl base, below, fun _ => rfl⟩

theorem later (within : Within base scope st inner) (more : st.ExtendsTo st') :
    Within base scope st' inner where
  more := within.more.trans more
  below := within.below.grown ⟨more.next_le, more.keeps.size_le⟩
  finds name := (more.keeps.get? within.below name).trans (within.finds name)

theorem nested (within : Within base scope st inner) :
    Within base scope (st.newScope (some inner)).2 (st.newScope (some inner)).1 where
  more := within.more.trans (.newScope st (some inner))
  below := within.below.newScope
  finds name := (st.get?_newScope inner name).trans (within.finds name)

end Within

/-- The expression is a leaf, such as a name, and the value is what it stands for. -/
def Denotes (st : Store) (scope : Scope) (n : Node) (v : Value) : Prop :=
  ∃ mark literal, n = .leaf mark literal ∧ leaf mark scope literal ⟨st, 0⟩ = (.ok v, ⟨st, 0⟩)

/-- Wherever the expression is evaluated, it goes well if `P` holds, given enough fuel and room, and
has no value but one for which `Q` holds. -/
def Yields (limit : Nat) (now : Date) (base : Store) (scope : Scope) (n : Node) (P : Prop)
    (Q : Store → Value → Prop) : Prop :=
  ∀ (fuel : Nat) (s : State) (inner : Scope), Within base scope s.store inner →
    Decides limit s P Q (perform (.standard limit now) fuel (.node n inner) s)

theorem Yields.imp (yields : Yields limit now base scope n P Q) (condition : P' → P)
    (weaker : ∀ st v, base.ExtendsTo st → Q st v → Q' st v) :
    Yields limit now base scope n P' Q' := by
  intro fuel s inner within
  have decides := yields fuel s inner within
  exact ⟨decides.more, fun v same => weaker _ v (within.more.trans decides.more)
    (decides.result v same), fun holds => decides.goes (condition holds)⟩

theorem Denotes.yields (denotes : Denotes base scope n v) :
    Yields limit now base scope n True fun _ w => w = v := by
  rintro (_ | fuel) s inner within
  · exact .outOfFuel
  obtain ⟨mark, literal, rfl, same⟩ := denotes
  refine Decides.deeper (x := leaf mark inner literal) ?_
  have found : leaf mark inner literal { s with depth := s.depth + 1 } =
      (.ok v, { s with depth := s.depth + 1 }) := by
    cases literal with
    | identifier =>
      cases same
      show (Except.ok ((s.store.get? inner mark.text).getD .undefined), _) = _
      rw [within.finds]
    | _ =>
      cases same
      rfl
  rw [found]
  exact .ok rfl

/-- Calls of a library function are decided by its routine. -/
theorem Yields.call (b : Builtin) {callee : Node} {rest : List Node}
    (denotes : Denotes base scope callee b.toValue) (mark : Mark)
    (body : ∀ (fuel : Nat) (s : State) (inner : Scope), Within base scope s.store inner →
      Decides limit s P Q (run (.standard limit now) (perform (.standard limit now) fuel)
        ⟨inner, rest.map .node, some (.call mark (callee :: rest))⟩
        (b.routine ⟨inner, rest.map .node, some (.call mark (callee :: rest))⟩) s)) :
    Yields limit now base scope (.call mark (callee :: rest)) P Q := by
  rintro (_ | fuel) s inner within
  · exact .outOfFuel
  refine Decides.deeper (x := evaluateCall (perform (.standard limit now) fuel)
    (.call mark (callee :: rest)) callee rest inner) ?_
  unfold evaluateCall
  refine Decides.bind (Q := Within base scope) (.withStore (.newScope _ _) within.nested) ?_
  intro inside opened _ within
  refine ((denotes.yields fuel opened inside within).imp (fun _ => trivial) fun _ _ => id).bind ?_
  rintro _ looked more rfl
  cases fuel with
  | zero => exact .outOfFuel
  | succ fuel => exact body fuel looked inside (within.later more)

/-! ### Arguments -/

section Arguments

variable {fuel : Nat} {nodes : List Node} {values : List Value} {callee : Option Node}

/-- The question for an argument is decided by the expression that stands there. -/
theorem Yields.ask {β : Type} {R : Store → β → Prop} {position : Nat}
    (yields : Yields limit now base scope n P Q) (within : Within base scope s.store inner)
    (found : nodes[position]? = some n) {next : Value → Routine β}
    (later : ∀ v after, s.store.ExtendsTo after.store → Q after.store v →
      Decides limit after P R (run (.standard limit now) (perform (.standard limit now) fuel)
        ⟨inner, nodes.map .node, callee⟩ (next v) after)) :
    Decides limit s P R (run (.standard limit now) (perform (.standard limit now) fuel)
      ⟨inner, nodes.map .node, callee⟩ (.ask (.argument position) next) s) := by
  have answered : answer (.standard limit now) (perform (.standard limit now) fuel)
      ⟨inner, nodes.map .node, callee⟩ (.argument position) =
      perform (.standard limit now) fuel (.node n inner) := by
    simp only [answer, List.getElem?_map, found]
    rfl
  show Decides limit s P R ((answer _ _ _ (.argument position) >>= fun v => run _ _ _ (next v)) s)
  rw [answered]
  exact (yields fuel s inner within).bind later

theorem Yields.argument {β : Type} {R : Store → β → Prop} {position : Nat}
    (yields : Yields limit now base scope n P Q) (within : Within base scope s.store inner)
    (found : nodes[position]? = some n) {next : Value → Routine β}
    (later : ∀ v after, s.store.ExtendsTo after.store → Q after.store v →
      Decides limit after P R (run (.standard limit now) (perform (.standard limit now) fuel)
        ⟨inner, nodes.map .node, callee⟩ (next v) after)) :
    Decides limit s P R (run (.standard limit now) (perform (.standard limit now) fuel)
      ⟨inner, nodes.map .node, callee⟩
      (Routine.argument ⟨inner, nodes.map .node, callee⟩ position >>= next) s) := by
  have inside : position < Call.size ⟨inner, nodes.map .node, callee⟩ := by
    simpa [Call.size] using (List.getElem?_eq_some_iff.mp found).1
  rw [Routine.argument, if_pos inside]
  exact yields.ask within found later

/-- The arguments of a call on leaves are what these stand for. -/
theorem run_argumentRange_decides (limit : Nat) (now : Date) (fuel : Nat)
    (callee : Option Node) (before : List Node)
    (each : List.Forall₂ (Denotes base scope) nodes values)
    (within : Within base scope s.store inner) :
    Decides limit s True (fun _ vs => vs = values)
      (run (.standard limit now) (perform (.standard limit now) fuel)
        ⟨inner, (before ++ nodes).map .node, callee⟩
        (Routine.argumentRange before.length nodes.length) s) := by
  induction each generalizing before s with
  | nil => exact .ok rfl
  | @cons n v nodes values denotes _ ih =>
    have found : (before ++ n :: nodes)[before.length]? = some n := by simp
    refine denotes.yields.ask within found ?_
    intro w after more same
    subst same
    have others := ih (before ++ [n]) (within.later more)
    rw [List.append_assoc, List.singleton_append, List.length_append, List.length_singleton]
      at others
    have last : Decides limit after True (fun _ vs => vs = w :: values)
        (run (.standard limit now) (perform (.standard limit now) fuel)
          ⟨inner, (before ++ n :: nodes).map .node, callee⟩
          (Routine.argumentRange (before.length + 1) nodes.length >>= fun vs => .done (w :: vs))
          after) := by
      rw [run_bind]
      refine others.bind ?_
      rintro vs _ _ rfl
      exact .ok rfl
    exact last

end Arguments

/-! ### Mapping -/

/-- Whatever value of `fs` the function gets, it makes of it what `gs` do of the value at first. -/
def Continues (limit : Nat) (now : Date) (base : Store) (fs gs : List Value) (g : Value) : Prop :=
  ∀ {s : State} {x y : Value}, Reaches limit now base fs x s.store y →
    ∀ (fuel : Nat) (callee : Option Node) (scope : Scope),
      Decides limit s (Completes limit now base gs x) (Reaches limit now base gs x)
        (perform (.standard limit now) fuel (onValues g [y] callee scope) s)

/-- A composition yields a function that does what the functions do one after the other. -/
theorem Yields.compose {c : Node} (mark : Mark) {nodes : List Node}
    (compose : Denotes base scope c (Builtin.toValue .compose))
    (each : List.Forall₂ (Denotes base scope) nodes functions) (nonempty : functions ≠ [])
    (present : ∀ g ∈ functions, g.Present base) :
    Yields limit now base scope (.call mark (c :: nodes)) True
      fun _ g => Continues limit now base [] functions g := by
  refine .call .compose compose mark fun fuel s inner within => ?_
  have size : Call.size ⟨inner, nodes.map .node, some (.call mark (c :: nodes))⟩ - 0 =
      nodes.length := by simp [Call.size]
  have all :=
    run_argumentRange_decides limit now fuel (some (.call mark (c :: nodes))) [] each within
  show Decides limit s _ _ (run _ _ _ (Library.compose _) s)
  rw [Library.compose, Routine.arguments, Routine.argumentsFrom, size, run_bind]
  refine all.bind ?_
  rintro vs after _ rfl
  refine .reserve fun id last _ => ?_
  refine .ok fun reaches fuel callee scope => ?_
  have decides := composite_decides reaches nonempty present id fuel callee scope
  rwa [List.append_nil] at decides

/-- The collection has the shape of the first one, and its parts are what the functions make of the
parts of that. -/
structure Carries (limit : Nat) (now : Date) (base : Store) (xs : Value) (fs : List Value)
    (st : Store) (v : Value) : Prop where
  shape : ∀ id parts, v.withParts id parts = xs.withParts id parts
  distinct : v.KeysDistinct
  each : List.Forall₂ (fun x y => Reaches limit now base fs x st y) xs.parts v.parts

/-- The collection was made from the first one with what the functions make of its parts. -/
def Maps (limit : Nat) (now : Date) (base : Store) (xs : Value) (fs : List Value) (st : Store)
    (v : Value) : Prop :=
  ∃ id parts, v = xs.withParts id parts ∧
    List.Forall₂ (fun x y => Reaches limit now base fs x st y) xs.parts parts

theorem Carries.start (sound : base.Sound) (present : xs.Present base) (distinct : xs.KeysDistinct)
    (more : base.ExtendsTo st) : Carries limit now base xs [] st xs where
  shape _ _ := rfl
  distinct := distinct
  each := List.forall₂_same.mpr fun x member => .start sound (present.part x member) more

theorem Carries.aside (carries : Carries limit now base xs fs st v) (more : st.ExtendsTo st') :
    Carries limit now base xs fs st' v :=
  ⟨carries.shape, carries.distinct, carries.each.imp fun _ _ reaches => reaches.aside more⟩

theorem Maps.carries (maps : Maps limit now base xs fs st v) (distinct : xs.KeysDistinct) :
    Carries limit now base xs fs st v := by
  obtain ⟨id, parts, rfl, each⟩ := maps
  have size : parts.length = xs.parts.length := each.length_eq.symm
  refine ⟨Value.withParts_withParts id size, distinct.withParts id parts, ?_⟩
  rwa [Value.parts_withParts id size]

theorem Maps.completes (maps : Maps limit now base xs fs st v) :
    ∀ x ∈ xs.parts, Completes limit now base fs x := by
  obtain ⟨_, _, -, each⟩ := maps
  have each : List.Forall₂ (fun x _ => Completes limit now base fs x ∧ True) xs.parts _ :=
    each.imp fun _ _ reaches => ⟨reaches.completes, trivial⟩
  exact ((List.forall₂_and_left _ _).mp each).1

theorem Maps.resembles (maps : Maps limit now base xs fs st v)
    (maps' : Maps limit now base xs fs st' w) : v.Resembles w := by
  obtain ⟨id, parts, rfl, each⟩ := maps
  obtain ⟨id', parts', rfl, each'⟩ := maps'
  refine .withParts xs id id' ?_
  generalize xs.parts = origins at each each'
  induction each generalizing parts' with
  | nil =>
    cases each'
    exact .nil
  | cons reaches _ ih =>
    cases each' with
    | cons reaches' each' => exact .cons (reaches.resembles reaches') (ih _ each')

/-- Mapping goes on with the parts of a collection. -/
theorem Yields.map {m source g : Node} (mark : Mark)
    (map : Denotes base scope m (Builtin.toValue .map))
    (collection : Yields limit now base scope source P (Carries limit now base xs fs))
    (function : Yields limit now base scope g True fun _ f => Continues limit now base fs gs f)
    (goes : (∀ x ∈ xs.parts, Completes limit now base gs x) → P) :
    Yields limit now base scope (.call mark [m, source, g])
      (∀ x ∈ xs.parts, Completes limit now base gs x) (Maps limit now base xs gs) := by
  refine .call .map map mark fun fuel s inner within => ?_
  obtain ⟨mapOver, same, parted⟩ :=
    Library.map_parts ⟨inner, [source, g].map .node, some (.call mark [m, source, g])⟩
  show Decides limit s _ _ (run _ _ _ (Library.map _) s)
  rw [same]
  refine (collection.imp goes fun _ _ _ => id).argument within rfl ?_
  intro v looked more carries
  refine (function.imp (fun _ => trivial) fun _ _ _ => id).argument (within.later more) rfl ?_
  intro f after more' continues
  rw [parted v f carries.distinct, run_bind]
  refine Decides.bind (run_mapM_decides
    (R := fun x st y => Reaches limit now base fs x st y)
    (Q := fun x st y => Reaches limit now base gs x st y)
    (fun _ _ _ _ more reaches => reaches.aside more)
    (fun _ _ _ _ more reaches => reaches.aside more) ?_ (carries.aside more').each) ?_
  · intro x y at' reaches
    rw [run_invoke]
    exact continues reaches fuel _ _
  · intro parts last _ each
    refine .reserve fun id _ more => ?_
    refine .ok ⟨id, parts, carries.shape id parts, ?_⟩
    exact each.imp fun _ _ reaches => reaches.aside more

/-! ### One map or several -/

/-- The expression maps the collection with the composition of the functions. -/
inductive MapsComposed (st : Store) (scope : Scope) (xs : Value) (functions : List Value) :
    Node → Prop
  | mk (mark inside : Mark) {m c source : Node} {nodes : List Node}
      (map : Denotes st scope m (Builtin.toValue .map))
      (compose : Denotes st scope c (Builtin.toValue .compose))
      (collection : Denotes st scope source xs)
      (each : List.Forall₂ (Denotes st scope) nodes functions) :
      MapsComposed st scope xs functions (.call mark [m, source, .call inside (c :: nodes)])

/-- The expression maps the collection with the functions one after the other, the last first. -/
inductive MapsNested (st : Store) (scope : Scope) (xs : Value) : List Value → Node → Prop
  | collection {source : Node} (denotes : Denotes st scope source xs) :
      MapsNested st scope xs [] source
  | map (mark : Mark) {m source g : Node} {f : Value} {fs : List Value}
      (map : Denotes st scope m (Builtin.toValue .map))
      (inner : MapsNested st scope xs fs source) (function : Denotes st scope g f) :
      MapsNested st scope xs (f :: fs) (.call mark [m, source, g])

theorem MapsComposed.yields (spelled : MapsComposed base scope xs functions n)
    (sound : base.Sound) (present : xs.Present base) (distinct : xs.KeysDistinct)
    (nonempty : functions ≠ []) (each : ∀ f ∈ functions, f.Present base) :
    Yields limit now base scope n (∀ x ∈ xs.parts, Completes limit now base functions x)
      (Maps limit now base xs functions) := by
  obtain ⟨mark, inside, map, compose, collection, denoted⟩ := spelled
  refine .map mark map (collection.yields.imp id ?_)
    (.compose inside compose denoted nonempty each) fun _ => trivial
  rintro st _ more rfl
  exact .start sound present distinct more

/-- Every further map is decided by what the ones inside it made. -/
theorem MapsNested.yields (spelled : MapsNested base scope xs fs n) (sound : base.Sound)
    (present : xs.Present base) (distinct : xs.KeysDistinct) (each : ∀ f ∈ fs, f.Present base) :
    Yields limit now base scope n (∀ x ∈ xs.parts, Completes limit now base fs x) fun st v =>
      Carries limit now base xs fs st v ∧ (fs ≠ [] → Maps limit now base xs fs st v) := by
  induction spelled with
  | collection denotes =>
    refine denotes.yields.imp (fun _ => trivial) ?_
    rintro st _ more rfl
    exact ⟨.start sound present distinct more, fun nonempty => absurd rfl nonempty⟩
  | @map mark m source g f fs map _ function ih =>
    have inner := ih fun g member => each g (List.mem_cons_of_mem f member)
    have further : Yields limit now base scope g True
        fun _ g => Continues limit now base fs (f :: fs) g := by
      refine function.yields.imp id ?_
      intro st h _ same
      rw [same]
      intro s x y reaches fuel callee scope
      exact reaches.decides (each f List.mem_cons_self) fuel callee scope
    have maps : Yields limit now base scope (.call mark [m, source, g])
        (∀ x ∈ xs.parts, Completes limit now base (f :: fs) x) (Maps limit now base xs (f :: fs)) :=
      .map mark map (inner.imp id fun _ _ _ => And.left) further
        fun completes x member => (completes x member).rest
    exact maps.imp id fun _ _ _ made => ⟨made.carries distinct, fun _ => made⟩

/-- Mapping a composition is composing maps. Let there be one function or more, and an array, an
object or anything else, and let no evaluation end for want of fuel or room. Then mapping the
composition goes well exactly if mapping the functions one after the other does, and the results
resemble each other, with their parts in the same order and under the same keys. -/
theorem map_compose (limit : Nat) (now : Date) (sound : s.store.Sound)
    (below : scope.Below s.store.levels.size) (present : xs.Present s.store)
    (distinct : xs.KeysDistinct) (nonempty : functions ≠ [])
    (each : ∀ f ∈ functions, f.Present s.store) {composed nested : Node}
    (spelled : MapsComposed s.store scope xs functions composed)
    (spelled' : MapsNested s.store scope xs functions nested) {fuel fuel' : Nat}
    {x y : Except Stop Value × State}
    (run : perform (.standard limit now) fuel (.node composed scope) s = x) (ends : Ends limit x)
    (run' : perform (.standard limit now) fuel' (.node nested scope) s = y)
    (ends' : Ends limit y) :
    ((∃ v, x.1 = .ok v) ↔ ∃ w, y.1 = .ok w) ∧
      ∀ v w, x.1 = .ok v → y.1 = .ok w → v.Resembles w := by
  have within : Within s.store scope s.store scope := .start below
  have yields : Yields limit now s.store scope composed _ _ :=
    spelled.yields sound present distinct nonempty each
  have yields' : Yields limit now s.store scope nested _ _ :=
    spelled'.yields sound present distinct each
  have decides := yields fuel s scope within
  have decides' := yields' fuel' s scope within
  rw [run] at decides
  rw [run'] at decides'
  have maps (w : Value) (same : y.1 = .ok w) := (decides'.result w same).2 nonempty
  refine ⟨⟨?_, ?_⟩, fun v w same same' => (decides.result v same).resembles (maps w same')⟩
  · rintro ⟨v, same⟩
    exact decides'.goes (decides.result v same).completes ends'
  · rintro ⟨w, same⟩
    exact decides.goes (maps w same).completes ends

/-- `{a: "x", b: null}`, with a number of its own. -/
def wares : Value := .object workshop.store.nextId [("a", .string "x"), ("b", .null)]

/-- The workshop once that number is taken. -/
def stocked : State := { workshop with store := (workshop.store.reserve 1).2 }

/-- `(map wares (compose make toString))` -/
def waresAtOnce : Node :=
  .call ⟨"(", 0⟩ [.leaf ⟨"map", 1⟩ .identifier, .leaf ⟨"wares", 5⟩ (.keyword wares),
    .call ⟨"(", 11⟩ [.leaf ⟨"compose", 12⟩ .identifier, .leaf ⟨"make", 20⟩ .identifier,
      .leaf ⟨"toString", 25⟩ .identifier]]

/-- `(map (map wares toString) make)` -/
def waresInTurn : Node :=
  .call ⟨"(", 0⟩ [.leaf ⟨"map", 1⟩ .identifier,
    .call ⟨"(", 5⟩ [.leaf ⟨"map", 6⟩ .identifier, .leaf ⟨"wares", 10⟩ (.keyword wares),
      .leaf ⟨"toString", 16⟩ .identifier],
    .leaf ⟨"make", 26⟩ .identifier]

/-- What becomes of an expression there. -/
def worked (n : Node) : Except Stop Value × State :=
  perform (.standard 256 ⟨0, 0, 0⟩) 20 (.node n ⟨1, [0]⟩) stocked

/-- Both ways every entry of the wares becomes a function. -/
theorem map_compose_wares :
    ∃ v w, (worked waresAtOnce).1 = .ok v ∧ (worked waresInTurn).1 = .ok w ∧ v.Resembles w := by
  have finished {x : Except Stop Value × State} (ok : x.1.isOk = true) :
      Ends 256 x ∧ ∃ v, x.1 = .ok v := by
    obtain ⟨_ | v, last⟩ := x
    · cases ok
    · exact ⟨ends_ok 256 v last, v, rfl⟩
  have sound : stocked.store.Sound := workshop_sound.reserve 1
  have taken : Builtin.all.length ≤ stocked.store.nextId := by decide +kernel
  obtain ⟨make, found⟩ : ∃ make, stocked.store.get? ⟨1, [0]⟩ "make" = some make :=
    Option.isSome_iff_exists.mp (by decide +kernel)
  have makes (offset : Nat) :
      Denotes stocked.store ⟨1, [0]⟩ (.leaf ⟨"make", offset⟩ .identifier) make := by
    refine ⟨_, _, rfl, ?_⟩
    show (Except.ok ((stocked.store.get? ⟨1, [0]⟩ "make").getD .undefined), _) = _
    rw [found, Option.getD_some]
  have present : wares.Present stocked.store := by
    refine .object (Nat.lt_succ_self _) ?_
    simp [Value.Present.string, Value.Present.null]
  have distinct : ["a", "b"].Nodup := by decide
  have each : ∀ f ∈ [make, Builtin.toValue .toString], f.Present stocked.store := by
    intro f member
    rcases List.mem_pair.mp member with rfl | rfl
    · exact sound.get? found
    · exact Builtin.toValue_present taken .toString
  have atOnce : MapsComposed stocked.store ⟨1, [0]⟩ wares [make, Builtin.toValue .toString]
      waresAtOnce :=
    .mk ⟨"(", 0⟩ ⟨"(", 11⟩ ⟨_, _, rfl, rfl⟩ ⟨_, _, rfl, rfl⟩ ⟨_, _, rfl, rfl⟩
      (.cons (makes 20) (.cons ⟨_, _, rfl, rfl⟩ .nil))
  have inTurn : MapsNested stocked.store ⟨1, [0]⟩ wares [make, Builtin.toValue .toString]
      waresInTurn :=
    .map ⟨"(", 0⟩ ⟨_, _, rfl, rfl⟩
      (.map ⟨"(", 5⟩ ⟨_, _, rfl, rfl⟩ (.collection ⟨_, _, rfl, rfl⟩) ⟨_, _, rfl, rfl⟩) (makes 26)
  obtain ⟨ends, v, same⟩ := finished (show (worked waresAtOnce).1.isOk = true by decide +kernel)
  obtain ⟨ends', -⟩ := finished (show (worked waresInTurn).1.isOk = true by decide +kernel)
  obtain ⟨both, alike⟩ := map_compose 256 ⟨0, 0, 0⟩ sound (by decide +kernel) present distinct
    (List.cons_ne_nil _ _) each atOnce inTurn rfl ends rfl ends'
  obtain ⟨w, same'⟩ := both.mp ⟨v, same⟩
  exact ⟨v, w, same, same', alike v w same same'⟩

end Parallel

end Bracket
