import Bracket.Proofs.Evaluator.Plan
import Bracket.Proofs.Insertions
import Bracket.Proofs.Json.Normal
import Bracket.Proofs.Parallel.Mapping
import Mathlib.Algebra.Group.Nat.Even

/-!
Objects that the language makes. The library has four functions that do, and the value of a document
is the fifth source; each goes over keys and values of its own, and inserts them one after the
other.
Main statement: an object is one of these answers exactly if it is in the order of the insertions
that the call makes, which depend on the arguments and on what a function makes of values; and no
object of a document, however deep inside, has a key twice.
-/

namespace Bracket

namespace Library

open Routine

/-- Keys and values in turn, a value under the text of its key. -/
def paired : List Value → List (String × Value)
  | key :: v :: rest => (key.text, v) :: paired rest
  | _ => []

theorem entriesFrom_eq (call : Call) (position : Nat) (entries : Table Value) (count : Nat)
    (all : position + count = call.size) :
    entriesFrom call position entries count = argumentRange position count >>= fun values =>
      if Even values.length then .done (entries.insertAll (paired values))
      else .fail (.arity call.calleeText call.size) := by
  fun_induction entriesFrom call position entries count with
  | case1 position entries => rfl
  | case2 position entries =>
    have inside : position < call.size := by omega
    have behind : ¬ position + 1 < call.size := by omega
    simp only [argument, if_pos inside, if_neg behind, argumentRange]
    rfl
  | case3 position entries count ih =>
    have inside : position < call.size := by omega
    have inside' : position + 1 < call.size := by omega
    simp only [argument, if_pos inside, if_pos inside', argumentRange, ask_bind, done_bind]
    refine congrArg (Routine.ask (.argument position)) (funext fun (key : Value) => ?_)
    refine congrArg (Routine.ask (.argument (position + 1))) (funext fun (v : Value) => ?_)
    refine (ih key v (by omega)).trans ?_
    simp only [bind_assoc, pure_eq, done_bind]
    refine congrArg (argumentRange (position + 2) count >>= ·) (funext fun rest => ?_)
    have even : Even (key :: v :: rest).length ↔ Even rest.length := by simp [Nat.even_add_one]
    simp only [even, paired, Table.insertAll, List.foldl_cons]

/-- An object is made of pairs of arguments; one that is left over is an error. -/
theorem object_eq (call : Call) :
    object call = arguments call >>= fun values =>
      if Even values.length then newObject (Table.ofEntries (paired values))
      else .fail (.arity call.calleeText call.size) := by
  have size : argumentsFrom call 0 = argumentRange 0 call.size := by
    rw [argumentsFrom, Nat.sub_zero]
  rw [object, entriesFrom_eq call 0 [] call.size (Nat.zero_add _), arguments, size, bind_assoc]
  refine congrArg (argumentRange 0 call.size >>= ·) (funext fun values => ?_)
  split <;> rfl

/-- The flag in front, false where there is none, and the values behind it. -/
def flagged : List Value → Bool × List Value
  | .bool b :: rest => (b, rest)
  | values => (false, values)

/-- The entries of the source that a refined copy keeps: those under the texts of the given keys, or
all others if the flag says so. -/
def keptEntries (values : List Value) : List (String × Value) :=
  let (exclude, values) := flagged values
  let source := values.headD .undefined
  let wanted := (values.drop 1).map Value.text
  (source.entryKeys.filter fun key => wanted.contains key != exclude).map fun key =>
    (key, source.entry key)

theorem refine_eq (call : Call) :
    refine call = arguments call >>= fun values =>
      newObject (Table.ofEntries (keptEntries values)) := by
  refine congrArg (arguments call >>= ·) (funext fun values => ?_)
  cases values with
  | nil => rfl
  | cons first rest => cases first <;> rfl

end Library

namespace Evaluator

variable {α β : Type} {setting : Setting} {evaluate : Task → Eval Value} {call : Call}
  {s after : State}

/-- One routine after another ends well exactly if both do. -/
theorem run_bind_eq_ok {r : Routine α} {f : α → Routine β} {b : β} :
    run setting evaluate call (r >>= f) s = (.ok b, after) ↔
      ∃ a mid, run setting evaluate call r s = (.ok a, mid) ∧
        run setting evaluate call (f a) mid = (.ok b, after) := by
  rw [run_bind, bind_apply]
  cases run setting evaluate call r s with
  | mk result mid =>
    cases result with
    | error stop =>
      constructor
      · rintro ⟨⟩
      · rintro ⟨_, _, ⟨⟩, _⟩
    | ok a =>
      constructor
      · exact fun ended => ⟨a, mid, rfl, ended⟩
      · rintro ⟨_, _, ⟨⟩, ended⟩
        exact ended

/-- The state when so many numbers have been given out. -/
def State.reserve (s : State) (count : Nat) : State :=
  { s with store := (s.store.reserve count).2 }

theorem run_newObject_eq_ok {entries : Table Value} {v : Value} :
    run setting evaluate call (Routine.newObject entries) s = (.ok v, after) ↔
      v = .object s.store.nextId entries ∧ after = s.reserve 1 := by
  have made : run setting evaluate call (Routine.newObject entries) s =
      (.ok (.object s.store.nextId entries), s.reserve 1) := rfl
  rw [made, Prod.mk.injEq, Except.ok.injEq, eq_comm, @eq_comm _ (s.reserve 1)]

/-- The insertions that a call of a library function makes into an object of its own, with the
number that the object gets and the state that is left. -/
inductive Inserts (setting : Setting) (evaluate : Task → Eval Value) (call : Call) (s : State) :
    Builtin → List (String × Value) → Nat → State → Prop
  /-- The arguments are keys and values in turn. -/
  | object {values : List Value} {mid : State}
      (given : run setting evaluate call (Routine.arguments call) s = (.ok values, mid))
      (even : Even values.length) :
      Inserts setting evaluate call s .object (Library.paired values) mid.store.nextId
        (mid.reserve 1)
  /-- The keys of an object, with what the function makes of its values one after the other. -/
  | map {id : Nat} {entries : Table Value} {f : Value} {results : List Value}
      {looked mid last : State}
      (source : run setting evaluate call (Routine.argument call 0) s =
        (.ok (.object id entries), looked))
      (function : run setting evaluate call (Routine.argument call 1) looked = (.ok f, mid))
      (each : run setting evaluate call
        ((entries.map Prod.snd).mapM fun v => Routine.invoke f [v]) mid = (.ok results, last)) :
      Inserts setting evaluate call s .map ((Table.keys entries).zip results) last.store.nextId
        (last.reserve 1)
  /-- Nothing comes of what is neither an array nor an object. -/
  | mapOther {v f : Value} {looked mid : State}
      (source : run setting evaluate call (Routine.argument call 0) s = (.ok v, looked))
      (other : v.kind ≠ .array ∧ v.kind ≠ .object)
      (function : run setting evaluate call (Routine.argument call 1) looked = (.ok f, mid)) :
      Inserts setting evaluate call s .map [] mid.store.nextId (mid.reserve 1)
  /-- The entries of the source that are kept. -/
  | refine {values : List Value} {mid : State}
      (given : run setting evaluate call (Routine.arguments call) s = (.ok values, mid)) :
      Inserts setting evaluate call s .refine (Library.keptEntries values) mid.store.nextId
        (mid.reserve 1)
  /-- The members of the document that the text holds, with their values. -/
  | fromJson {v : Value} {members : List (String × Json)} {mid : State}
      (given : run setting evaluate call (Routine.argument call 0) s = (.ok v, mid))
      (read : Json.read v.text = .ok (.object members)) :
      Inserts setting evaluate call s .fromJson
        (Json.membersToEntries (mid.store.nextId + 1) members) mid.store.nextId
        (mid.reserve (Json.compounds (.object members)))

variable {id : Nat} {t : Table Value}

theorem object_inserts :
    run setting evaluate call (Library.object call) s = (.ok (.object id t), after) ↔
      ∃ inserts, Inserts setting evaluate call s .object inserts id after ∧
        t = Table.ofEntries inserts := by
  rw [Library.object_eq, run_bind_eq_ok]
  constructor
  · rintro ⟨values, mid, given, ended⟩
    split at ended
    · next even =>
      obtain ⟨made, rfl⟩ := run_newObject_eq_ok.mp ended
      obtain ⟨rfl, rfl⟩ := Value.object.inj made
      exact ⟨_, .object given even, rfl⟩
    · cases ended
  · rintro ⟨_, inserted, rfl⟩
    cases inserted with
    | object given even =>
      refine ⟨_, _, given, ?_⟩
      rw [if_pos even]
      rfl

theorem map_inserts :
    run setting evaluate call (Library.map call) s = (.ok (.object id t), after) ↔
      ∃ inserts, Inserts setting evaluate call s .map inserts id after ∧
        t = Table.ofEntries inserts := by
  rw [Library.map, run_bind_eq_ok]
  constructor
  · rintro ⟨v, looked, source, ended⟩
    obtain ⟨f, mid, function, ended⟩ := run_bind_eq_ok.mp ended
    cases v with
    | array id' items =>
      obtain ⟨results, last, -, ended⟩ := run_bind_eq_ok.mp ended
      cases ended
    | object id' entries =>
      have ended : run setting evaluate call (_ >>= fun mapped =>
        Routine.newObject (Table.ofEntries mapped)) mid = _ := ended
      rw [Library.mapObject_eq] at ended
      obtain ⟨results, last, each, ended⟩ := run_bind_eq_ok.mp ended
      obtain ⟨made, rfl⟩ := run_newObject_eq_ok.mp ended
      obtain ⟨rfl, rfl⟩ := Value.object.inj made
      exact ⟨_, .map source function each, rfl⟩
    | _ =>
      obtain ⟨made, rfl⟩ := run_newObject_eq_ok.mp ended
      obtain ⟨rfl, rfl⟩ := Value.object.inj made
      exact ⟨_, .mapOther source (by simp [Value.kind]) function, rfl⟩
  · rintro ⟨_, inserted, rfl⟩
    cases inserted with
    | @map id' entries f results looked mid last source function each =>
      refine ⟨_, _, source, run_bind_eq_ok.mpr ⟨_, _, function, ?_⟩⟩
      show run setting evaluate call (_ >>= fun mapped =>
        Routine.newObject (Table.ofEntries mapped)) mid = _
      rw [Library.mapObject_eq]
      exact run_bind_eq_ok.mpr ⟨_, _, each, rfl⟩
    | @mapOther v f looked mid source other function =>
      refine ⟨_, _, source, run_bind_eq_ok.mpr ⟨_, _, function, ?_⟩⟩
      cases v with
      | array => exact absurd rfl other.1
      | object => exact absurd rfl other.2
      | _ => rfl

theorem refine_inserts :
    run setting evaluate call (Library.refine call) s = (.ok (.object id t), after) ↔
      ∃ inserts, Inserts setting evaluate call s .refine inserts id after ∧
        t = Table.ofEntries inserts := by
  rw [Library.refine_eq, run_bind_eq_ok]
  constructor
  · rintro ⟨values, mid, given, ended⟩
    obtain ⟨made, rfl⟩ := run_newObject_eq_ok.mp ended
    obtain ⟨rfl, rfl⟩ := Value.object.inj made
    exact ⟨_, .refine given, rfl⟩
  · rintro ⟨_, inserted, rfl⟩
    cases inserted with
    | refine given => exact ⟨_, _, given, rfl⟩

theorem fromJson_inserts :
    run setting evaluate call (Library.fromJson call) s = (.ok (.object id t), after) ↔
      ∃ inserts, Inserts setting evaluate call s .fromJson inserts id after ∧
        t = Table.ofEntries inserts := by
  rw [Library.fromJson, run_bind_eq_ok]
  constructor
  · rintro ⟨v, mid, given, ended⟩
    rw [Library.parseJson] at ended
    cases read : Json.read v.text with
    | error e =>
      rw [read] at ended
      cases ended
    | ok json =>
      rw [read] at ended
      cases json with
      | object members =>
        cases ended
        exact ⟨_, .fromJson given read, rfl⟩
      | _ => cases ended
  · rintro ⟨_, inserted, rfl⟩
    cases inserted with
    | fromJson given read =>
      refine ⟨_, _, given, ?_⟩
      rw [Library.parseJson, read]
      rfl

end Evaluator

/-! ### Values of documents -/

namespace Value

theorem entriesHaveDistinctKeys_iff (entries : List (String × Value)) :
    entriesHaveDistinctKeys entries = true ↔ ∀ entry ∈ entries, entry.2.hasDistinctKeys = true := by
  induction entries with
  | nil => simp [entriesHaveDistinctKeys]
  | cons entry rest ih => simp [entriesHaveDistinctKeys, ih]

end Value

namespace Json

mutual

/-- No object of the value of a document has a key twice. -/
theorem hasDistinctKeys_toValue (json : Json) (next : Nat) :
    (json.toValue next).hasDistinctKeys = true := by
  match json with
  | .null | .bool _ | .integer _ | .float _ | .string _ => rfl
  | .array items => exact haveDistinctKeys_itemsToValues items (next + 1)
  | .object members =>
    have made := Table.ofEntries_insertionOrdered (membersToEntries (next + 1) members)
    rw [toValue, Value.hasDistinctKeys, Bool.and_eq_true, decide_eq_true_eq]
    refine ⟨made.distinct, (Value.entriesHaveDistinctKeys_iff _).mpr fun entry member => ?_⟩
    exact hasDistinctKeys_membersToEntries members (next + 1) entry (made.subset member)

theorem haveDistinctKeys_itemsToValues (items : List Json) (next : Nat) :
    Value.haveDistinctKeys (itemsToValues next items) = true := by
  match items with
  | [] => rfl
  | item :: rest =>
    rw [itemsToValues, Value.haveDistinctKeys, hasDistinctKeys_toValue,
      haveDistinctKeys_itemsToValues]
    rfl

theorem hasDistinctKeys_membersToEntries (members : List (String × Json)) (next : Nat) :
    ∀ entry ∈ membersToEntries next members, entry.2.hasDistinctKeys = true := by
  match members with
  | [] => exact List.forall_mem_nil _
  | (key, item) :: rest =>
    exact List.forall_mem_cons.mpr ⟨hasDistinctKeys_toValue item next,
      hasDistinctKeys_membersToEntries rest (next + compounds item)⟩

end

end Json

namespace Evaluator

/-- The library functions that make objects. -/
def makesObjects : Builtin → Bool
  | .object | .map | .refine | .fromJson => true
  | _ => false

/-- Objects are in the order of their insertions. Entries that are inserted one after the other, in
whatever number and with whatever keys, make the one table in which no key comes twice, the keys
stand as they were first inserted, and each has the value that was inserted last. The library
functions that make objects answer with such a table of what they insert, whenever and wherever they
are called, and with no other object; and so does every object of a document, with all objects
inside it. -/
theorem objects_insertion_ordered :
    (∀ {α : Type} (inserts : List (String × α)) (t : Table α),
      t = Table.ofEntries inserts ↔ Table.InsertionOrdered inserts t) ∧
    (∀ (setting : Setting) (fuel : Nat) (call : Call) (s after : State) (b : Builtin) (id : Nat)
        (t : Table Value), makesObjects b = true →
      (perform setting (fuel + 1) (.call b.toValue call) s = (.ok (.object id t), after) ↔
        ∃ inserts, Inserts setting (perform setting fuel) call s b inserts id after ∧
          Table.InsertionOrdered inserts t)) ∧
    (∀ (members : List (String × Json)) (next id : Nat) (t : Table Value),
      (Json.object members).toValue next = .object id t ↔
        id = next ∧ Table.InsertionOrdered (Json.membersToEntries (next + 1) members) t) ∧
    ∀ (json : Json) (next : Nat), (json.toValue next).hasDistinctKeys = true := by
  refine ⟨fun inserts t => Table.eq_ofEntries_iff, ?_, ?_, Json.hasDistinctKeys_toValue⟩
  · intro setting fuel call s after b id t makes
    simp only [← Table.eq_ofEntries_iff]
    cases b with
    | object => exact object_inserts
    | map => exact map_inserts
    | refine => exact refine_inserts
    | fromJson => exact fromJson_inserts
    | _ => cases makes
  · intro members next id t
    rw [← Table.eq_ofEntries_iff, Json.toValue, Value.object.injEq, eq_comm,
      @eq_comm _ (Table.ofEntries _)]

/-- The arguments of `(object "b" 1 "a" 2 "b" 3)`, not yet evaluated. -/
def repeating : Call where
  scope := ⟨0, []⟩
  arguments := [.string "b", .number 1, .string "a", .number 2, .string "b", .number 3].map
    fun literal => .node (.leaf ⟨"", 0⟩ literal)
  callee := none

/-- The second insertion of a key keeps the place of the first. -/
theorem objects_insertion_ordered_repeating :
    let inserts : List (String × Value) := [("b", .number 1), ("a", .number 2), ("b", .number 3)]
    let t : Table Value := [("b", .number 3), ("a", .number 2)]
    Table.InsertionOrdered inserts t ∧
      ∃ id after, perform { now := ⟨0, 0, 0⟩ } 2 (.call Builtin.object.toValue repeating) ⟨{}, 0⟩ =
        (.ok (.object id t), after) := by
  intro inserts t
  obtain ⟨tables, calls, -⟩ := objects_insertion_ordered
  have made : Table.InsertionOrdered inserts t := (tables inserts t).mp rfl
  have given : run { now := ⟨0, 0, 0⟩ } (perform { now := ⟨0, 0, 0⟩ } 1) repeating
      (Routine.arguments repeating) ⟨{}, 0⟩ =
      (.ok [.string "b", .number 1, .string "a", .number 2, .string "b", .number 3], ⟨{}, 0⟩) := rfl
  have inserted : Inserts { now := ⟨0, 0, 0⟩ } (perform { now := ⟨0, 0, 0⟩ } 1) repeating ⟨{}, 0⟩
      .object inserts Builtin.all.length (State.reserve ⟨{}, 0⟩ 1) := .object given (by decide)
  exact ⟨made, _, _, (calls _ 1 _ _ _ .object _ t rfl).mpr ⟨inserts, inserted, made⟩⟩

end Evaluator

end Bracket
