import Bracket.Proofs.Evaluator.Values
import Bracket.Proofs.Json.Documents
import Bracket.Proofs.Number
import Bracket.Session.Basic

/-!
Values that JSON can hold: null, booleans, whole numbers below `2 ^ 53`, texts, and arrays and
objects of these. Each has a document with the same contents, in the same order and as deeply
nested.
Main statement: `fromJSON` reads back what `toJSON` writes for such a value, if it is nested at most
127 deep, and refuses it otherwise.
-/

namespace Bracket

namespace Value

/-! ### Values as data -/

mutual

/-- The value has an exact document. -/
def isData : Value → Bool
  | .null | .bool _ | .string _ => true
  | .number x => x.toInt?.any fun n => n.natAbs < 2 ^ 53
  | .array _ items => areData items
  | .object _ entries => decide (Table.keys entries).Nodup && areEntriesData entries
  | _ => false

def areData : List Value → Bool
  | [] => true
  | item :: rest => isData item && areData rest

def areEntriesData : List (String × Value) → Bool
  | [] => true
  | (_, item) :: rest => isData item && areEntriesData rest

end

mutual

/-- How deeply arrays and objects are nested. -/
def nesting : Value → Nat
  | .array _ items => itemsNesting items + 1
  | .object _ entries => entriesNesting entries + 1
  | _ => 0

def itemsNesting : List Value → Nat
  | [] => 0
  | item :: rest => max (nesting item) (itemsNesting rest)

def entriesNesting : List (String × Value) → Nat
  | [] => 0
  | (_, item) :: rest => max (nesting item) (entriesNesting rest)

end

end Value

/-- A whole number below `2 ^ 53` is written as an integer of 64 bits. -/
theorem Number.toJson_eq {x : Number} {n : Int} (whole : x.toInt? = some n)
    (small : n.natAbs < 2 ^ 53) : x.toJson = .integer n ∧ Json.IsWord n := by
  constructor
  · rw [toInt?] at whole
    split at whole
    · next integral =>
      have value := Option.some.inj whole
      rw [toJson, integral, value, if_pos]
      simpa using small
    · cases whole
  · have powers : Int.pow 2 63 = 2 ^ 63 ∧ Int.pow 2 64 = 2 ^ 64 := ⟨rfl, rfl⟩
    rw [Json.IsWord, powers.1, powers.2]
    omega

namespace Value

/-! ### Values and their documents -/

theorem keys_membersToEntries (next : Nat) (members : List (String × Json)) :
    Table.keys (Json.membersToEntries next members) = Table.keys members := by
  induction members generalizing next with
  | nil => rfl
  | cons member rest ih =>
    obtain ⟨key, item⟩ := member
    rw [Json.membersToEntries, Table.keys_cons, Table.keys_cons, ih]

/-- The document has the contents of the value: it is written for the value, it can be read back,
it is as deeply nested, and its value has the same contents. -/
structure Mirrors (v : Value) (json : Json) : Prop where
  written : v.toJson = some json
  whole : json.Whole
  nesting : json.nesting = v.nesting
  same : ∀ next, v.same (json.toValue next) = true

structure ItemsMirror (items : List Value) (documents : List Json) : Prop where
  written : itemsToJson items = documents
  whole : Json.ItemsWhole documents
  nesting : Json.itemsNesting documents = itemsNesting items
  same : ∀ next, sameItems items (Json.itemsToValues next documents) = true

structure EntriesMirror (entries : List (String × Value)) (members : List (String × Json)) :
    Prop where
  written : entriesToJson entries = members
  keys : Table.keys members = Table.keys entries
  whole : Json.MembersWhole members
  nesting : Json.membersNesting members = entriesNesting entries
  same : ∀ next, sameEntries entries (Json.membersToEntries next members) = true

mutual

/-- What is data has a document with the same contents. -/
theorem exists_mirrors : (v : Value) → v.isData = true → ∃ json, Mirrors v json
  | .null, _ => ⟨.null, rfl, trivial, rfl, fun _ => rfl⟩
  | .bool b, _ => ⟨.bool b, rfl, trivial, rfl, fun _ => by simp [same, Json.toValue]⟩
  | .string s, _ => ⟨.string s, rfl, trivial, rfl, fun _ => by simp [same, Json.toValue]⟩
  | .number x, data => by
    rw [isData, Option.any_eq_true] at data
    obtain ⟨n, whole, small⟩ := data
    rw [decide_eq_true_eq] at small
    obtain ⟨integer, word⟩ := Number.toJson_eq whole small
    refine ⟨.integer n, by rw [toJson, integer], word, rfl, fun _ => ?_⟩
    rw [Json.toValue, same]
    exact Number.eq_ofInt whole small
  | .array _ items, data => by
    obtain ⟨documents, mirror⟩ := exists_itemsMirror items data
    refine ⟨.array documents, by rw [toJson, mirror.written], mirror.whole, ?_, fun next => ?_⟩
    · rw [Json.nesting, Value.nesting, mirror.nesting]
    · rw [Json.toValue, same]
      exact mirror.same (next + 1)
  | .object _ entries, data => by
    rw [isData, Bool.and_eq_true, decide_eq_true_eq] at data
    obtain ⟨members, mirror⟩ := exists_entriesMirror entries data.2
    have distinct : (Table.keys members).Nodup := mirror.keys ▸ data.1
    refine ⟨.object members, by rw [toJson, mirror.written], ⟨distinct, mirror.whole⟩, ?_,
      fun next => ?_⟩
    · rw [Json.nesting, Value.nesting, mirror.nesting]
    · have distinct' : (Table.keys ([] ++ Json.membersToEntries (next + 1) members)).Nodup := by
        rw [List.nil_append, keys_membersToEntries]
        exact distinct
      rw [Json.toValue, same, Table.ofEntries, Table.insertAll_of_nodup [] distinct']
      exact mirror.same (next + 1)
  | .undefined, data | .function _ _, data | .date _, data => by cases data

theorem exists_itemsMirror : (items : List Value) → areData items = true →
    ∃ documents, ItemsMirror items documents
  | [], _ => ⟨[], rfl, trivial, rfl, fun _ => rfl⟩
  | item :: rest, data => by
    rw [areData, Bool.and_eq_true] at data
    obtain ⟨json, first⟩ := exists_mirrors item data.1
    obtain ⟨documents, others⟩ := exists_itemsMirror rest data.2
    refine ⟨json :: documents, ?_, ⟨first.whole, others.whole⟩, ?_, fun next => ?_⟩
    · rw [itemsToJson, first.written, others.written, Option.getD_some]
    · rw [Json.itemsNesting, itemsNesting, first.nesting, others.nesting]
    · rw [Json.itemsToValues, sameItems, first.same, others.same]
      rfl

theorem exists_entriesMirror : (entries : List (String × Value)) → areEntriesData entries = true →
    ∃ members, EntriesMirror entries members
  | [], _ => ⟨[], rfl, rfl, trivial, rfl, fun _ => rfl⟩
  | (key, item) :: rest, data => by
    rw [areEntriesData, Bool.and_eq_true] at data
    obtain ⟨json, first⟩ := exists_mirrors item data.1
    obtain ⟨members, others⟩ := exists_entriesMirror rest data.2
    refine ⟨(key, json) :: members, ?_, ?_, ⟨first.whole, others.whole⟩, ?_, fun next => ?_⟩
    · simp only [entriesToJson, first.written, others.written]
    · rw [Table.keys_cons, Table.keys_cons, others.keys]
    · rw [Json.membersNesting, entriesNesting, first.nesting, others.nesting]
    · rw [Json.membersToEntries, sameEntries, first.same, others.same]
      simp

end

end Value

namespace Evaluator

/-! ### Writing and reading -/

variable {setting : Setting} {fuel : Nat} {scope : Scope} {callee : Option Node} {st : State}

theorem callWith_toJson {v : Value} {json : Json} (written : v.toJson = some json) :
    callWith setting (fuel + 1) Builtin.toJson.toValue scope [v] callee st =
      (.ok (.string json.text), st) := by
  rw [callWith_builtin, Builtin.routine, Library.toJson,
    run_argument (show [v][0]? = some v from rfl), written]
  rfl

theorem callWith_fromJson (text : String) :
    callWith setting (fuel + 1) Builtin.fromJson.toValue scope [.string text] callee st =
      match Json.read text with
      | .error e => (.error (.error e), st)
      | .ok json => (.ok (json.toValue st.store.nextId),
        { st with store := (st.store.reserve json.compounds).2 }) := by
  rw [callWith_builtin, Builtin.routine, Library.fromJson,
    run_argument (show [Value.string text][0]? = some (.string text) from rfl), Value.text,
    Library.parseJson]
  cases Json.read text <;> rfl

/-- What is data is written, and what was written of it is read back unless it is nested too
deeply. -/
theorem exists_written {v : Value} (data : v.isData = true) :
    ∃ json, v.toJson = some json ∧ (∀ next, v.same (json.toValue next) = true) ∧
      (v.nesting ≤ 127 → Json.read json.text = .ok json) ∧
      (127 < v.nesting → ∃ line column,
        Json.read json.text = .error (.json .recursionLimitExceeded line column)) := by
  obtain ⟨json, mirrors⟩ := v.exists_mirrors data
  have outcomes := Json.read_text mirrors.whole
  rw [mirrors.nesting] at outcomes
  exact ⟨json, mirrors.written, mirrors.same, outcomes⟩

/-- For every value that is data, `toJSON` writes a text. If the value is nested at most 127 deep,
`fromJSON` reads the text back, whenever and wherever it is called, as a value with the same
contents and the same order of keys; it refuses the text for its nesting otherwise. -/
theorem fromJson_toJson {v : Value} (data : v.isData = true) (setting setting' : Setting)
    (fuel fuel' : Nat) (scope scope' : Scope) (callee callee' : Option Node) (st st' : State) :
    ∃ text,
      callWith setting (fuel + 1) Builtin.toJson.toValue scope [v] callee st =
        (.ok (.string text), st) ∧
      (v.nesting ≤ 127 → ∃ v' after,
        callWith setting' (fuel' + 1) Builtin.fromJson.toValue scope' [.string text] callee' st' =
          (.ok v', after) ∧ v.same v' = true) ∧
      (127 < v.nesting → ∃ line column,
        callWith setting' (fuel' + 1) Builtin.fromJson.toValue scope' [.string text] callee' st' =
          (.error (.error (.json .recursionLimitExceeded line column)), st')) := by
  obtain ⟨json, written, same, accepted, refused⟩ := exists_written data
  have found := @callWith_fromJson setting' fuel' scope' callee' st' json.text
  refine ⟨json.text, callWith_toJson written, fun fits => ?_, fun deep => ?_⟩
  · rw [accepted fits] at found
    exact ⟨_, _, found, same st'.store.nextId⟩
  · obtain ⟨line, column, failed⟩ := refused deep
    rw [failed] at found
    exact ⟨line, column, found⟩

/-- Controls, quotes and backslashes in texts and keys, the largest whole numbers of either sign,
and empty arrays and objects. -/
theorem fromJson_toJson_escapes :
    ∃ v : Value, v.isData = true ∧ v.nesting = 3 ∧ ∃ text v' after,
      callWith { now := ⟨0, 0, 0⟩ } 1 Builtin.toJson.toValue ⟨0, []⟩ [v] none ⟨{}, 0⟩ =
        (.ok (.string text), ⟨{}, 0⟩) ∧
      callWith { now := ⟨0, 0, 0⟩ } 1 Builtin.fromJson.toValue ⟨0, []⟩ [.string text] none ⟨{}, 0⟩ =
        (.ok v', after) ∧ v.same v' = true := by
  let v : Value := .object 0 [("b\n\"\\", .array 1 [.number (.ofInt 9007199254740991),
    .number (.ofInt (-9007199254740991)), .array 2 []]), ("", .object 3 []),
    ("a", .string "\x00\x1f/😀"), ("n", .null), ("t", .bool true)]
  have data : v.isData = true := by decide +kernel
  have shallow : v.nesting = 3 := by decide +kernel
  obtain ⟨text, written, read, -⟩ := fromJson_toJson data { now := ⟨0, 0, 0⟩ } { now := ⟨0, 0, 0⟩ }
    0 0 ⟨0, []⟩ ⟨0, []⟩ none none ⟨{}, 0⟩ ⟨{}, 0⟩
  obtain ⟨v', after, found, same⟩ := read (by rw [shallow]; decide)
  exact ⟨v, data, shallow, text, v', after, written, found, same⟩

/-- What a new session makes of a text. -/
def outcome (text : String) : Except Stop Value :=
  (Session.evaluate 100 0 text [] (Session.standard, { now := ⟨0, 0, 0⟩ })).1

theorem exists_outcome {result : Except Stop Value} {p : Value → Bool}
    (holds : result.toOption.any p = true) : ∃ v, result = .ok v ∧ p v = true := by
  cases result with
  | error => cases holds
  | ok v => exact ⟨v, rfl, holds⟩

/-- Puts an array around zero as often as seven doublings of `array` do. -/
def doubling : String :=
  "(\x7bd ((d (d (d (d (d (d (d array))))))) 0)\x7d \x7bg (compose g g)\x7d)"

/-- Not everything that the language builds is read back: zero in 128 arrays is refused. -/
theorem fromJson_toJson_deep :
    ∃ v text line column, outcome doubling = .ok v ∧ v.isData = true ∧
      callWith { now := ⟨0, 0, 0⟩ } 1 Builtin.toJson.toValue ⟨0, []⟩ [v] none ⟨{}, 0⟩ =
        (.ok (.string text), ⟨{}, 0⟩) ∧
      callWith { now := ⟨0, 0, 0⟩ } 1 Builtin.fromJson.toValue ⟨0, []⟩ [.string text] none ⟨{}, 0⟩ =
        (.error (.error (.json .recursionLimitExceeded line column)), ⟨{}, 0⟩) := by
  have built : ((outcome doubling).toOption.any fun v => v.isData && v.nesting == 128) = true := by
    decide +kernel
  obtain ⟨v, evaluated, holds⟩ := exists_outcome built
  obtain ⟨data, deep⟩ : v.isData = true ∧ v.nesting = 128 := by simpa using holds
  obtain ⟨json, written, -, -, refused⟩ := exists_written data
  obtain ⟨line, column, failed⟩ := refused (by rw [deep]; decide)
  have found := @callWith_fromJson { now := ⟨0, 0, 0⟩ } 0 ⟨0, []⟩ none ⟨{}, 0⟩ json.text
  rw [failed] at found
  exact ⟨v, json.text, line, column, evaluated, data, callWith_toJson written, found⟩

end Evaluator

end Bracket
