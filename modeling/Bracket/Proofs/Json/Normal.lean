import Bracket.Proofs.Json.Values

/-!
What JSON keeps of a value. A document holds no NaN, no infinity, no negative zero, no date, no
function and no undefined value; each is replaced or left out, and all else is kept with its order.
Main statement: to write a document and to take its value is this normalization and nothing else,
for every value whose objects have no key twice, and the value that comes back has the same
document.
-/

namespace Bracket

namespace Value

/-! ### Normal forms -/

/-- Undefined or a function, for which there is no document. -/
def isAbsent : Value → Bool
  | .undefined | .function .. => true
  | _ => false

mutual

/-- The value as JSON can hold it: null for NaN, the infinities, and items that are absent; zero
for the negative zero; the text of a date; and no entries that are absent. -/
def normal : Value → Value
  | .number x => if x.isFinite then .number (if x.isZero then 0 else x) else .null
  | .date d => .string d.text
  | .array id items => .array id (normalItems items)
  | .object id entries => .object id (normalEntries entries)
  | v => v

def normalItems : List Value → List Value
  | [] => []
  | item :: rest => (if item.isAbsent then .null else normal item) :: normalItems rest

def normalEntries : List (String × Value) → List (String × Value)
  | [] => []
  | (key, item) :: rest =>
    if item.isAbsent then normalEntries rest else (key, normal item) :: normalEntries rest

end

mutual

/-- The value without the numbers that tell its arrays and objects from others. -/
def content : Value → Value
  | .array _ items => .array 0 (itemsContent items)
  | .object _ entries => .object 0 (entriesContent entries)
  | v => v

def itemsContent : List Value → List Value
  | [] => []
  | item :: rest => content item :: itemsContent rest

def entriesContent : List (String × Value) → List (String × Value)
  | [] => []
  | (key, item) :: rest => (key, content item) :: entriesContent rest

end

mutual

/-- No object has a key twice. -/
def hasDistinctKeys : Value → Bool
  | .array _ items => haveDistinctKeys items
  | .object _ entries => decide (Table.keys entries).Nodup && entriesHaveDistinctKeys entries
  | _ => true

def haveDistinctKeys : List Value → Bool
  | [] => true
  | item :: rest => hasDistinctKeys item && haveDistinctKeys rest

def entriesHaveDistinctKeys : List (String × Value) → Bool
  | [] => true
  | (_, item) :: rest => hasDistinctKeys item && entriesHaveDistinctKeys rest

end

theorem toJson_eq_none_iff (v : Value) : v.toJson = none ↔ v.isAbsent = true := by
  cases v <;> simp [toJson, isAbsent]

theorem isAbsent_eq_false {v : Value} {json : Json} (written : v.toJson = some json) :
    v.isAbsent = false := by
  rw [Bool.eq_false_iff, ne_eq, ← toJson_eq_none_iff, written]
  exact Option.some_ne_none json

/-- The keys that are written are among those of the object, in their order. -/
theorem keys_entriesToJson_sublist (entries : List (String × Value)) :
    (Table.keys (entriesToJson entries)).Sublist (Table.keys entries) := by
  induction entries with
  | nil => exact List.Sublist.slnil
  | cons entry rest ih =>
    obtain ⟨key, item⟩ := entry
    rw [entriesToJson]
    split
    · exact ih.cons_cons key
    · exact ih.cons key

end Value

/-! ### Numbers -/

/-- A number that is not finite is written as null, a whole number below `2 ^ 53` as an integer, and
any other, which is not zero, as it is. -/
theorem Number.toJson_cases (x : Number) :
    (x.isFinite = false ∧ x.toJson = .null) ∨
    (x.isFinite = true ∧ ∃ n : Int, x.value = n ∧ n.natAbs < 2 ^ 53 ∧ x.toJson = .integer n) ∨
    (x.isFinite = true ∧ x.value ≠ 0 ∧ x.toJson = .float x) := by
  cases finite : x.isFinite with
  | false => exact .inl ⟨rfl, by simp [toJson, isIntegral, finite]⟩
  | true =>
    refine .inr ?_
    by_cases small : (x.isIntegral && x.value.num.natAbs < Nat.pow 2 53) = true
    · refine .inl ⟨rfl, x.value.num, ?_, ?_, by rw [toJson, if_pos small]⟩
      · simp only [isIntegral, finite, Bool.true_and, Bool.and_eq_true, beq_iff_eq] at small
        exact (Rat.den_eq_one_iff _).mp small.1 |>.symm
      · rw [Bool.and_eq_true, decide_eq_true_eq] at small
        exact small.2
    · refine .inr ⟨rfl, ?_, by rw [toJson, if_neg small, if_pos finite]⟩
      rintro zero
      exact small (by simp [isIntegral, finite, zero])

theorem Number.toJson_ofInt {n : Int} (small : n.natAbs < 2 ^ 53) :
    (ofInt n).toJson = .integer n := by
  obtain ⟨finite, value⟩ := value_ofInt small
  refine (toJson_eq ?_ small).1
  simp [toInt?, isIntegral, finite, value]

/-! ### What comes back -/

namespace Json

/-- The value of the document has the content of `v`, and the document is written for it again. -/
structure Restores (json : Json) (v : Value) : Prop where
  content : ∀ next, (json.toValue next).content = v.content
  same : ∀ next, (json.toValue next).same v = true
  again : ∀ next, (json.toValue next).toJson = some json

structure ItemsRestore (documents : List Json) (items : List Value) : Prop where
  content : ∀ next, Value.itemsContent (itemsToValues next documents) = Value.itemsContent items
  same : ∀ next, Value.sameItems (itemsToValues next documents) items = true
  again : ∀ next, Value.itemsToJson (itemsToValues next documents) = documents

structure MembersRestore (members : List (String × Json)) (entries : List (String × Value)) :
    Prop where
  content : ∀ next,
    Value.entriesContent (membersToEntries next members) = Value.entriesContent entries
  same : ∀ next, Value.sameEntries (membersToEntries next members) entries = true
  again : ∀ next, Value.entriesToJson (membersToEntries next members) = members

theorem restores_null : Restores .null .null := ⟨fun _ => rfl, fun _ => rfl, fun _ => rfl⟩

theorem restores_string (s : String) : Restores (.string s) (.string s) :=
  ⟨fun _ => rfl, fun _ => beq_self_eq_true s, fun _ => rfl⟩

/-- A number that has a document of its own is restored by it. -/
theorem restores_number {json : Json} {x : Number} (value : ∀ next, json.toValue next = .number x)
    (finite : x.isFinite = true) (written : x.toJson = json) : Restores json (.number x) := by
  refine ⟨fun next => by rw [value], fun next => ?_, fun next => ?_⟩
  · rw [value]
    exact Number.eq_of_value_eq finite finite rfl
  · rw [value, Value.toJson, written]

theorem ItemsRestore.nil : ItemsRestore [] [] := ⟨fun _ => rfl, fun _ => rfl, fun _ => rfl⟩

theorem ItemsRestore.cons {json : Json} {v : Value} {documents : List Json} {items : List Value}
    (rest : ItemsRestore documents items) (first : Restores json v) :
    ItemsRestore (json :: documents) (v :: items) := by
  refine ⟨fun next => ?_, fun next => ?_, fun next => ?_⟩
  · rw [itemsToValues, Value.itemsContent, Value.itemsContent, first.content, rest.content]
  · rw [itemsToValues, Value.sameItems, first.same, rest.same, Bool.and_self]
  · rw [itemsToValues, Value.itemsToJson, first.again, rest.again, Option.getD_some]

theorem MembersRestore.nil : MembersRestore [] [] := ⟨fun _ => rfl, fun _ => rfl, fun _ => rfl⟩

theorem MembersRestore.cons {members : List (String × Json)} {entries : List (String × Value)}
    (rest : MembersRestore members entries) (key : String) {json : Json} {v : Value}
    (first : Restores json v) :
    MembersRestore ((key, json) :: members) ((key, v) :: entries) := by
  refine ⟨fun next => ?_, fun next => ?_, fun next => ?_⟩
  · rw [membersToEntries, Value.entriesContent, Value.entriesContent, first.content, rest.content]
  · rw [membersToEntries, Value.sameEntries, first.same, rest.same, beq_self_eq_true]
    rfl
  · simp only [membersToEntries, Value.entriesToJson, first.again, rest.again]

theorem ItemsRestore.array {documents : List Json} {items : List Value}
    (each : ItemsRestore documents items) (id : Nat) :
    Restores (.array documents) (.array id items) := by
  refine ⟨fun next => ?_, fun next => each.same (next + 1), fun next => ?_⟩
  · rw [toValue, Value.content, Value.content, each.content]
  · rw [toValue, Value.toJson, each.again]

/-- Without a key twice, no entry is written over another. -/
theorem MembersRestore.object {members : List (String × Json)} {entries : List (String × Value)}
    (each : MembersRestore members entries) (distinct : (Table.keys members).Nodup) (id : Nat) :
    Restores (.object members) (.object id entries) := by
  have value (next : Nat) :
      (Json.object members).toValue next = .object next (membersToEntries (next + 1) members) := by
    have keys : (Table.keys ([] ++ membersToEntries (next + 1) members)).Nodup := by
      rw [List.nil_append, Value.keys_membersToEntries]
      exact distinct
    rw [toValue, Table.ofEntries, Table.insertAll_of_nodup [] keys, List.nil_append]
  refine ⟨fun next => ?_, fun next => ?_, fun next => ?_⟩
  · rw [value, Value.content, Value.content, each.content]
  · rw [value]
    exact each.same (next + 1)
  · rw [value, Value.toJson, each.again]

end Json

namespace Value

theorem toJson_number_restores (x : Number) : x.toJson.Restores (Value.number x).normal := by
  rcases x.toJson_cases with ⟨infinite, written⟩ | ⟨finite, n, value, small, written⟩ |
    ⟨finite, nonzero, written⟩
  · rw [written, normal, infinite]
    exact Json.restores_null
  · rw [written, normal, if_pos finite, ← Number.ofInt_eq finite value small]
    exact Json.restores_number (fun _ => rfl) (Number.value_ofInt small).1
      (Number.toJson_ofInt small)
  · have zero : x.isZero ≠ true := fun zero =>
      nonzero ((Number.value_eq_zero_iff finite).mpr zero)
    rw [written, normal, if_pos finite, if_neg zero]
    exact Json.restores_number (fun _ => rfl) finite written

mutual

/-- The document of a value restores its normal form. -/
theorem toJson_restores : (v : Value) → v.hasDistinctKeys = true → ∀ json, v.toJson = some json →
    json.Restores v.normal
  | .null, _, _, rfl => Json.restores_null
  | .bool b, _, _, rfl => ⟨fun _ => rfl, fun _ => beq_self_eq_true b, fun _ => rfl⟩
  | .number x, _, _, rfl => toJson_number_restores x
  | .string s, _, _, rfl => Json.restores_string s
  | .date d, _, _, rfl => Json.restores_string d.text
  | .array id items, distinct, _, rfl => (itemsToJson_restore items distinct).array id
  | .object id entries, distinct, _, rfl => by
    rw [hasDistinctKeys, Bool.and_eq_true, decide_eq_true_eq] at distinct
    exact (entriesToJson_restore entries distinct.2).object
      (distinct.1.sublist (keys_entriesToJson_sublist entries)) id
  | .undefined, _, _, written | .function .., _, _, written => by cases written

theorem itemsToJson_restore : (items : List Value) → haveDistinctKeys items = true →
    Json.ItemsRestore (itemsToJson items) (normalItems items)
  | [], _ => .nil
  | item :: rest, distinct => by
    rw [haveDistinctKeys, Bool.and_eq_true] at distinct
    have others := itemsToJson_restore rest distinct.2
    cases written : item.toJson with
    | none =>
      rw [itemsToJson, normalItems, written, if_pos ((toJson_eq_none_iff item).mp written)]
      exact others.cons Json.restores_null
    | some json =>
      rw [itemsToJson, normalItems, written, isAbsent_eq_false written]
      exact others.cons (toJson_restores item distinct.1 json written)

theorem entriesToJson_restore : (entries : List (String × Value)) →
    entriesHaveDistinctKeys entries = true →
    Json.MembersRestore (entriesToJson entries) (normalEntries entries)
  | [], _ => .nil
  | (key, item) :: rest, distinct => by
    rw [entriesHaveDistinctKeys, Bool.and_eq_true] at distinct
    have others := entriesToJson_restore rest distinct.2
    cases written : item.toJson with
    | none =>
      rw [entriesToJson, normalEntries, written, if_pos ((toJson_eq_none_iff item).mp written)]
      exact others
    | some json =>
      rw [entriesToJson, normalEntries, written, isAbsent_eq_false written]
      exact others.cons key (toJson_restores item distinct.1 json written)

end

/-- Undefined and functions alone have no document. For every other value whose objects have no key
twice, the value of its document, wherever the numbering starts, has the contents of the normal
form, with the very numbers, and the document is written for it again. -/
theorem toJson_normalizes (v : Value) :
    (v.toJson = none ↔ v.kind = .undefined ∨ v.kind = .function) ∧
    (v.hasDistinctKeys = true → ∀ json, v.toJson = some json → ∀ next,
      (json.toValue next).same v.normal = true ∧
      (json.toValue next).content = v.normal.content ∧
      (json.toValue next).toJson = some json) := by
  refine ⟨?_, fun distinct json written next => ?_⟩
  · rw [toJson_eq_none_iff]
    cases v <;> simp [isAbsent, kind]
  · have restores := toJson_restores v distinct json written
    exact ⟨restores.same next, restores.content next, restores.again next⟩

/-- Each kind of value that JSON cannot hold, at the top of an object and in an array of it. -/
theorem toJson_normalizes_mixed :
    ∃ (v : Value) (json : Json), v.hasDistinctKeys = true ∧ v.toJson = some json ∧
      (json.toValue 7).content = .object 0 [("zero", .number 0), ("none", .null),
        ("date", .string "1970-01-01T00:00:00.000Z"),
        ("items", .array 0 [.null, .null, .null, .number (.ofNat 9007199254740992)])] ∧
      (json.toValue 7).toJson = some json := by
  let v : Value := .object 3 [("zero", .number (.zero true)), ("left", .undefined),
    ("none", .number .nan), ("out", Builtin.plus.toValue), ("date", .date ⟨0, 0, 0⟩),
    ("items", .array 5 [.undefined, Builtin.plus.toValue, .number (.infinity true),
      .number (.ofNat 9007199254740992)])]
  have distinct : v.hasDistinctKeys = true := by decide +kernel
  obtain ⟨-, content, again⟩ := (toJson_normalizes v).2 distinct _ rfl 7
  exact ⟨v, _, distinct, rfl, content, again⟩

end Value

end Bracket
