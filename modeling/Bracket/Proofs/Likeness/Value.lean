import Bracket.Value.Entries
import Bracket.Value.Equality
import Bracket.Value.Json
import Bracket.Value.Slice
import Mathlib.Data.List.Forall2

/-!
Likeness: when a value of one run stands for a value of another. Alike values have the same
contents; their numbers and their closures may differ as far as a likeness allows. Nothing in the
language looks at a number but to compare it with another, and nothing looks into a closure but a
call of it, so whatever else the language does with alike values has the same result.
-/

namespace Bracket

/-- Which numbers of two runs belong together, and which bodies in which scopes make closures that
do. -/
structure Likeness where
  ids : Nat → Nat → Prop
  closures : Option Node → Scope → Option Node → Scope → Prop
  ids_iff : ∀ {i i' j j' : Nat}, ids i i' → ids j j' → (i = j ↔ i' = j')
  text_eq : ∀ {body body' : Option Node} {scope scope' : Scope},
    closures body scope body' scope' → body'.map Node.text = body.map Node.text

namespace Likeness

/-- Numbers may belong to themselves alone. -/
theorem eq_iff_eq {i i' j j' : Nat} (first : i = i') (second : j = j') : i = j ↔ i' = j' := by
  rw [first, second]

/-- Whatever the first likeness allows, the second does. -/
instance : LE Likeness where
  le C C' := (∀ i i', C.ids i i' → C'.ids i i') ∧
    ∀ body scope body' scope', C.closures body scope body' scope' →
      C'.closures body scope body' scope'

theorem le_refl (C : Likeness) : C ≤ C := ⟨fun _ _ => id, fun _ _ _ _ => id⟩

theorem le_trans {C D E : Likeness} (first : C ≤ D) (second : D ≤ E) : C ≤ E :=
  ⟨fun i i' same => second.1 i i' (first.1 i i' same),
    fun body scope body' scope' same =>
      second.2 body scope body' scope' (first.2 body scope body' scope' same)⟩

end Likeness

mutual

/-- The values have the same contents as far as the likeness allows. -/
inductive Value.Like (C : Likeness) : Value → Value → Prop
  | undefined : Value.Like C .undefined .undefined
  | null : Value.Like C .null .null
  | bool (b : Bool) : Value.Like C (.bool b) (.bool b)
  | number (n : Number) : Value.Like C (.number n) (.number n)
  | string (s : String) : Value.Like C (.string s) (.string s)
  | array {id id' : Nat} {items items' : List Value} (ids : C.ids id id')
      (each : List.Forall₂ (Value.Like C) items items') :
      Value.Like C (.array id items) (.array id' items')
  | object {id id' : Nat} {entries entries' : List (String × Value)} (ids : C.ids id id')
      (each : List.Forall₂ (Entry.Like C) entries entries') :
      Value.Like C (.object id entries) (.object id' entries')
  | function {id id' : Nat} {procedure procedure' : Procedure} (ids : C.ids id id')
      (alike : Procedure.Like C procedure procedure') :
      Value.Like C (.function id procedure) (.function id' procedure')
  | date (d : Date) : Value.Like C (.date d) (.date d)

/-- The entries have the same key and alike values. -/
inductive Entry.Like (C : Likeness) : String × Value → String × Value → Prop
  | mk (key : String) {v v' : Value} (alike : Value.Like C v v') :
      Entry.Like C (key, v) (key, v')

inductive Procedure.Like (C : Likeness) : Procedure → Procedure → Prop
  | closure (params : List String) {body body' : Option Node} {env env' : Scope}
      (same : C.closures body env body' env') :
      Procedure.Like C (.closure params body env) (.closure params body' env')
  | native (name : String) {code code' : Code} {properties properties' : List (String × Value)}
      (alike : Code.Like C code code')
      (each : List.Forall₂ (Entry.Like C) properties properties') :
      Procedure.Like C (.native name code properties) (.native name code' properties')

inductive Code.Like (C : Likeness) : Code → Code → Prop
  | builtin (b : Builtin) : Code.Like C (.builtin b) (.builtin b)
  | bound {f f' : Value} {values values' : List Value} (function : Value.Like C f f')
      (each : List.Forall₂ (Value.Like C) values values') :
      Code.Like C (.bound f values) (.bound f' values')
  | flipped {f f' : Value} {values values' : List Value} (function : Value.Like C f f')
      (each : List.Forall₂ (Value.Like C) values values') :
      Code.Like C (.flipped f values) (.flipped f' values')
  | chained {functions functions' : List Value}
      (each : List.Forall₂ (Value.Like C) functions functions') :
      Code.Like C (.chained functions) (.chained functions')
  | host (index : Nat) : Code.Like C (.host index) (.host index)

end

/-- The lists have alike values one by one. -/
abbrev Value.LikeAll (C : Likeness) : List Value → List Value → Prop :=
  List.Forall₂ (Value.Like C)

/-- The tables have the same keys in the same order, with alike values. -/
abbrev Table.Like (C : Likeness) : Table Value → Table Value → Prop :=
  List.Forall₂ (Entry.Like C)

variable {C C' : Likeness}

/-! ### Alike values stay alike -/

mutual

theorem Value.Like.mono (le : C ≤ C') {v v' : Value} : v.Like C v' → v.Like C' v'
  | .undefined => .undefined
  | .null => .null
  | .bool b => .bool b
  | .number n => .number n
  | .string s => .string s
  | .array ids each => .array (le.1 _ _ ids) (Value.LikeAll.mono le each)
  | .object ids each => .object (le.1 _ _ ids) (Table.Like.mono le each)
  | .function ids alike => .function (le.1 _ _ ids) (alike.mono le)
  | .date d => .date d

theorem Value.LikeAll.mono (le : C ≤ C') {values values' : List Value} :
    Value.LikeAll C values values' → Value.LikeAll C' values values'
  | .nil => .nil
  | .cons first rest => .cons (first.mono le) (Value.LikeAll.mono le rest)

theorem Table.Like.mono (le : C ≤ C') {entries entries' : Table Value} :
    Table.Like C entries entries' → Table.Like C' entries entries'
  | .nil => .nil
  | .cons (.mk key alike) rest => .cons (.mk key (alike.mono le)) (Table.Like.mono le rest)

theorem Procedure.Like.mono (le : C ≤ C') {p p' : Procedure} : p.Like C p' → p.Like C' p'
  | .closure params same => .closure params (le.2 _ _ _ _ same)
  | .native name alike each => .native name (alike.mono le) (Table.Like.mono le each)

theorem Code.Like.mono (le : C ≤ C') {code code' : Code} : code.Like C code' → code.Like C' code'
  | .builtin b => .builtin b
  | .bound function each => .bound (function.mono le) (Value.LikeAll.mono le each)
  | .flipped function each => .flipped (function.mono le) (Value.LikeAll.mono le each)
  | .chained each => .chained (Value.LikeAll.mono le each)
  | .host index => .host index

end

/-- Whatever the first likeness takes for alike to itself, the second does. -/
def Likeness.SelfLE (C C' : Likeness) : Prop :=
  (∀ i, C.ids i i → C'.ids i i) ∧
    ∀ body scope, C.closures body scope body scope → C'.closures body scope body scope

mutual

theorem Value.Like.self (le : C.SelfLE C') {v : Value} : v.Like C v → v.Like C' v
  | .undefined => .undefined
  | .null => .null
  | .bool b => .bool b
  | .number n => .number n
  | .string s => .string s
  | .array ids each => .array (le.1 _ ids) (Value.LikeAll.self le each)
  | .object ids each => .object (le.1 _ ids) (Table.Like.self le each)
  | .function ids alike => .function (le.1 _ ids) (alike.self le)
  | .date d => .date d

theorem Value.LikeAll.self (le : C.SelfLE C') {values : List Value} :
    Value.LikeAll C values values → Value.LikeAll C' values values
  | .nil => .nil
  | .cons first rest => .cons (first.self le) (Value.LikeAll.self le rest)

theorem Table.Like.self (le : C.SelfLE C') {entries : Table Value} :
    Table.Like C entries entries → Table.Like C' entries entries
  | .nil => .nil
  | .cons (.mk key alike) rest => .cons (.mk key (alike.self le)) (Table.Like.self le rest)

theorem Procedure.Like.self (le : C.SelfLE C') {p : Procedure} : p.Like C p → p.Like C' p
  | .closure params same => .closure params (le.2 _ _ same)
  | .native name alike each => .native name (alike.self le) (Table.Like.self le each)

theorem Code.Like.self (le : C.SelfLE C') {code : Code} : code.Like C code → code.Like C' code
  | .builtin b => .builtin b
  | .bound function each => .bound (function.self le) (Value.LikeAll.self le each)
  | .flipped function each => .flipped (function.self le) (Value.LikeAll.self le each)
  | .chained each => .chained (Value.LikeAll.self le each)
  | .host index => .host index

end

/-! ### Lists and tables -/

/-- Related lists have related items at every position. -/
theorem forall₂_getElem? {α β : Type} {R : α → β → Prop} {xs : List α} {ys : List β}
    (each : List.Forall₂ R xs ys) (i : Nat) : Option.Rel R xs[i]? ys[i]? := by
  induction each generalizing i with
  | nil => exact .none
  | cons first _ ih =>
    cases i with
    | zero => exact .some first
    | succ i => exact ih i

theorem forall₂_getLast? {α β : Type} {R : α → β → Prop} {xs : List α} {ys : List β}
    (each : List.Forall₂ R xs ys) : Option.Rel R xs.getLast? ys.getLast? := by
  rw [List.getLast?_eq_getElem?, List.getLast?_eq_getElem?, each.length_eq]
  exact forall₂_getElem? each _

/-- What is missing on both sides is undefined on both. -/
theorem Value.Like.getD {v v' : Option Value} (alike : Option.Rel (Value.Like C) v v') :
    (v.getD .undefined).Like C (v'.getD .undefined) := by
  cases alike with
  | none => exact .undefined
  | some alike => exact alike

theorem Value.LikeAll.headD {values values' : List Value} (each : LikeAll C values values') :
    (values.headD .undefined).Like C (values'.headD .undefined) := by
  cases each with
  | nil => exact .undefined
  | cons first _ => exact first

namespace Table.Like

variable {t t' : Table Value}

theorem keys (alike : Table.Like C t t') : Table.keys t' = Table.keys t := by
  induction alike with
  | nil => rfl
  | cons first _ ih =>
    obtain ⟨key, -⟩ := first
    exact congrArg (key :: ·) ih

theorem get? (alike : Table.Like C t t') (key : String) :
    Option.Rel (Value.Like C) (Table.get? t key) (Table.get? t' key) := by
  induction alike with
  | nil => exact .none
  | cons first _ ih =>
    obtain ⟨k, alike⟩ := first
    rw [Table.get?, Table.get?]
    split
    · exact .some alike
    · exact ih

theorem insert (alike : Table.Like C t t') (key : String) {v v' : Value} (value : v.Like C v') :
    Table.Like C (Table.insert t key v) (Table.insert t' key v') := by
  induction alike with
  | nil => exact .cons (.mk key value) .nil
  | cons first rest ih =>
    obtain ⟨k, alike⟩ := first
    rw [Table.insert, Table.insert]
    split
    · exact .cons (.mk k value) rest
    · exact .cons (.mk k alike) ih

theorem insertAll (alike : Table.Like C t t') {entries entries' : List (String × Value)}
    (more : Table.Like C entries entries') :
    Table.Like C (Table.insertAll t entries) (Table.insertAll t' entries') := by
  induction more generalizing t t' with
  | nil => exact alike
  | cons first _ ih =>
    obtain ⟨key, value⟩ := first
    exact ih (alike.insert key value)

theorem ofEntries {entries entries' : List (String × Value)}
    (alike : Table.Like C entries entries') :
    Table.Like C (Table.ofEntries entries) (Table.ofEntries entries') :=
  insertAll .nil alike

end Table.Like

/-! ### Texts -/

theorem Procedure.Like.text {p p' : Procedure} (alike : p.Like C p') : p'.text = p.text := by
  cases alike with
  | native => rfl
  | @closure params body body' env env' same =>
    have texts := C.text_eq same
    cases body with
    | none =>
      cases body' with
      | none => rfl
      | some n => cases texts
    | some n =>
      cases body' with
      | none => cases texts
      | some n' => rw [Procedure.text, Procedure.text, Option.some.inj texts]

theorem Procedure.Like.arity? {p p' : Procedure} (alike : p.Like C p') :
    p'.arity? = p.arity? := by
  cases alike <;> rfl

namespace Value.Like

variable {v v' : Value}

theorem kind (alike : v.Like C v') : v'.kind = v.kind := by cases alike <;> rfl

theorem isNullish (alike : v.Like C v') : v'.isNullish = v.isNullish := by cases alike <;> rfl

theorem isPrimitive (alike : v.Like C v') : v'.isPrimitive = v.isPrimitive := by
  cases alike <;> rfl

theorem isUndefined (alike : v.Like C v') : v'.isUndefined = v.isUndefined := by
  cases alike <;> rfl

theorem truthy (alike : v.Like C v') : v'.truthy = v.truthy := by cases alike <;> rfl

mutual

theorem text {v v' : Value} : v.Like C v' → v'.text = v.text
  | .undefined | .null | .bool _ | .number _ | .string _ | .object .. | .date _ => rfl
  | .array _ each => by rw [Value.text, Value.text, itemTexts each]
  | .function _ alike => by rw [Value.text, Value.text, alike.text]

theorem itemTexts {items items' : List Value} :
    LikeAll C items items' → Value.itemTexts items' = Value.itemTexts items
  | .nil => rfl
  | .cons first rest => by
    rw [Value.itemTexts, Value.itemTexts, first.isNullish, text first, itemTexts rest]

end

/-! ### Coercions and equalities -/

theorem toNumber (alike : v.Like C v') : v'.toNumber = v.toNumber := by
  have same := alike.text
  cases alike with
  | array => exact congrArg Number.ofText same
  | _ => rfl

theorem toPrimitive (alike : v.Like C v') (numeric : Bool) :
    v'.toPrimitive numeric = v.toPrimitive numeric := by
  have same := alike.text
  cases alike with
  | array | object | function => exact congrArg Value.string same
  | _ => rfl

variable {a a' b b' : Value}

theorem compare (first : a.Like C a') (second : b.Like C b') :
    a'.compare b' = a.compare b := by
  rw [Value.compare, Value.compare, first.toPrimitive, second.toPrimitive]

/-- A sum is a number or a text. -/
theorem add (first : a.Like C a') (second : b.Like C b') :
    (a.add b).Like C (a'.add b') := by
  rw [Value.add, Value.add, first.toPrimitive, second.toPrimitive]
  split
  · exact .string _
  · exact .string _
  · exact .number _

/-- Numbers tell values apart in the same way on both sides. -/
theorem beq_of_ids {i i' j j' : Nat} (first : C.ids i i') (second : C.ids j j') :
    (i' == j') = (i == j) := by
  rw [Bool.eq_iff_iff, beq_iff_eq, beq_iff_eq]
  exact (C.ids_iff first second).symm

theorem strictEq (first : a.Like C a') (second : b.Like C b') :
    a'.strictEq b' = a.strictEq b := by
  cases first <;> cases second <;> first | rfl | exact beq_of_ids ‹_› ‹_›

theorem looseEq (first : a.Like C a') (second : b.Like C b') :
    a'.looseEq b' = a.looseEq b := by
  rw [Value.looseEq, Value.looseEq, first.isNullish, second.isNullish, first.kind, second.kind,
    first.strictEq second, first.isPrimitive, second.isPrimitive, first.toPrimitive,
    second.toPrimitive]

/-! ### Properties, entries and slices -/

theorem atIndex? {α β : Type} {R : α → β → Prop} {xs : List α} {ys : List β}
    (each : List.Forall₂ R xs ys) (key : String) :
    Option.Rel R (Value.atIndex? xs key) (Value.atIndex? ys key) := by
  unfold Value.atIndex?
  cases Digits.index? key.toList with
  | none => exact .none
  | some i => exact forall₂_getElem? each i

theorem property? (alike : v.Like C v') (key : String) :
    Option.Rel (Value.Like C) (v.property? key) (v'.property? key) := by
  cases alike with
  | object _ each => exact Table.Like.get? each key
  | array _ each =>
    rw [Value.property?, Value.property?, ← each.length_eq]
    split
    · exact .some (.number _)
    · exact atIndex? each key
  | function _ alike =>
    cases alike with
    | closure => exact .none
    | native _ _ each => exact Table.Like.get? each key
  | _ => exact .none

theorem entryKeys (alike : v.Like C v') : v'.entryKeys = v.entryKeys := by
  cases alike with
  | object _ each => exact Table.Like.keys each
  | array _ each => rw [Value.entryKeys, Value.entryKeys, each.length_eq]
  | _ => rfl

theorem entry (alike : v.Like C v') (key : String) : (v.entry key).Like C (v'.entry key) := by
  have found := Value.Like.getD (alike.property? key)
  cases alike with
  | string s =>
    rw [Value.entry]
    cases Value.atIndex? s.toList key with
    | none => exact .undefined
    | some c => exact .string _
  | _ => exact found

theorem toPosition (alike : v.Like C v') : v'.toPosition = v.toPosition := by
  rw [Value.toPosition, Value.toPosition, alike.toNumber]

theorem resolveBound (alike : v.Like C v') (length default : Nat) :
    v'.resolveBound length default = v.resolveBound length default := by
  rw [Value.resolveBound, Value.resolveBound, alike.isUndefined, alike.toPosition]

theorem sliceList {α β : Type} {R : α → β → Prop} (first : a.Like C a') (last : b.Like C b')
    {xs : List α} {ys : List β} (each : List.Forall₂ R xs ys) :
    List.Forall₂ R (Value.sliceList a b xs) (Value.sliceList a' b' ys) := by
  have range : Value.sliceRange a' b' ys.length = Value.sliceRange a b xs.length := by
    rw [Value.sliceRange, Value.sliceRange, first.resolveBound, last.resolveBound, each.length_eq]
  rw [Value.sliceList, Value.sliceList, range]
  exact List.forall₂_take _ (List.forall₂_drop _ each)

/-! ### Documents -/

mutual

theorem toJson {v v' : Value} : v.Like C v' → v'.toJson = v.toJson
  | .undefined | .null | .bool _ | .number _ | .string _ | .function .. | .date _ => rfl
  | .array _ each => by rw [Value.toJson, Value.toJson, itemsToJson each]
  | .object _ each => by rw [Value.toJson, Value.toJson, entriesToJson each]

theorem itemsToJson {items items' : List Value} :
    LikeAll C items items' → Value.itemsToJson items' = Value.itemsToJson items
  | .nil => rfl
  | .cons first rest => by
    rw [Value.itemsToJson, Value.itemsToJson, toJson first, itemsToJson rest]

theorem entriesToJson {entries entries' : List (String × Value)} :
    Table.Like C entries entries' → Value.entriesToJson entries' = Value.entriesToJson entries
  | .nil => rfl
  | .cons (.mk key alike) rest => by
    rw [Value.entriesToJson, Value.entriesToJson, toJson alike, entriesToJson rest]

end

end Value.Like

/-- The next `count` numbers of two runs belong together. -/
def Likeness.Reserved (C : Likeness) (count next next' : Nat) : Prop :=
  ∀ k < count, C.ids (next + k) (next' + k)

namespace Likeness.Reserved

variable {m n next next' : Nat}

theorem head (reserved : C.Reserved (m + 1) next next') : C.ids next next' :=
  reserved 0 (Nat.succ_pos m)

theorem tail (reserved : C.Reserved (m + 1) next next') : C.Reserved m (next + 1) (next' + 1) := by
  intro k low
  have shifted := reserved (k + 1) (Nat.succ_lt_succ low)
  rwa [Nat.add_comm k 1, ← Nat.add_assoc, ← Nat.add_assoc] at shifted

theorem left (reserved : C.Reserved (m + n) next next') : C.Reserved m next next' := by
  intro k low
  exact reserved k (by omega)

theorem right (reserved : C.Reserved (m + n) next next') :
    C.Reserved n (next + m) (next' + m) := by
  intro k low
  have shifted := reserved (m + k) (by omega)
  rwa [← Nat.add_assoc, ← Nat.add_assoc] at shifted

end Likeness.Reserved

namespace Json

mutual

/-- The values of a document are alike if its numbers belong together. -/
theorem toValue_like {next next' : Nat} : (json : Json) → C.Reserved json.compounds next next' →
    (json.toValue next).Like C (json.toValue next')
  | .null, _ => .null
  | .bool b, _ => .bool b
  | .integer _, _ => .number _
  | .float x, _ => .number x
  | .string s, _ => .string s
  | .array items, reserved => .array reserved.head (itemsToValues_like items reserved.tail)
  | .object members, reserved =>
    .object reserved.head (membersToEntries_like members reserved.tail).ofEntries

theorem itemsToValues_like {next next' : Nat} :
    (items : List Json) → C.Reserved (itemCompounds items) next next' →
      Value.LikeAll C (itemsToValues next items) (itemsToValues next' items)
  | [], _ => .nil
  | item :: rest, reserved =>
    .cons (toValue_like item reserved.left) (itemsToValues_like rest reserved.right)

theorem membersToEntries_like {next next' : Nat} :
    (members : List (String × Json)) → C.Reserved (memberCompounds members) next next' →
      Table.Like C (membersToEntries next members) (membersToEntries next' members)
  | [], _ => .nil
  | (key, item) :: rest, reserved =>
    .cons (.mk key (toValue_like item reserved.left)) (membersToEntries_like rest reserved.right)

end

end Json

end Bracket
