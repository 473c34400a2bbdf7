import Bracket.Proofs.Digits
import Bracket.Proofs.Evaluator.Values
import Bracket.Proofs.Registry
import Bracket.Proofs.Slicing
import Mathlib.Data.List.Nodup

/-!
Refined copies of objects, arrays and texts. The keys of a source are enumerated first, and each of
them is looked up again: a position of an array or a text is written in decimal and read back.
Main statement: with the given keys, or without them, a copy has exactly the fields that it should
have, as they stand in the source, so that the two copies split the source.
-/

namespace Bracket

namespace Value

/-! ### Fields -/

/-- The fields of a collection, a key and a value each: the entries of an object, and the parts of
an array or a text under their positions in decimal. -/
def fields : Value → Table Value
  | .object _ entries => entries
  | v => v.elements.zipIdx.map fun (part, i) => (i.repr, part)

/-- An object has no key twice, and there are no more parts of an array or a text than positions of
64 bits. -/
def Addressable : Value → Prop
  | .object _ entries => (Table.keys entries).Nodup
  | v => v.elements.length ≤ 2 ^ 64

theorem toList_repr (i : Nat) : i.repr.toList = Digits.ofNat i := String.toList_ofList

theorem value_ofNat (i : Nat) : Nat.ofDigitChars 10 (Digits.ofNat i) 0 = i :=
  Nat.ofDigitChars_toDigits (by decide) (by decide)

theorem repr_injective : Function.Injective Nat.repr := by
  intro i j same
  have digits : Digits.ofNat i = Digits.ofNat j := by rw [← toList_repr, same, toList_repr]
  rw [← value_ofNat i, digits, value_ofNat j]

theorem repr_ne_length (i : Nat) : i.repr ≠ "length" := by
  intro same
  have letter : 'l' ∈ Digits.ofNat i := by
    rw [← toList_repr, same]
    decide
  exact absurd (Digits.isDigit_of_mem_ofNat letter) (by decide)

/-- A position is read back as it was written. -/
theorem atIndex?_repr {α : Type} (items : List α) {i : Nat} (small : i < 2 ^ 64) :
    atIndex? items i.repr = items[i]? := by
  have nonempty : Digits.ofNat i ≠ [] := Nat.toDigits_ne_nil
  have read := Digits.index?_digits nonempty fun c member => Digits.isDigit_of_mem_ofNat member
  rw [value_ofNat, if_pos small] at read
  rw [atIndex?, toList_repr, read, Option.bind_some]

section Fields

variable {v : Value}

/-- The part of an array or a text at a position is what is found under the position. -/
theorem entry_repr (sequence : v.kind = .string ∨ v.kind = .array) {i : Nat}
    (inside : i < v.elements.length) (small : i < 2 ^ 64) :
    v.entry i.repr = v.elements[i] := by
  cases v with
  | string s =>
    have inside' : i < s.toList.length := by simpa [elements] using inside
    simp only [entry, atIndex?_repr _ small, List.getElem?_eq_getElem inside']
    simp [elements]
  | array id items =>
    have inside' : i < items.length := inside
    simp [entry, property?, repr_ne_length, atIndex?_repr _ small, elements, inside']
  | _ => simp [kind] at sequence

theorem entryKeys_eq (sequence : v.kind = .string ∨ v.kind = .array) :
    v.entryKeys = (List.range v.elements.length).map Nat.repr := by
  cases v with
  | string s =>
    rw [elements, List.length_map]
    rfl
  | array id items => rfl
  | _ => simp [kind] at sequence

/-- The keys of a collection, looked up one by one, give its fields. -/
theorem map_entry_entryKeys (collection : v.kind = .object ∨ v.kind = .array ∨ v.kind = .string)
    (addressable : v.Addressable) :
    v.entryKeys.map (fun key => (key, v.entry key)) = v.fields := by
  -- An object is looked up in the table itself, and the others by their positions.
  have numbered (sequence : v.kind = .string ∨ v.kind = .array)
      (few : v.elements.length ≤ 2 ^ 64) : v.entryKeys.map (fun key => (key, v.entry key)) =
        v.elements.zipIdx.map fun (part, i) => (i.repr, part) := by
    rw [entryKeys_eq sequence]
    apply List.ext_getElem
    · simp
    · intro i inside _
      have inside : i < v.elements.length := by simpa using inside
      simp [entry_repr sequence inside (by omega)]
  cases v with
  | object id entries =>
    have own : ∀ field ∈ entries, (field.1, (Value.object id entries).entry field.1) = field := by
      rintro ⟨key, part⟩ member
      have found := (Table.get?_eq_some_iff addressable).mpr member
      simp [entry, property?, found]
    rw [entryKeys, Table.keys, List.map_map]
    exact (List.map_congr_left own).trans (List.map_id _)
  | array => exact numbered (.inr rfl) addressable
  | string => exact numbered (.inl rfl) addressable
  | _ => simp [kind] at collection

theorem nodup_keys_fields (addressable : v.Addressable) : (Table.keys v.fields).Nodup := by
  have numbered (parts : List Value) :
      (Table.keys (parts.zipIdx.map fun (part, i) => (i.repr, part))).Nodup := by
    have keys : Table.keys (parts.zipIdx.map fun (part, i) => (i.repr, part)) =
        (List.range parts.length).map Nat.repr := by
      apply List.ext_getElem
      · simp [Table.keys]
      · intro i _ _
        simp [Table.keys]
    rw [keys]
    exact List.nodup_range.map repr_injective
  cases v with
  | object id entries => exact addressable
  | _ => exact numbered _

end Fields

end Value

namespace Library

/-- The fields of a source that a copy keeps. -/
theorem ofEntries_filter {source : Value}
    (collection : source.kind = .object ∨ source.kind = .array ∨ source.kind = .string)
    (addressable : source.Addressable) (keeps : String → Bool) :
    Table.ofEntries ((source.entryKeys.filter keeps).map fun key => (key, source.entry key)) =
      source.fields.filter fun field => keeps field.1 := by
  have copied : (source.entryKeys.filter keeps).map (fun key => (key, source.entry key)) =
      source.fields.filter fun field => keeps field.1 := by
    rw [← Value.map_entry_entryKeys collection addressable, List.filter_map]
    rfl
  have distinct : (Table.keys (source.fields.filter fun field => keeps field.1)).Nodup :=
    (Value.nodup_keys_fields addressable).sublist (List.filter_sublist.map Prod.fst)
  rw [copied]
  exact Table.insertAll_of_nodup [] distinct

end Library

namespace Evaluator

section Calls

variable (setting : Setting) (fuel : Nat) (scope : Scope) (callee : Option Node) (st : State)
  {source : Value}

/-- A flag in front says whether the keys are left out; where there is none they are kept. -/
theorem callWith_refine
    (collection : source.kind = .object ∨ source.kind = .array ∨ source.kind = .string)
    (addressable : source.Addressable) (keys flag : List Value) {excludes : Bool}
    (flagged : flag = [.bool excludes] ∨ (flag = [] ∧ excludes = false)) :
    ∃ id after, callWith setting (fuel + 1) Builtin.refine.toValue scope (flag ++ source :: keys)
        callee st =
      (.ok (.object id (source.fields.filter fun field =>
        (keys.map Value.text).contains field.1 != excludes)), after) := by
  have copied := Library.ofEntries_filter collection addressable fun key =>
    (keys.map Value.text).contains key != excludes
  rw [← copied, callWith_builtin, Builtin.routine, Library.refine, run_arguments]
  rcases flagged with rfl | ⟨rfl, rfl⟩
  · exact ⟨_, _, rfl⟩
  · cases source with
    | object | array | string => exact ⟨_, _, rfl⟩
    | _ => simp [Value.kind] at collection

end Calls

/-- A refined copy of an object, an array or a text is an object of the fields whose keys are the
texts of given keys, and where the flag is true of all the others, in both cases in the order of the
source and with its own parts. Together they have every field of the source once, and they have no
key in common. -/
theorem refine_splits {source : Value}
    (collection : source.kind = .object ∨ source.kind = .array ∨ source.kind = .string)
    (addressable : source.Addressable) (keys : List Value) (setting : Setting) (fuel : Nat)
    (scope : Scope) (callee : Option Node) (st : State) :
    let refine (values : List Value) : Except Stop Value × State :=
      callWith setting (fuel + 1) Builtin.refine.toValue scope values callee st
    let kept := source.fields.filter fun field => field.1 ∈ keys.map Value.text
    let others := source.fields.filter fun field => field.1 ∉ keys.map Value.text
    (∃ id after, refine (source :: keys) = (.ok (.object id kept), after)) ∧
    (∃ id after, refine (.bool false :: source :: keys) = (.ok (.object id kept), after)) ∧
    (∃ id after, refine (.bool true :: source :: keys) = (.ok (.object id others), after)) ∧
    (kept ++ others).Perm source.fields ∧ (Table.keys (kept ++ others)).Nodup := by
  intro refine kept others
  have keep := callWith_refine setting fuel scope callee st collection addressable keys
    [] (.inr ⟨rfl, rfl⟩)
  have keep' := callWith_refine setting fuel scope callee st collection addressable keys
    [.bool false] (.inl rfl)
  have leave := callWith_refine setting fuel scope callee st collection addressable keys
    [.bool true] (.inl rfl)
  have same : (source.fields.filter fun field =>
      (keys.map Value.text).contains field.1 != false) = kept :=
    List.filter_congr fun field _ => by simp only [Bool.bne_false, List.contains_eq_mem]
  have same' : (source.fields.filter fun field =>
      (keys.map Value.text).contains field.1 != true) = others :=
    List.filter_congr fun field _ => by simp only [Bool.bne_true, List.contains_eq_mem, decide_not]
  have split : (kept ++ others).Perm source.fields := by
    have halves := List.filter_append_perm
      (fun field : String × Value => decide (field.1 ∈ keys.map Value.text)) source.fields
    simpa only [kept, others, decide_not] using halves
  rw [same] at keep keep'
  rw [same'] at leave
  exact ⟨keep, keep', leave, split,
    (split.map Prod.fst).nodup_iff.mpr (Value.nodup_keys_fields addressable)⟩

/-- A number and texts as keys of a text, one of them a position that is written in another way. -/
theorem refine_splits_positions :
    let refine (values : List Value) : Option Value :=
      (callWith { now := ⟨0, 0, 0⟩ } 1 Builtin.refine.toValue ⟨0, []⟩ values none
        ⟨{}, 0⟩).1.toOption
    let keys : List Value := [.number 2, .string "0", .string "01", .string "length"]
    (∃ id, refine (.string "añ😀" :: keys) =
      some (.object id [("0", .string "a"), ("2", .string "😀")])) ∧
    ∃ id, refine (.bool true :: .string "añ😀" :: keys) =
      some (.object id [("1", .string "ñ")]) := by
  intro refine keys
  have collection : (Value.string "añ😀").kind = .object ∨ (Value.string "añ😀").kind = .array ∨
      (Value.string "añ😀").kind = .string := .inr (.inr rfl)
  have few : (Value.string "añ😀").elements.length ≤ 2 ^ 64 := by decide +kernel
  have texts : keys.map Value.text = ["2", "0", "01", "length"] := by decide +kernel
  have fields : (Value.string "añ😀").fields =
      [("0", .string "a"), ("1", .string "ñ"), ("2", .string "😀")] := rfl
  obtain ⟨⟨id, after, keep⟩, -, ⟨id', after', leave⟩, -⟩ :=
    refine_splits collection few keys { now := ⟨0, 0, 0⟩ } 0 ⟨0, []⟩ none ⟨{}, 0⟩
  rw [texts, fields] at keep leave
  exact ⟨⟨id, congrArg (fun r => r.1.toOption) keep⟩, ⟨id', congrArg (fun r => r.1.toOption) leave⟩⟩

end Evaluator

end Bracket
