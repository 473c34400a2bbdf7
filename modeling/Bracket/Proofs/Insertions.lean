import Bracket.Proofs.Registry
import Mathlib.Data.Finset.Card

/-!
Tables made by insertions. A table is a plain list of entries, and nothing but the way in which
entries are inserted keeps a key from coming twice.
Main statement: whatever is inserted, no key comes twice, the keys stand in the order in which they
were first inserted, and every key has the value that was inserted last; and no other table is like
that.
-/

namespace Bracket.Table

variable {α : Type} {t t' : Table α} {inserts : List (String × α)}

/-- The table is what comes of the insertions. -/
structure InsertionOrdered (inserts : List (String × α)) (t : Table α) : Prop where
  distinct : t.keys.Nodup
  mem_keys : ∀ key, key ∈ t.keys ↔ key ∈ keys inserts
  /-- A key stands before those that were first inserted after it. -/
  ordered : t.keys.Pairwise fun key later =>
    (keys inserts).idxOf key < (keys inserts).idxOf later
  /-- The value of a key is that of its last insertion, if there is any. -/
  last : ∀ key, t.get? key = ((inserts.filter fun entry => entry.1 = key).map Prod.snd).getLast?
  /-- There are as many entries as different keys. -/
  length : t.length = (keys inserts).toFinset.card

/-- Tables with the same keys, none of them twice, that find the same values are the same. -/
theorem eq_of_get?_eq (distinct : t.keys.Nodup) (same : t.keys = t'.keys)
    (found : ∀ key, t.get? key = t'.get? key) : t = t' := by
  induction t generalizing t' with
  | nil => exact (List.map_eq_nil_iff.mp same.symm).symm
  | cons entry rest ih =>
    obtain ⟨key, value⟩ := entry
    cases t' with
    | nil => cases same
    | cons entry' rest' =>
      obtain ⟨key', value'⟩ := entry'
      obtain ⟨rfl, later⟩ : key = key' ∧ keys rest = keys rest' := List.cons.inj same
      obtain ⟨new, distinct⟩ := List.nodup_cons.mp distinct
      have first : value = value' := by simpa [get?] using found key
      have others : rest = rest' := by
        refine ih distinct later fun other => ?_
        by_cases own : key = other
        · subst own
          rw [(get?_eq_none_iff rest key).mpr new, (get?_eq_none_iff rest' key).mpr (later ▸ new)]
        · simpa [get?, own] using found other
      rw [first, others]

theorem length_eq_card (distinct : t.keys.Nodup)
    (members : ∀ key, key ∈ t.keys ↔ key ∈ keys inserts) :
    t.length = (keys inserts).toFinset.card := by
  have same : t.keys.toFinset = (keys inserts).toFinset := by
    ext key
    simpa using members key
  rw [← same, List.toFinset_card_of_nodup distinct, keys, List.length_map]

namespace InsertionOrdered

theorem nil : InsertionOrdered ([] : List (String × α)) [] where
  distinct := List.nodup_nil
  mem_keys _ := Iff.rfl
  ordered := .nil
  last _ := rfl
  length := rfl

/-- One more insertion: its key keeps the place that it has, or comes last. -/
theorem insert (made : InsertionOrdered inserts t) (key : String) (value : α) :
    InsertionOrdered (inserts ++ [(key, value)]) (t.insert key value) := by
  have distinct := nodup_keys_insert made.distinct key value
  have inserted : keys (inserts ++ [(key, value)]) = keys inserts ++ [key] := keys_append _ _
  have members (other : String) : other ∈ (t.insert key value).keys ↔
      other ∈ keys (inserts ++ [(key, value)]) := by
    rw [keys_insert, inserted, List.mem_append, List.mem_singleton, ← made.mem_keys]
    split
    · next old =>
      constructor
      · exact .inl
      · rintro (member | rfl) <;> assumption
    · rw [List.mem_append, List.mem_singleton]
  -- What was inserted before was first inserted where it was.
  have kept : t.keys.Pairwise fun first later =>
      (keys (inserts ++ [(key, value)])).idxOf first <
        (keys (inserts ++ [(key, value)])).idxOf later := by
    refine made.ordered.imp_of_mem fun {first later} member member' before => ?_
    rwa [inserted, List.idxOf_append_of_mem ((made.mem_keys _).mp member),
      List.idxOf_append_of_mem ((made.mem_keys _).mp member')]
  refine ⟨distinct, members, ?_, fun other => ?_, length_eq_card distinct members⟩
  · rw [keys_insert]
    split
    · exact kept
    · next new =>
      refine List.pairwise_append.mpr ⟨kept, List.pairwise_singleton _ key, ?_⟩
      intro first member later member'
      obtain rfl := List.mem_singleton.mp member'
      have old := (made.mem_keys first).mp member
      rw [inserted, List.idxOf_append_of_mem old,
        List.idxOf_append_of_notMem fun found => new ((made.mem_keys later).mpr found)]
      exact Nat.lt_of_lt_of_le (List.idxOf_lt_length_iff.mpr old) (Nat.le_add_right _ _)
  · by_cases same : key = other
    · subst same
      simp [get?_insert_self]
    · simp [get?_insert_of_ne t value same, made.last, same]

theorem insertAll (made : InsertionOrdered inserts t) (more : List (String × α)) :
    InsertionOrdered (inserts ++ more) (t.insertAll more) := by
  induction more generalizing inserts t with
  | nil =>
    rw [List.append_nil]
    exact made
  | cons entry more ih =>
    have rest := ih (made.insert entry.1 entry.2)
    rwa [List.append_assoc] at rest

/-- No entry comes from anywhere else. -/
theorem subset (made : InsertionOrdered inserts t) : t ⊆ inserts := by
  rintro ⟨key, value⟩ member
  have found := (get?_eq_some_iff made.distinct).mpr member
  rw [made.last] at found
  obtain ⟨entry, own, rfl⟩ := List.mem_map.mp (List.mem_of_getLast? found)
  obtain ⟨inserted, same⟩ := List.mem_filter.mp own
  rwa [← of_decide_eq_true same]

/-- The insertions leave no choice. -/
theorem unique (made : InsertionOrdered inserts t) (made' : InsertionOrdered inserts t') :
    t = t' := by
  have perm : t.keys.Perm t'.keys := by
    refine (List.perm_ext_iff_of_nodup made.distinct made'.distinct).mpr fun key => ?_
    rw [made.mem_keys, made'.mem_keys]
  have same : t.keys = t'.keys := by
    refine List.Perm.eq_of_pairwise ?_ made.ordered made'.ordered perm
    intro key later _ _ before behind
    omega
  refine eq_of_get?_eq made.distinct same fun key => ?_
  rw [made.last, made'.last]

end InsertionOrdered

theorem ofEntries_insertionOrdered (inserts : List (String × α)) :
    InsertionOrdered inserts (ofEntries inserts) :=
  InsertionOrdered.nil.insertAll inserts

/-- Entries that are inserted one after the other make the one table that is in their order. -/
theorem eq_ofEntries_iff : t = ofEntries inserts ↔ InsertionOrdered inserts t := by
  constructor
  · rintro rfl
    exact ofEntries_insertionOrdered inserts
  · intro made
    exact made.unique (ofEntries_insertionOrdered inserts)

end Bracket.Table
