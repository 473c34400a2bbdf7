import Bracket.Proofs.Registry
import Bracket.Stats
import Mathlib.Algebra.GroupWithZero.Nat
import Mathlib.Data.List.Dedup

/-!
Statistics over any records. A record is a text and the time that its evaluation took. Main
statement: the usage of a text is the number of its records and the sum of their times, and there
are as many usages as distinct texts.
-/

namespace Bracket.Stats

/-- The statistics after records, one after the other. -/
def recordAll (s : Stats) (records : List (String × Nat)) : Stats :=
  records.foldl (fun s entry => s.record entry.1 entry.2) s

/-- What records say about a text: how many of them are its own, and their time in all. -/
def usageIn (records : List (String × Nat)) (text : String) : Usage :=
  let own := records.filter fun entry => entry.1 = text
  ⟨own.length, (own.map Prod.snd).sum⟩

theorem recordAll_snoc (s : Stats) (records : List (String × Nat)) (entry : String × Nat) :
    s.recordAll (records ++ [entry]) = (s.recordAll records).record entry.1 entry.2 := by
  simp [recordAll]

theorem recordAll_append (s : Stats) (records more : List (String × Nat)) :
    s.recordAll (records ++ more) = (s.recordAll records).recordAll more :=
  List.foldl_append

theorem calls_usageIn (records : List (String × Nat)) (text : String) :
    (usageIn records text).calls = (records.map Prod.fst).count text := by
  rw [List.count, List.countP_map, List.countP_eq_length_filter, usageIn]
  refine congrArg List.length (List.filter_congr fun entry _ => ?_)
  simp [beq_eq_decide]

theorem usageIn_of_not_mem {records : List (String × Nat)} {text : String}
    (absent : text ∉ records.map Prod.fst) : usageIn records text = {} := by
  have none : records.filter (fun entry => entry.1 = text) = [] := by
    rw [List.filter_eq_nil_iff]
    intro entry member same
    exact absent (List.mem_map.mpr ⟨entry, member, by simpa using same⟩)
  simp [usageIn, none]

theorem usageIn_snoc (records : List (String × Nat)) (entry : String × Nat) (text : String) :
    usageIn (records ++ [entry]) text =
      if entry.1 = text then
        ⟨(usageIn records text).calls + 1, (usageIn records text).total + entry.2⟩
      else usageIn records text := by
  by_cases same : entry.1 = text
  · simp [usageIn, same]
  · simp [usageIn, same]

theorem get?_record (s : Stats) (text : String) (elapsed : Nat) (other : String) :
    (s.record text elapsed).get? other =
      if text = other then
        some ⟨((s.get? other).getD {}).calls + 1, ((s.get? other).getD {}).total + elapsed⟩
      else s.get? other := by
  by_cases same : text = other
  · subst same
    rw [if_pos rfl]
    exact Table.get?_insert_self _ _ _
  · rw [if_neg same]
    exact Table.get?_insert_of_ne _ _ same

/-- A text has a usage if it was recorded, and that is what the records say about it. -/
theorem get?_recordAll (records : List (String × Nat)) (text : String) :
    (recordAll {} records).get? text =
      if text ∈ records.map Prod.fst then some (usageIn records text) else none := by
  induction records using List.reverseRecOn with
  | nil => rfl
  | append_singleton records entry ih =>
    have before : ((recordAll {} records).get? text).getD {} = usageIn records text := by
      rw [ih]
      split
      · rfl
      · next absent => exact (usageIn_of_not_mem absent).symm
    have recorded : text ∈ (records ++ [entry]).map Prod.fst ↔
        text ∈ records.map Prod.fst ∨ text = entry.1 := by
      rw [List.map_append, List.mem_append, List.map_singleton, List.mem_singleton]
    rw [recordAll_snoc, get?_record, before, usageIn_snoc, ih]
    by_cases same : entry.1 = text
    · rw [if_pos same, if_pos same, if_pos (recorded.mpr (.inr same.symm))]
    · simp only [same, Ne.symm same, recorded, or_false, if_false]

theorem nodup_recordAll (records : List (String × Nat)) :
    (recordAll {} records).usages.keys.Nodup := by
  induction records using List.reverseRecOn with
  | nil => exact .nil
  | append_singleton records entry ih =>
    rw [recordAll_snoc]
    exact Table.nodup_keys_insert ih _ _

theorem mem_keys_recordAll (records : List (String × Nat)) (text : String) :
    text ∈ (recordAll {} records).usages.keys ↔ text ∈ records.map Prod.fst := by
  have found := get?_recordAll records text
  constructor
  · intro member
    by_contra absent
    rw [if_neg absent] at found
    exact (Table.get?_eq_none_iff _ _).mp found member
  · intro recorded
    by_contra absent
    have none : (recordAll {} records).get? text = none := (Table.get?_eq_none_iff _ _).mpr absent
    rw [if_pos recorded, none] at found
    cases found

/-- There are as many usages as distinct texts. -/
theorem size_recordAll (records : List (String × Nat)) :
    (recordAll {} records).size = (records.map Prod.fst).dedup.length := by
  have same : (recordAll {} records).usages.keys.Perm (records.map Prod.fst).dedup := by
    rw [List.perm_ext_iff_of_nodup (nodup_recordAll records) (List.nodup_dedup _)]
    intro text
    rw [mem_keys_recordAll, List.mem_dedup]
  have length := same.length_eq
  rwa [Table.keys, List.length_map] at length

end Bracket.Stats
