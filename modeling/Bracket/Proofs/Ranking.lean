import Bracket.Proofs.Stats
import Mathlib.Algebra.BigOperators.Group.List.Basic
import Mathlib.Algebra.Order.BigOperators.Group.List
import Mathlib.Data.String.Basic

/-!
The ranking of texts by their time. Records may come in any order, and the usages may be gone over
in any order when they are ranked: no two texts have the same place in the ranking, so that it is
the same in each case.
Main statement: statistics say of every text what its records say, and are the same whichever order
the records came in; the `n` texts with the most time are `n` different ones, or all where there are
fewer, in the order of the ranking, and no text that is left out comes before one of them.
-/

namespace Bracket.Stats

/-! ### The order of the ranking -/

/-- One usage comes before another: more time, or the same time and a smaller text. -/
def Precedes (a b : String × Usage) : Prop :=
  b.2.total < a.2.total ∨ (a.2.total = b.2.total ∧ a.1 < b.1)

/-- They are the `n` first usages of the ranking, or all of them where there are fewer. -/
structure Leads (s : Stats) (n : Nat) (leaders : List (String × Usage)) : Prop where
  length : leaders.length = min n s.size
  distinct : (leaders.map Prod.fst).Nodup
  usage : ∀ entry ∈ leaders, s.get? entry.1 = some entry.2
  ordered : leaders.Pairwise Precedes
  first : ∀ text usage, s.get? text = some usage → text ∉ leaders.map Prod.fst →
    ∀ entry ∈ leaders, Precedes entry (text, usage)

theorem ranksBefore_iff (a b : String × Usage) :
    ranksBefore a b = true ↔
      b.2.total < a.2.total ∨ (a.2.total = b.2.total ∧ a.1 ≤ b.1) :=
  decide_eq_true_iff

theorem ranksBefore_trans (a b c : String × Usage) (first : ranksBefore a b = true)
    (second : ranksBefore b c = true) : ranksBefore a c = true := by
  rw [ranksBefore_iff] at first second ⊢
  rcases first with more | ⟨same, text⟩
  · left
    omega
  · rcases second with more | ⟨same', text'⟩
    · left
      omega
    · exact .inr ⟨same.trans same', le_trans text text'⟩

theorem ranksBefore_total (a b : String × Usage) :
    (ranksBefore a b || ranksBefore b a) = true := by
  rw [Bool.or_eq_true, ranksBefore_iff, ranksBefore_iff]
  rcases Nat.lt_trichotomy a.2.total b.2.total with less | same | more
  · exact .inr (.inl less)
  · rcases le_total a.1 b.1 with before | behind
    · exact .inl (.inr ⟨same, before⟩)
    · exact .inr (.inr ⟨same.symm, behind⟩)
  · exact .inl (.inl more)

/-- Only one text can have a place in the ranking. -/
theorem text_eq_of_ranksBefore {a b : String × Usage} (before : ranksBefore a b = true)
    (behind : ranksBefore b a = true) : a.1 = b.1 := by
  rw [ranksBefore_iff] at before behind
  rcases before with more | ⟨same, text⟩
  · omega
  · rcases behind with more | ⟨-, text'⟩
    · omega
    · exact le_antisymm text text'

theorem precedes_of_ranksBefore {a b : String × Usage} (before : ranksBefore a b = true)
    (other : a.1 ≠ b.1) : Precedes a b := by
  rw [ranksBefore_iff] at before
  rcases before with more | ⟨same, text⟩
  · exact .inl more
  · exact .inr ⟨same, lt_of_le_of_ne text other⟩

/-! ### Ranked usages -/

section Ranked

variable {usages : Table Usage} (distinct : usages.keys.Nodup)

include distinct

/-- In whatever order the usages are gone over, the ranking is the same. -/
theorem ranked_eq_of_perm {visited : Table Usage} (same : visited.Perm usages) :
    visited.mergeSort ranksBefore = usages.mergeSort ranksBefore := by
  have perm : (visited.mergeSort ranksBefore).Perm (usages.mergeSort ranksBefore) :=
    (List.mergeSort_perm visited _).trans (same.trans (List.mergeSort_perm usages _).symm)
  have sorted := List.pairwise_mergeSort ranksBefore_trans ranksBefore_total visited
  have sorted' := List.pairwise_mergeSort ranksBefore_trans ranksBefore_total usages
  refine List.Perm.eq_of_pairwise ?_ sorted sorted' perm
  intro a b left right before behind
  have text := text_eq_of_ranksBefore before behind
  obtain ⟨key, usage⟩ := a
  obtain ⟨key', usage'⟩ := b
  obtain rfl : key = key' := text
  have member := (Table.get?_eq_some_iff distinct).mpr
    (same.subset ((List.mergeSort_perm visited _).subset left))
  have member' := (Table.get?_eq_some_iff distinct).mpr
    ((List.mergeSort_perm usages _).subset right)
  rw [Option.some.inj (member.symm.trans member')]

/-- No two usages of the ranking have the same place. -/
theorem pairwise_ranked : (usages.mergeSort ranksBefore).Pairwise Precedes := by
  have sorted := List.pairwise_mergeSort ranksBefore_trans ranksBefore_total usages
  have texts : ((usages.mergeSort ranksBefore).map Prod.fst).Nodup :=
    ((List.mergeSort_perm usages _).map Prod.fst).nodup_iff.mpr distinct
  have others := List.pairwise_map.mp texts
  exact (sorted.and others).imp fun both => precedes_of_ranksBefore both.1 both.2

end Ranked

/-- The ranking begins with the usages that lead it. -/
theorem leads_top {s : Stats} (distinct : s.usages.keys.Nodup) (n : Nat) :
    s.Leads n (s.top n) := by
  have perm := List.mergeSort_perm s.usages ranksBefore
  have texts : ((s.usages.mergeSort ranksBefore).map Prod.fst).Nodup :=
    (perm.map Prod.fst).nodup_iff.mpr distinct
  have ordered := pairwise_ranked distinct
  have split := List.take_append_drop n (s.usages.mergeSort ranksBefore)
  constructor
  · rw [top, List.length_take, perm.length_eq, size]
  · rw [top, List.map_take]
    exact texts.sublist (List.take_sublist n _)
  · intro entry member
    exact (Table.get?_eq_some_iff distinct).mpr (perm.subset (List.mem_of_mem_take member))
  · exact ordered.sublist (List.take_sublist n _)
  · intro text usage known omitted entry member
    have ranked : (text, usage) ∈ s.usages.mergeSort ranksBefore :=
      perm.mem_iff.mpr ((Table.get?_eq_some_iff distinct).mp known)
    rw [← split, List.mem_append] at ranked
    rw [← split, List.pairwise_append] at ordered
    rcases ranked with listed | left
    · exact absurd (List.mem_map_of_mem listed) omitted
    · exact ordered.2.2 entry member (text, usage) left

/-! ### Records in any order -/

section Records

variable {records records' : List (String × Nat)}

/-- What the records say about a text does not depend on their order. -/
theorem usageIn_perm (same : records.Perm records') (text : String) :
    usageIn records text = usageIn records' text := by
  have own := same.filter fun entry => decide (entry.1 = text)
  rw [usageIn, usageIn, own.length_eq, (own.map Prod.snd).sum_eq]

theorem get?_recordAll_perm (same : records.Perm records') (text : String) :
    (recordAll {} records).get? text = (recordAll {} records').get? text := by
  have known := (same.map Prod.fst).mem_iff (a := text)
  rw [get?_recordAll, get?_recordAll, usageIn_perm same]
  simp only [known]

/-- The usages are the same whichever order the records came in, though they stand in the order in
which their texts came in first. -/
theorem usages_recordAll_perm (same : records.Perm records') :
    (recordAll {} records).usages.Perm (recordAll {} records').usages := by
  have distinct := nodup_recordAll records
  have distinct' := nodup_recordAll records'
  rw [List.perm_ext_iff_of_nodup distinct.of_map distinct'.of_map]
  rintro ⟨text, usage⟩
  rw [← Table.get?_eq_some_iff distinct, ← Table.get?_eq_some_iff distinct']
  exact iff_of_eq (congrArg (· = some usage) (get?_recordAll_perm same text))

/-- No text has more calls than there are records, nor more time than they have in all. -/
theorem usageIn_le (records : List (String × Nat)) (text : String) :
    (usageIn records text).calls ≤ records.length ∧
      (usageIn records text).total ≤ (records.map Prod.snd).sum := by
  have own : (records.filter fun entry => decide (entry.1 = text)).Sublist records :=
    List.filter_sublist
  exact ⟨own.length_le, (own.map Prod.snd).sum_le_sum fun _ _ => Nat.zero_le _⟩

end Records

/-- Records that are permuted give the same usage of every text, the same number of texts and the
same ranking: of each text that was recorded the number and the time of its records, as many usages
as distinct texts, and the leaders of the ranking, in whatever order the usages are gone over. No
count is above the number of records and no time above their time in all, so that whatever has room
for these has room for the statistics. -/
theorem recorded_in_any_order {records records' : List (String × Nat)}
    (same : records.Perm records') :
    let s := recordAll {} records
    let s' := recordAll {} records'
    ((∀ text, s.get? text = s'.get? text) ∧ s.size = s'.size ∧ ∀ n, s.top n = s'.top n) ∧
    (∀ text, s.get? text =
      if text ∈ records.map Prod.fst then some (usageIn records text) else none) ∧
    (∀ text usage, s.get? text = some usage →
      usage.calls ≤ records.length ∧ usage.total ≤ (records.map Prod.snd).sum) ∧
    s.size = (records.map Prod.fst).dedup.length ∧
    (∀ n, s.Leads n (s.top n)) ∧
    ∀ visited : Table Usage, visited.Perm s.usages →
      ∀ n, (visited.mergeSort ranksBefore).take n = s.top n := by
  intro s s'
  have perm : s.usages.Perm s'.usages := usages_recordAll_perm same
  have distinct : s.usages.keys.Nodup := nodup_recordAll records
  have distinct' : s'.usages.keys.Nodup := nodup_recordAll records'
  refine ⟨⟨get?_recordAll_perm same, perm.length_eq, fun n => ?_⟩, get?_recordAll records, ?_,
    size_recordAll records, leads_top distinct, fun visited order n => ?_⟩
  · rw [top, top, ranked_eq_of_perm distinct' perm]
  · intro text usage known
    have said := get?_recordAll records text
    rw [show (recordAll {} records).get? text = some usage from known] at said
    split at said
    · rw [Option.some.inj said]
      exact usageIn_le records text
    · cases said
  · rw [top, ranked_eq_of_perm distinct order]

/-- Two texts of the same time, one of them recorded twice, and one of more time that comes in
between. -/
theorem recorded_in_any_order_ties :
    let s := recordAll {} [("b", 2), ("c", 9), ("a", 5), ("b", 3)]
    let s' := recordAll {} [("a", 5), ("b", 3), ("b", 2), ("c", 9)]
    s.usages.map Prod.fst = ["b", "c", "a"] ∧ s'.usages.map Prod.fst = ["a", "b", "c"] ∧
      s.get? "b" = some ⟨2, 5⟩ ∧ s'.get? "b" = some ⟨2, 5⟩ ∧
      s.top 2 = [("c", ⟨1, 9⟩), ("a", ⟨1, 5⟩)] ∧ s'.top 2 = s.top 2 := by
  intro s s'
  have same : [("b", 2), ("c", 9), ("a", 5), ("b", 3)].Perm
      [("a", 5), ("b", 3), ("b", 2), ("c", 9)] := by decide
  obtain ⟨⟨usage, -, top⟩, -, -, -, -, visited⟩ := recorded_in_any_order same
  have ranked : s.top 2 = [("c", ⟨1, 9⟩), ("a", ⟨1, 5⟩)] := by
    rw [← visited [("c", ⟨1, 9⟩), ("a", ⟨1, 5⟩), ("b", ⟨2, 5⟩)] (by decide) 2,
      List.mergeSort_of_pairwise (by decide)]
    rfl
  exact ⟨rfl, rfl, rfl, (usage "b").symm, ranked, (top 2).symm⟩

end Bracket.Stats
