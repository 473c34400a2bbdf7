import Bracket.Library.Collection
import Mathlib.Data.List.Perm.Basic

/-!
What sorting does with the answers of a comparator. A merge is traced by the decisions that it took,
so that nothing is assumed of them: whatever they are, the outcome has the same items. Main
statements: if the decisions follow a preorder, the outcome is ordered by it and keeps the items
that tie in their order; and the routine that sorts takes its decisions from calls of the comparator
on two of the items, and asks for nothing else.
-/

namespace Bracket

/-- The sign of the answer of a comparator. What is no number counts as zero. -/
def Number.sign (n : Number) : Ordering :=
  if (0 : Number).lt n then .gt else if n.lt 0 then .lt else .eq

theorem Number.sign_beq_gt (n : Number) : (n.sign == .gt) = (0 : Number).lt n := by
  unfold sign
  by_cases positive : (0 : Number).lt n = true
  · simp [positive]
  · by_cases negative : n.lt 0 = true <;> simp [positive, negative]

example : Number.nan.sign = .eq := rfl

namespace Library

section Traces

variable {α : Type}

/-- A merge of two lists with the decisions that it took: whether the head of the first list belongs
behind that of the second. -/
inductive Merges (Decides : α → α → Bool → Prop) : List α → List α → List α → Prop
  | left (ys : List α) : Merges Decides [] ys ys
  | right (xs : List α) : Merges Decides xs [] xs
  | behind {x y : α} {xs ys zs : List α} (decided : Decides x y true)
      (rest : Merges Decides (x :: xs) ys zs) : Merges Decides (x :: xs) (y :: ys) (y :: zs)
  | ahead {x y : α} {xs ys zs : List α} (decided : Decides x y false)
      (rest : Merges Decides xs (y :: ys) zs) : Merges Decides (x :: xs) (y :: ys) (x :: zs)

/-- A sort by halves that are sorted and merged. -/
inductive Sorts (Decides : α → α → Bool → Prop) : List α → List α → Prop
  | short {xs : List α} (few : xs.length ≤ 1) : Sorts Decides xs xs
  | halves {xs first second ys : List α} (left : Sorts Decides (xs.take (xs.length / 2)) first)
      (right : Sorts Decides (xs.drop (xs.length / 2)) second)
      (merged : Merges Decides first second ys) : Sorts Decides xs ys

/-- The order is a total preorder of the items. Nothing is said of other values. -/
structure IsPreorder (order : α → α → Ordering) (items : List α) : Prop where
  total : ∀ a ∈ items, ∀ b ∈ items, order a b ≠ .gt ∨ order b a ≠ .gt
  trans : ∀ a ∈ items, ∀ b ∈ items, ∀ c ∈ items,
    order a b ≠ .gt → order b c ≠ .gt → order a c ≠ .gt

/-- Neither of the two comes behind the other. -/
def ties (order : α → α → Ordering) (a b : α) : Bool := order a b != .gt && order b a != .gt

variable {Decides : α → α → Bool → Prop} {order : α → α → Ordering} {items : List α}

/-! ### Any decisions -/

theorem Merges.perm {xs ys zs : List α} (merges : Merges Decides xs ys zs) :
    zs.Perm (xs ++ ys) := by
  induction merges with
  | left ys => exact .refl ys
  | right xs => rw [List.append_nil]
  | ahead _ _ ih => exact ih.cons _
  | behind _ _ ih => exact (ih.cons _).trans List.perm_middle.symm

/-- Whatever was decided, the outcome has the items that were sorted. -/
theorem Sorts.perm {xs ys : List α} (sorts : Sorts Decides xs ys) : ys.Perm xs := by
  induction sorts with
  | short _ => exact .refl _
  | @halves xs first second ys _ _ merged left right =>
    have same := merged.perm.trans (left.append right)
    rwa [List.take_append_drop] at same

/-! ### Decisions that follow a preorder -/

theorem ties_iff {a b : α} : ties order a b = true ↔ order a b ≠ .gt ∧ order b a ≠ .gt := by
  simp [ties]

section Preorder

variable (preorder : IsPreorder order items)
  (follows : ∀ a b after, Decides a b after → after = (order a b == .gt))

include preorder follows

/-- A merge of ordered lists is ordered. -/
theorem Merges.pairwise {xs ys zs : List α} (merges : Merges Decides xs ys zs) (inX : xs ⊆ items)
    (inY : ys ⊆ items) (orderedX : xs.Pairwise fun a b => order a b ≠ .gt)
    (orderedY : ys.Pairwise fun a b => order a b ≠ .gt) :
    zs.Pairwise fun a b => order a b ≠ .gt := by
  induction merges with
  | left => exact orderedY
  | right => exact orderedX
  | @behind x y xs ys zs decided rest ih =>
    obtain ⟨headX, -⟩ := List.pairwise_cons.mp orderedX
    obtain ⟨headY, tailY⟩ := List.pairwise_cons.mp orderedY
    obtain ⟨memX, inX'⟩ := List.cons_subset.mp inX
    obtain ⟨memY, inY'⟩ := List.cons_subset.mp inY
    refine List.pairwise_cons.mpr ⟨?_, ih inX inY' orderedX tailY⟩
    have greater : order x y = .gt := by simpa using (follows x y true decided).symm
    have before : order y x ≠ .gt :=
      (preorder.total y memY x memX).resolve_right fun smaller => smaller greater
    intro z member
    rcases List.mem_append.mp (rest.perm.mem_iff.mp member) with inside | later
    · rcases List.mem_cons.mp inside with rfl | inside
      · exact before
      · exact preorder.trans y memY x memX z (inX' inside) before (headX z inside)
    · exact headY z later
  | @ahead x y xs ys zs decided rest ih =>
    obtain ⟨headX, tailX⟩ := List.pairwise_cons.mp orderedX
    obtain ⟨headY, -⟩ := List.pairwise_cons.mp orderedY
    obtain ⟨memX, inX'⟩ := List.cons_subset.mp inX
    obtain ⟨memY, inY'⟩ := List.cons_subset.mp inY
    refine List.pairwise_cons.mpr ⟨?_, ih inX' inY tailX orderedY⟩
    have before : order x y ≠ .gt := by simpa using (follows x y false decided).symm
    intro z member
    rcases List.mem_append.mp (rest.perm.mem_iff.mp member) with inside | later
    · exact headX z inside
    · rcases List.mem_cons.mp later with rfl | later
      · exact before
      · exact preorder.trans x memX y memY z (inY' later) before (headY z later)

/-- Among the items that tie with one, those of the first list come first. -/
theorem Merges.filter_ties {xs ys zs : List α} (merges : Merges Decides xs ys zs)
    (inX : xs ⊆ items) (inY : ys ⊆ items) (orderedX : xs.Pairwise fun a b => order a b ≠ .gt)
    {a : α} (mem : a ∈ items) :
    zs.filter (ties order a) = xs.filter (ties order a) ++ ys.filter (ties order a) := by
  induction merges with
  | left => rfl
  | right => simp
  | @behind x y xs ys zs decided rest ih =>
    obtain ⟨memY, inY'⟩ := List.cons_subset.mp inY
    have greater : order x y = .gt := by simpa using (follows x y true decided).symm
    by_cases tied : ties order a y = true
    · -- whatever ties with `y` in the first list would put `x` before `y`
      have none : (x :: xs).filter (ties order a) = [] := by
        rw [List.filter_eq_nil_iff]
        intro z member tiedZ
        have memZ := inX member
        have memX := inX List.mem_cons_self
        have fromX : z = x ∨ order x z ≠ .gt := by
          rcases List.mem_cons.mp member with rfl | later
          · exact .inl rfl
          · exact .inr ((List.pairwise_cons.mp orderedX).1 z later)
        have toY : order z y ≠ .gt :=
          preorder.trans z memZ a mem y memY (ties_iff.mp tiedZ).2 (ties_iff.mp tied).1
        rcases fromX with rfl | before
        · exact toY greater
        · exact preorder.trans x memX z memZ y memY before toY greater
      rw [List.filter_cons_of_pos tied, List.filter_cons_of_pos tied, ih inX inY' orderedX, none]
      rfl
    · rw [List.filter_cons_of_neg tied, List.filter_cons_of_neg tied, ih inX inY' orderedX]
  | @ahead x y xs ys zs decided rest ih =>
    have later := ih (List.cons_subset.mp inX).2 inY (List.pairwise_cons.mp orderedX).2
    by_cases tied : ties order a x = true
    · rw [List.filter_cons_of_pos tied, List.filter_cons_of_pos tied, later, List.cons_append]
    · rw [List.filter_cons_of_neg tied, List.filter_cons_of_neg tied, later]

/-- A sort whose decisions follow a preorder is ordered by it, and stable. -/
theorem Sorts.stable {xs ys : List α} (sorts : Sorts Decides xs ys) (inside : xs ⊆ items) :
    (ys.Pairwise fun a b => order a b ≠ .gt) ∧
      ∀ a ∈ items, ys.filter (ties order a) = xs.filter (ties order a) := by
  induction sorts with
  | @short xs few =>
    refine ⟨?_, fun _ _ => rfl⟩
    match xs, few with
    | [], _ => exact .nil
    | [a], _ => exact List.pairwise_singleton _ a
  | @halves xs first second ys left right merged ihL ihR =>
    have inL := List.Subset.trans (List.take_subset (xs.length / 2) xs) inside
    have inR := List.Subset.trans (List.drop_subset (xs.length / 2) xs) inside
    obtain ⟨orderedL, tiesL⟩ := ihL inL
    obtain ⟨orderedR, tiesR⟩ := ihR inR
    have inL' := List.Subset.trans left.perm.subset inL
    have inR' := List.Subset.trans right.perm.subset inR
    refine ⟨merged.pairwise preorder follows inL' inR' orderedL orderedR, fun a mem => ?_⟩
    rw [merged.filter_ties preorder follows inL' inR' orderedL mem, tiesL a mem, tiesR a mem,
      ← List.filter_append, List.take_append_drop]

end Preorder

end Traces

end Library

/-! ### Routines that compare -/

namespace Routine

variable {α β : Type} {f : Value} {items : List Value} {Allowed : Value → Value → Value → Prop}

/-- The routine asks for nothing but calls of a function on two of the items, and does not fail by
itself. If the calls are answered as allowed, it ends in a result with the property. -/
inductive Compares (f : Value) (items : List Value) (Allowed : Value → Value → Value → Prop)
    (P : α → Prop) : Routine α → Prop
  | done {a : α} (holds : P a) : Compares f items Allowed P (.done a)
  | ask {a b : Value} {next : Value → Routine α} (left : a ∈ items) (right : b ∈ items)
      (later : ∀ v, Allowed a b v → Compares f items Allowed P (next v)) :
      Compares f items Allowed P (.ask (.invoke f [a, b]) next)

theorem Compares.bind {P : α → Prop} {Q : β → Prop} {r : Routine α} {k : α → Routine β}
    (first : r.Compares f items Allowed P)
    (rest : ∀ a, P a → (k a).Compares f items Allowed Q) :
    (r >>= k).Compares f items Allowed Q := by
  induction first with
  | done holds => exact rest _ holds
  | ask left right _ ih => exact .ask left right ih

theorem Compares.mono {P Q : α → Prop} {r : Routine α} (compares : r.Compares f items Allowed P)
    (weaker : ∀ a, P a → Q a) : r.Compares f items Allowed Q := by
  induction compares with
  | done holds => exact .done (weaker _ holds)
  | ask left right _ ih => exact .ask left right ih

end Routine

namespace Library

open Routine

variable {f : Value} {items : List Value} {Allowed : Value → Value → Value → Prop}

/-- What a comparison may decide if its call is answered as allowed. -/
def Decides (Allowed : Value → Value → Value → Prop) (a b : Value) (after : Bool) : Prop :=
  ∃ v, Allowed a b v ∧ after = (v.toNumber.sign == .gt)

theorem comesAfter_compares {a b : Value} (left : a ∈ items) (right : b ∈ items) :
    (comesAfter f a b).Compares f items Allowed (Decides Allowed a b) :=
  .ask left right fun v allowed => .done ⟨v, allowed, (Number.sign_beq_gt _).symm⟩

theorem mergeBy_compares {xs ys : List Value} (inX : xs ⊆ items) (inY : ys ⊆ items) :
    (mergeBy (comesAfter f) xs ys).Compares f items Allowed
      (Merges (Decides Allowed) xs ys) := by
  induction xs, ys using mergeBy.induct with
  | case1 ys =>
    rw [mergeBy]
    exact .done (.left ys)
  | case2 xs nonempty =>
    cases xs with
    | nil => exact absurd rfl nonempty
    | cons x xs =>
      rw [mergeBy]
      · exact .done (.right (x :: xs))
      · simp
  | case3 x xs y ys keep take =>
    obtain ⟨memX, inX'⟩ := List.cons_subset.mp inX
    obtain ⟨memY, inY'⟩ := List.cons_subset.mp inY
    rw [mergeBy]
    refine (comesAfter_compares memX memY).bind fun after decided => ?_
    cases after with
    | true => exact (keep inX inY').bind fun rest merged => .done (.behind decided merged)
    | false => exact (take inX' inY).bind fun rest merged => .done (.ahead decided merged)

/-- Half of a list of two items or more is shorter, so that the depth is enough. -/
theorem sortWithin_compares {depth : Nat} {xs : List Value} (enough : xs.length ≤ depth)
    (inside : xs ⊆ items) :
    (sortWithin (comesAfter f) depth xs).Compares f items Allowed (Sorts (Decides Allowed) xs) := by
  induction depth generalizing xs with
  | zero => exact .done (.short (Nat.le_succ_of_le enough))
  | succ depth ih =>
    rw [sortWithin]
    split
    · next few => exact .done (.short few)
    · next many =>
      have left : (xs.take (xs.length / 2)).length ≤ depth := by
        rw [List.length_take]
        omega
      have right : (xs.drop (xs.length / 2)).length ≤ depth := by
        rw [List.length_drop]
        omega
      have inL := List.Subset.trans (List.take_subset (xs.length / 2) xs) inside
      have inR := List.Subset.trans (List.drop_subset (xs.length / 2) xs) inside
      refine (ih left inL).bind fun first sortedL => ?_
      refine (ih right inR).bind fun second sortedR => ?_
      have inL' := List.Subset.trans sortedL.perm.subset inL
      have inR' := List.Subset.trans sortedR.perm.subset inR
      refine (mergeBy_compares inL' inR').mono fun ys merged => ?_
      exact .halves sortedL sortedR merged

theorem sortBy_compares (f : Value) (items : List Value)
    (Allowed : Value → Value → Value → Prop) :
    (sortBy (comesAfter f) items).Compares f items Allowed (Sorts (Decides Allowed) items) :=
  sortWithin_compares (Nat.le_refl _) (List.Subset.refl items)

end Library

end Bracket
