import Bracket.Library.Standard
import Bracket.Proofs.Likeness.Routine

/-!
The library and alike values. Main statement: every function of the library goes on alike when it
is called in the same way, whatever alike values it comes to hold.
-/

namespace Bracket.Library

open Routine

variable {C : Likeness} {call call' : Call}

/-- Both sides have the very same result. -/
def Same {α : Type} : Likeness → α → α → Prop := fun _ a b => b = a

/-! ### Arithmetic and conditions -/

theorem numeric_alike (op : Number → Number → Number) (same : call.Like call') :
    (numeric op call).Alike Value.Like C (numeric op call') := by
  refine (argument_alike same 0).bind fun C₁ _ a a' first => ?_
  refine (argument_alike same 1).bind fun C₂ _ b b' second => ?_
  rw [first.toNumber, second.toNumber]
  exact .done (.number _)

theorem plus_alike (same : call.Like call') : (plus call).Alike Value.Like C (plus call') := by
  refine (argument_alike same 0).bind fun C₁ _ a a' first => ?_
  refine (argument_alike same 1).bind fun C₂ le b b' second => ?_
  exact .done ((first.mono le).add second)

theorem double_alike (same : call.Like call') :
    (double call).Alike Value.Like C (double call') := by
  refine (argument_alike same 0).bind fun C₁ _ a a' first => ?_
  rw [first.toNumber]
  exact .done (.number _)

theorem relation_alike (holds : Ordering → Bool) (same : call.Like call') :
    (relation holds call).Alike Value.Like C (relation holds call') := by
  refine (argument_alike same 0).bind fun C₁ _ a a' first => ?_
  refine (argument_alike same 1).bind fun C₂ le b b' second => ?_
  rw [(first.mono le).compare second]
  exact .done (.bool _)

theorem extremeFrom_alike (pick : Number → Number → Number) (position count : Nat)
    {best best' : Value} (start : best.Like C best') :
    (extremeFrom pick position best count).Alike Value.Like C
      (extremeFrom pick position best' count) := by
  induction count generalizing C position best best' with
  | zero => exact .done start
  | succ count ih =>
    refine (ask_argument_alike position).bind fun C₁ _ v v' next => ?_
    simp only [start.toNumber, next.toNumber]
    exact ih (position + 1) (.number _)

theorem extreme_alike (pick : Number → Number → Number) (same : call.Like call') :
    (extreme pick call).Alike Value.Like C (extreme pick call') := by
  refine (argument_alike same 0).bind fun C₁ _ a a' first => ?_
  rw [same.size]
  exact extremeFrom_alike pick 1 _ first

theorem isNaN_alike (same : call.Like call') : (isNaN call).Alike Value.Like C (isNaN call') := by
  refine (argumentOrUndefined_alike same 0).bind fun C₁ _ v v' alike => ?_
  rw [alike.toNumber]
  exact .done (.bool _)

theorem ternary_alike (same : call.Like call') :
    (ternary call).Alike Value.Like C (ternary call') := by
  refine (argument_alike same 0).bind fun C₁ _ v v' condition => ?_
  rw [condition.truthy]
  split
  · exact argument_alike same 1
  · exact argumentOrUndefined_alike same 2

theorem not_alike (same : call.Like call') : (not call).Alike Value.Like C (not call') := by
  refine (argument_alike same 0).bind fun C₁ _ v v' alike => ?_
  rw [alike.truthy]
  exact .done (.bool _)

theorem test_alike {holds : Value → Value → Bool}
    (agree : ∀ {C : Likeness} {a a' b b' : Value}, a.Like C a' → b.Like C b' →
      holds a' b' = holds a b) (same : call.Like call') :
    (test holds call).Alike Value.Like C (test holds call') := by
  refine (argument_alike same 0).bind fun C₁ _ a a' first => ?_
  refine (argument_alike same 1).bind fun C₂ le b b' second => ?_
  rw [agree (first.mono le) second]
  exact .done (.bool _)

theorem searchFrom_alike {stop : Value → Option Value}
    (agree : ∀ {C : Likeness} {v v' : Value}, v.Like C v' →
      Option.Rel (Value.Like C) (stop v) (stop v')) (position count : Nat) {last last' : Value}
    (start : last.Like C last') :
    (searchFrom stop position last count).Alike Value.Like C
      (searchFrom stop position last' count) := by
  induction count generalizing C position last last' with
  | zero => exact .done start
  | succ count ih =>
    refine (ask_argument_alike position).bind fun C₁ _ v v' alike => ?_
    have stops := agree alike
    revert stops
    cases stop v <;> cases stop v' <;> rintro (_ | result)
    · exact ih (position + 1) alike
    · exact .done (by assumption)

theorem search_alike {stop : Value → Option Value}
    (agree : ∀ {C : Likeness} {v v' : Value}, v.Like C v' →
      Option.Rel (Value.Like C) (stop v) (stop v')) (same : call.Like call') :
    (search stop call).Alike Value.Like C (search stop call') := by
  unfold search
  rw [same.size]
  exact searchFrom_alike agree 0 _ .undefined

theorem or_alike (same : call.Like call') : (or call).Alike Value.Like C (or call') := by
  refine search_alike (fun {C v v'} alike => ?_) same
  rw [alike.truthy]
  split
  · exact .some alike
  · exact .none

theorem either_alike (same : call.Like call') :
    (either call).Alike Value.Like C (either call') := by
  refine search_alike (fun {C v v'} alike => ?_) same
  cases alike with
  | bool b =>
    cases b with
    | false => exact .none
    | true => exact .some (.bool true)
  | _ => exact .none

theorem and_alike (same : call.Like call') : (and call).Alike Value.Like C (and call') := by
  refine search_alike (fun {C v v'} alike => ?_) same
  rw [alike.truthy]
  split
  · exact .none
  · exact .some (.bool false)

/-! ### Functions made from functions -/

theorem functionAndValues_like {values values' : List Value}
    (each : Value.LikeAll C values values') :
    (functionAndValues values).1.Like C (functionAndValues values').1 ∧
      Value.LikeAll C (functionAndValues values).2 (functionAndValues values').2 := by
  cases each with
  | nil => exact ⟨.undefined, .nil⟩
  | cons first rest => exact ⟨first, rest⟩

theorem bind_alike (same : call.Like call') : (bind call).Alike Value.Like C (bind call') := by
  refine (arguments_alike same).bind fun C₁ _ values values' each => ?_
  obtain ⟨function, bound⟩ := functionAndValues_like each
  exact newFunction_alike (.native "partial" (.bound function bound) .nil)

theorem flip_alike (same : call.Like call') : (flip call).Alike Value.Like C (flip call') := by
  refine (arguments_alike same).bind fun C₁ _ values values' each => ?_
  obtain ⟨function, bound⟩ := functionAndValues_like each
  exact newFunction_alike (.native "flip" (.flipped function bound) .nil)

theorem compose_alike (same : call.Like call') :
    (compose call).Alike Value.Like C (compose call') := by
  refine (arguments_alike same).bind fun C₁ _ functions functions' each => ?_
  exact newFunction_alike (.native "compose" (.chained (List.rel_reverse each)) .nil)

theorem apply_alike (same : call.Like call') : (apply call).Alike Value.Like C (apply call') := by
  refine (argument_alike same 0).bind fun C₁ _ f f' function => ?_
  refine (argument_alike same 1).bind fun C₂ le items items' alike => ?_
  cases alike with
  | array _ each => exact invoke_alike (function.mono le) each
  | _ => exact .fail _

theorem callBound_alike {f f' : Value} {values values' : List Value} (function : f.Like C f')
    (bound : Value.LikeAll C values values') (same : call.Like call') :
    (callBound f values call).Alike Value.Like C (callBound f' values' call') := by
  refine (arguments_alike same).bind fun C₁ le more more' each => ?_
  exact invoke_alike (function.mono le) (List.rel_append (Value.LikeAll.mono le bound) each)

theorem callFlipped_alike {f f' : Value} {values values' : List Value} (function : f.Like C f')
    (bound : Value.LikeAll C values values') (same : call.Like call') :
    (callFlipped f values call).Alike Value.Like C (callFlipped f' values' call') := by
  refine (arguments_alike same).bind fun C₁ le more more' each => ?_
  exact invoke_alike (function.mono le)
    (List.rel_reverse (List.rel_append (Value.LikeAll.mono le bound) each))

theorem callChained_alike {functions functions' : List Value}
    (chain : Value.LikeAll C functions functions') (same : call.Like call') :
    (callChained functions call).Alike Value.Like C (callChained functions' call') := by
  refine (arguments_alike same).bind fun C₁ le₁ values values' each => ?_
  refine (invoke_alike (Value.LikeAll.mono le₁ chain).headD each).bind
    fun C₂ le₂ first first' start => ?_
  have rest := List.forall₂_drop 1 (Value.LikeAll.mono (Likeness.le_trans le₁ le₂) chain)
  refine Alike.foldlM Value.Like.mono (fun C₃ _ result result' done f f' function => ?_) rest start
  exact invoke_alike function (.cons done .nil)

/-! ### Arrays and objects -/

theorem array_alike (same : call.Like call') : (array call).Alike Value.Like C (array call') :=
  (arguments_alike same).bind fun _ _ _ _ => newArray_alike

theorem entriesFrom_alike (same : call.Like call') : {C : Likeness} → (position : Nat) →
    {entries entries' : Table Value} → Table.Like C entries entries' → (count : Nat) →
    (entriesFrom call position entries count).Alike Table.Like C
      (entriesFrom call' position entries' count)
  | _, _, _, _, alike, 0 => .done alike
  | _, position, _, _, alike, 1 => by
    refine (argument_alike same position).bind fun C₁ le₁ _ _ _ => ?_
    refine (argument_alike same (position + 1)).bind fun C₂ le₂ _ _ _ => ?_
    exact .done (Table.Like.mono (Likeness.le_trans le₁ le₂) alike)
  | _, position, _, _, alike, count + 2 => by
    refine (argument_alike same position).bind fun C₁ le₁ key key' name => ?_
    refine (argument_alike same (position + 1)).bind fun C₂ le₂ v v' value => ?_
    have before := Table.Like.mono (Likeness.le_trans le₁ le₂) alike
    rw [name.text]
    exact entriesFrom_alike same (position + 2) (before.insert key.text value) count

theorem object_alike (same : call.Like call') :
    (object call).Alike Value.Like C (object call') := by
  unfold object
  rw [same.size]
  exact (entriesFrom_alike same 0 .nil call.size).bind fun _ _ _ _ => newObject_alike

theorem entry_persists : Persists Entry.Like := by
  intro C C' le entry entry' alike
  obtain ⟨key, value⟩ := alike
  exact .mk key (value.mono le)

theorem map_alike (same : call.Like call') : (map call).Alike Value.Like C (map call') := by
  refine (argument_alike same 0).bind fun C₁ _ source source' items => ?_
  refine (argument_alike same 1).bind fun C₂ le f f' function => ?_
  cases items.mono le with
  | array _ each =>
    refine (Alike.mapM Value.Like.mono Value.Like.mono (fun C₃ more item item' alike => ?_)
      each).bind fun _ _ _ _ => newArray_alike
    exact invoke_alike (function.mono more) (.cons alike .nil)
  | object _ each =>
    refine (Alike.mapM (R := Entry.Like) entry_persists entry_persists
      (fun C₃ more entry entry' alike => ?_) each).bind
        fun _ _ _ _ mapped => newObject_alike (Table.Like.ofEntries mapped)
    obtain ⟨key, value⟩ := alike
    exact (invoke_alike (function.mono more) (.cons value .nil)).bind
      fun _ _ _ _ result => .done (.mk key result)
  | _ => exact newObject_alike .nil

theorem comesAfter_alike {f f' a a' b b' : Value} (function : f.Like C f') (first : a.Like C a')
    (second : b.Like C b') : (comesAfter f a b).Alike Same C (comesAfter f' a' b') := by
  refine (invoke_alike function (.cons first (.cons second .nil))).bind
    fun C₁ _ answer answer' alike => ?_
  rw [alike.toNumber]
  exact .done rfl

/-- The comparisons of two runs answer the same for alike values. -/
def Agree (C : Likeness) (greater greater' : Value → Value → Routine Bool) : Prop :=
  ∀ C', C ≤ C' → ∀ {a a' b b' : Value}, a.Like C' a' → b.Like C' b' →
    (greater a b).Alike Same C' (greater' a' b')

theorem Agree.mono {C' : Likeness} {greater greater' : Value → Value → Routine Bool}
    (agree : Agree C greater greater') (le : C ≤ C') : Agree C' greater greater' :=
  fun C'' more => agree C'' (Likeness.le_trans le more)

theorem mergeBy_alike {greater greater' : Value → Value → Routine Bool}
    (agree : Agree C greater greater') {xs xs' ys ys' : List Value}
    (left : Value.LikeAll C xs xs') (right : Value.LikeAll C ys ys') :
    (mergeBy greater xs ys).Alike Value.LikeAll C (mergeBy greater' xs' ys') := by
  induction xs, ys using mergeBy.induct generalizing C xs' ys' with
  | case1 ys =>
    cases left
    rw [mergeBy, mergeBy]
    exact .done right
  | case2 xs nonempty =>
    cases right
    cases left with
    | nil => exact absurd rfl nonempty
    | cons first rest =>
      simp only [mergeBy]
      exact .done (.cons first rest)
  | case3 x xs y ys keep take =>
    cases left with
    | cons first rest =>
      cases right with
      | cons second others =>
        simp only [mergeBy]
        refine (agree C (Likeness.le_refl C) first second).bind fun C₁ le after after' answer => ?_
        obtain rfl : after' = after := answer
        have left := Value.LikeAll.mono le (.cons first rest)
        have right := Value.LikeAll.mono le (.cons second others)
        cases after' with
        | true =>
          refine (keep (agree.mono le) left (List.forall₂_drop 1 right)).bind
            fun C₂ more merged merged' each => ?_
          exact .done (.cons ((second.mono le).mono more) each)
        | false =>
          refine (take (agree.mono le) (List.forall₂_drop 1 left) right).bind
            fun C₂ more merged merged' each => ?_
          exact .done (.cons ((first.mono le).mono more) each)

theorem sortWithin_alike {greater greater' : Value → Value → Routine Bool}
    (agree : Agree C greater greater') (depth : Nat) {items items' : List Value}
    (each : Value.LikeAll C items items') :
    (sortWithin greater depth items).Alike Value.LikeAll C
      (sortWithin greater' depth items') := by
  induction depth generalizing C items items' with
  | zero => exact .done each
  | succ depth ih =>
    rw [sortWithin, sortWithin, ← each.length_eq]
    split
    · exact .done each
    · refine (ih agree (List.forall₂_take _ each)).bind fun C₁ le₁ left left' first => ?_
      have others := List.forall₂_drop (items.length / 2) (Value.LikeAll.mono le₁ each)
      refine (ih (agree.mono le₁) others).bind fun C₂ le₂ right right' second => ?_
      exact mergeBy_alike (agree.mono (Likeness.le_trans le₁ le₂)) (Value.LikeAll.mono le₂ first)
        second

theorem sort_alike (same : call.Like call') : (sort call).Alike Value.Like C (sort call') := by
  refine (arguments_alike same).bind fun C₁ _ values values' each => ?_
  cases each with
  | nil => exact .done .undefined
  | cons source rest =>
    cases source with
    | @array _ _ items items' _ each =>
      have agree : Agree C₁ _ _ := fun C' le _ _ _ _ =>
        comesAfter_alike (Value.LikeAll.mono le rest).headD
      dsimp only [sortBy]
      rw [← each.length_eq]
      exact (sortWithin_alike agree items.length each).bind fun _ _ _ _ => newArray_alike
    | _ => exact .done .undefined

theorem accepts_alike {f f' item item' : Value} (function : f.Like C f')
    (alike : item.Like C item') : (accepts f item).Alike Same C (accepts f' item') := by
  have equal := alike.strictEq function
  cases function with
  | function ids procedure =>
    refine (invoke_alike (.function ids procedure) (.cons alike .nil)).bind
      fun C₁ _ v v' answer => ?_
    rw [answer.truthy]
    exact .done rfl
  | _ => exact .done equal

theorem filterItems_alike {f f' : Value} (function : f.Like C f') {items items' : List Value}
    (each : Value.LikeAll C items items') :
    (filterItems f items).Alike Value.LikeAll C (filterItems f' items') := by
  induction items generalizing C items' with
  | nil =>
    cases each
    exact .done .nil
  | cons item rest ih =>
    cases each with
    | cons first others =>
      refine (accepts_alike function first).bind fun C₁ le₁ keep keep' answer => ?_
      obtain rfl : keep' = keep := answer
      refine (ih (function.mono le₁) (Value.LikeAll.mono le₁ others)).bind
        fun C₂ le₂ kept kept' passed => ?_
      cases keep' with
      | true => exact .done (.cons ((first.mono le₁).mono le₂) passed)
      | false => exact .done passed

theorem filter_alike (same : call.Like call') :
    (filter call).Alike Value.Like C (filter call') := by
  refine (arguments_alike same).bind fun C₁ _ values values' each => ?_
  cases each with
  | nil => exact newArray_alike .nil
  | cons source rest =>
    cases rest with
    | nil => exact newArray_alike (.cons source .nil)
    | cons function _ =>
      cases source with
      | array _ each => exact (filterItems_alike function each).bind fun _ _ _ _ => newArray_alike
      | _ => exact .done .undefined

theorem firstAccepted_alike {f f' : Value} (function : f.Like C f') {items items' : List Value}
    (each : Value.LikeAll C items items') :
    (firstAccepted f items).Alike Value.Like C (firstAccepted f' items') := by
  induction items generalizing C items' with
  | nil =>
    cases each
    exact .done .undefined
  | cons item rest ih =>
    cases each with
    | cons first others =>
      refine (invoke_alike function (.cons first .nil)).bind fun C₁ le answer answer' alike => ?_
      rw [alike.truthy]
      split
      · exact .done (first.mono le)
      · exact ih (function.mono le) (Value.LikeAll.mono le others)

theorem findOne_alike (same : call.Like call') :
    (findOne call).Alike Value.Like C (findOne call') := by
  refine (arguments_alike same).bind fun C₁ _ values values' each => ?_
  cases each with
  | nil => exact newArray_alike .nil
  | cons source rest =>
    cases rest with
    | nil => exact newArray_alike (.cons source .nil)
    | cons function _ =>
      cases source with
      | array _ each => exact firstAccepted_alike function each
      | _ => exact .done .undefined

theorem foldItems_alike {values values' : List Value} (each : Value.LikeAll C values values') :
    (foldItems values).Alike Value.LikeAll C (foldItems values') := by
  cases each with
  | nil => exact .fail _
  | cons first rest =>
    cases rest with
    | nil =>
      cases first with
      | array _ each => exact .done each
      | string s => exact .done (List.forall₂_same.mpr (by simp [Value.Like.string]))
      | undefined | null => exact .fail _
      | _ => exact .done .nil
    | cons second others =>
      have all : Value.LikeAll C _ _ := .cons first (.cons second others)
      cases first <;> exact .done all

theorem fold_alike (same : call.Like call') : (fold call).Alike Value.Like C (fold call') := by
  refine (arguments_alike same).bind fun C₁ _ values values' each => ?_
  have backwards := List.rel_reverse each
  have function := Value.LikeAll.headD backwards
  have seed := Value.LikeAll.headD (List.forall₂_drop 1 backwards)
  have loose := List.rel_reverse (List.forall₂_drop 2 backwards)
  refine (foldItems_alike loose).bind fun C₂ le items items' each => ?_
  refine Alike.foldlM Value.Like.mono (fun C₃ more result result' done item item' alike => ?_) each
    (seed.mono le)
  exact invoke_alike ((function.mono le).mono more) (.cons done (.cons alike .nil))

theorem last_alike (same : call.Like call') : (last call).Alike Value.Like C (last call') := by
  refine (argument_alike same 0).bind fun C₁ _ source source' alike => ?_
  cases alike with
  | array _ each => exact .done (Value.Like.getD (forall₂_getLast? each))
  | _ => exact .done .undefined

theorem texts_like {values values' : List Value} (each : Value.LikeAll C values values') :
    values'.map Value.text = values.map Value.text := by
  induction each with
  | nil => rfl
  | cons first _ ih => rw [List.map_cons, List.map_cons, first.text, ih]

theorem refine_alike (same : call.Like call') :
    (refine call).Alike Value.Like C (refine call') := by
  refine (arguments_alike same).bind fun C₁ _ values values' each => ?_
  -- what is kept of a source, whichever way the flag is given
  have kept : ∀ (exclude : Bool) {values values' : List Value}, Value.LikeAll C₁ values values' →
      (newObject (Table.ofEntries
        (((values.headD .undefined).entryKeys.filter fun key =>
          ((values.drop 1).map Value.text).contains key != exclude).map fun key =>
            (key, (values.headD .undefined).entry key)))).Alike Value.Like C₁
      (newObject (Table.ofEntries
        (((values'.headD .undefined).entryKeys.filter fun key =>
          ((values'.drop 1).map Value.text).contains key != exclude).map fun key =>
            (key, (values'.headD .undefined).entry key)))) := by
    intro exclude values values' each
    have source := Value.LikeAll.headD each
    rw [texts_like (List.forall₂_drop 1 each), source.entryKeys]
    refine newObject_alike (Table.Like.ofEntries ?_)
    apply List.forall₂_map_left_iff.mpr
    apply List.forall₂_map_right_iff.mpr
    exact List.forall₂_same.mpr fun key _ => .mk key (source.entry key)
  cases each with
  | nil => exact kept false .nil
  | cons first rest =>
    have all := kept false (.cons first rest)
    cases first with
    | bool b => exact kept b rest
    | _ => exact all

theorem agrees_alike {comparator comparator' reference reference' source source' : Value}
    (function : comparator.Like C comparator') (right : reference.Like C reference')
    (left : source.Like C source') (keys : List String) :
    (agrees comparator reference source keys).Alike Same C
      (agrees comparator' reference' source' keys) := by
  induction keys generalizing C with
  | nil => exact .done rfl
  | cons key keys ih =>
    rw [agrees, agrees, right.isNullish, right.kind]
    split
    · exact .fail _
    · refine (invoke_alike function (.cons (left.entry key) (.cons (right.entry key) .nil))).bind
        fun C₁ le answer answer' alike => ?_
      refine (ih (function.mono le) (right.mono le) (left.mono le)).bind
        fun C₂ _ rest rest' others => ?_
      obtain rfl : rest' = rest := others
      rw [alike.truthy]
      exact .done rfl

theorem agreeAll_alike {comparator comparator' reference reference' : Value}
    (function : comparator.Like C comparator') (right : reference.Like C reference')
    {sources sources' : List Value} (each : Value.LikeAll C sources sources') :
    (agreeAll comparator reference sources).Alike Same C
      (agreeAll comparator' reference' sources') := by
  induction sources generalizing C sources' with
  | nil =>
    cases each
    exact .done rfl
  | cons source sources ih =>
    cases each with
    | cons first others =>
      rw [agreeAll, agreeAll, first.entryKeys]
      refine (agrees_alike function right first _).bind fun C₁ le answer answer' one => ?_
      refine (ih (function.mono le) (right.mono le) (Value.LikeAll.mono le others)).bind
        fun C₂ _ rest rest' all => ?_
      obtain rfl : answer' = answer := one
      obtain rfl : rest' = rest := all
      exact .done rfl

theorem compare_alike (same : call.Like call') :
    (compare call).Alike Value.Like C (compare call') := by
  refine (arguments_alike same).bind fun C₁ _ values values' each => ?_
  have backwards := List.rel_reverse each
  have function := Value.LikeAll.headD backwards
  have right := Value.LikeAll.headD (List.forall₂_drop 1 backwards)
  refine (agreeAll_alike function right (List.forall₂_drop 2 backwards)).bind
    fun C₂ _ answer answer' equal => ?_
  obtain rfl : answer' = answer := equal
  exact .done (.bool _)

theorem getValue_alike (same : call.Like call') :
    (getValue call).Alike Value.Like C (getValue call') := by
  refine (argument_alike same 0).bind fun C₁ _ target target' alike => ?_
  refine (argument_alike same 1).bind fun C₂ le key key' name => ?_
  have found : ((target.property? key.text).getD .undefined).Like C₂
      ((target'.property? key'.text).getD .undefined) := by
    rw [name.text]
    exact Value.Like.getD ((alike.mono le).property? key.text)
  cases alike with
  | object | array | date => exact .done found
  | _ => exact .done .undefined

/-! ### Texts -/

theorem toText_alike (same : call.Like call') :
    (toText call).Alike Value.Like C (toText call') := by
  refine (argument_alike same 0).bind fun C₁ _ v v' alike => ?_
  rw [alike.text]
  exact .done (.string _)

theorem toLowerCase_alike (same : call.Like call') :
    (toLowerCase call).Alike Value.Like C (toLowerCase call') := by
  refine (argument_alike same 0).bind fun C₁ _ v v' alike => ?_
  cases alike with
  | string s => exact .done (.string _)
  | _ => exact .done .undefined

theorem charAt_alike (same : call.Like call') :
    (charAt call).Alike Value.Like C (charAt call') := by
  refine (argument_alike same 0).bind fun C₁ _ target target' alike => ?_
  refine (argumentOrUndefined_alike same 1).bind fun C₂ _ position position' place => ?_
  cases alike with
  | string s =>
    simp only [place.toPosition]
    exact .done (.string _)
  | _ => exact .done .undefined

theorem join_alike (same : call.Like call') : (join call).Alike Value.Like C (join call') := by
  refine (arguments_alike same).bind fun C₁ _ values values' each => ?_
  rw [Value.Like.itemTexts (List.forall₂_drop 1 each)]
  cases each with
  | nil => exact .done (.string _)
  | cons first rest =>
    have text := first.text
    cases first with
    | undefined => exact .done (.string _)
    | _ =>
      simp only [text]
      exact .done (.string _)

theorem placeholderText_like {values values' : List Value}
    (each : Value.LikeAll C values values') : placeholderText values' = placeholderText values := by
  funext i
  have item := forall₂_getElem? each i
  unfold placeholderText
  revert item
  cases values[i]? <;> cases values'[i]? <;> rintro (_ | item)
  · rfl
  · rename_i alike
    dsimp only
    rw [alike.isUndefined, alike.text]

theorem format_alike (same : call.Like call') :
    (format call).Alike Value.Like C (format call') := by
  refine (arguments_alike same).bind fun C₁ _ values values' each => ?_
  cases each with
  | nil => exact .fail _
  | cons template rest =>
    cases template with
    | string s =>
      dsimp only
      rw [placeholderText_like rest]
      exact .done (.string _)
    | _ => exact .fail _

theorem foldCase_like (strict : Bool) {v v' : Value} (alike : v.Like C v') :
    (foldCase strict v).Like C (foldCase strict v') := by
  cases alike with
  | string s => exact .string _
  | array ids each => exact .array ids each
  | object ids each => exact .object ids each
  | function ids procedure => exact .function ids procedure
  | undefined => exact .undefined
  | null => exact .null
  | bool b => exact .bool b
  | number n => exact .number n
  | date d => exact .date d

theorem hasItem?_like {target target' item item' : Value} (whole : target.Like C target')
    (part : item.Like C item') : hasItem? target' item' = hasItem? target item := by
  cases whole with
  | string s => rw [hasItem?, hasItem?, part.text]
  | array _ each =>
    rw [hasItem?, hasItem?]
    refine congrArg some ?_
    induction each with
    | nil => rfl
    | cons first _ ih => rw [List.any_cons, List.any_cons, first.strictEq part, ih]
  | _ => rfl

theorem hasItems_alike {target target' : Value} (whole : target.Like C target')
    {items items' : List Value} (each : Value.LikeAll C items items') :
    (hasItems target items).Alike Value.Like C (hasItems target' items') := by
  induction each with
  | nil => exact .done (.bool true)
  | cons first _ ih =>
    rw [hasItems, hasItems, hasItem?_like whole first, whole.kind]
    split
    · exact .fail _
    · exact .done (.bool false)
    · exact ih

theorem contains_alike (same : call.Like call') :
    (contains call).Alike Value.Like C (contains call') := by
  refine (arguments_alike same).bind fun C₁ _ values values' each => ?_
  have folded : ∀ (strict : Bool) {target target' : Value} {items items' : List Value},
      target.Like C₁ target' → Value.LikeAll C₁ items items' →
      (hasItems (foldCase strict target) (items.map (foldCase strict))).Alike Value.Like C₁
        (hasItems (foldCase strict target') (items'.map (foldCase strict))) := by
    intro strict target target' items items' whole each
    refine hasItems_alike (foldCase_like strict whole) ?_
    apply List.forall₂_map_left_iff.mpr
    apply List.forall₂_map_right_iff.mpr
    exact each.imp fun _ _ => foldCase_like strict
  cases each with
  | nil => exact .done .undefined
  | cons first rest =>
    have all := folded false first rest
    cases first with
    | bool strict => exact folded strict (Value.LikeAll.headD rest) (List.forall₂_drop 1 rest)
    | undefined | null => exact .done .undefined
    | _ => exact all

theorem sliceOf_alike {first first' last last' target target' : Value}
    (start : first.Like C first') (stop : last.Like C last') (whole : target.Like C target') :
    (sliceOf first last target).Alike Value.Like C (sliceOf first' last' target') := by
  cases whole with
  | string s =>
    have same : Value.sliceList first' last' s.toList = Value.sliceList first last s.toList := by
      have each := start.sliceList stop (List.forall₂_same.mpr fun c (_ : c ∈ s.toList) => rfl)
      exact (List.forall₂_eq_eq_eq ▸ each : _ = _).symm
    rw [sliceOf, sliceOf, same]
    exact .done (.string _)
  | array _ each => exact newArray_alike (start.sliceList stop each)
  | _ => exact .fail _

theorem slice_alike (same : call.Like call') : (slice call).Alike Value.Like C (slice call') := by
  refine (argument_alike same 0).bind fun C₁ _ a a' first => ?_
  rw [same.size]
  split
  · exact sliceOf_alike .undefined .undefined first
  · refine (argument_alike same 1).bind fun C₂ le b b' second => ?_
    split
    · exact sliceOf_alike (first.mono le) .undefined second
    · refine (argument_alike same 2).bind fun C₃ more c c' third => ?_
      exact sliceOf_alike ((first.mono le).mono more) (second.mono more) third

theorem length_alike (same : call.Like call') :
    (length call).Alike Value.Like C (length call') := by
  refine (argument_alike same 0).bind fun C₁ _ v v' alike => ?_
  cases alike with
  | string s => exact .done (.number _)
  | array _ each =>
    dsimp only
    rw [each.length_eq]
    exact .done (.number _)
  | object _ each => exact .done (Value.Like.getD (Table.Like.get? each "length"))
  | @function _ _ procedure _ _ alike =>
    dsimp only
    rw [alike.arity?]
    cases procedure.arity? with
    | none => exact .done .undefined
    | some n => exact .done (.number _)
  | undefined | null => exact .fail _
  | _ => exact .done .undefined

theorem concatFrom_alike (position count : Nat) {result result' : Value}
    (start : result.Like C result') :
    (concatFrom position result count).Alike Value.Like C (concatFrom position result' count) := by
  induction count generalizing C position result result' with
  | zero => exact .done start
  | succ count ih =>
    cases start with
    | string s =>
      refine (ask_argument_alike position).bind fun C₁ _ v v' next => ?_
      rw [next.text]
      exact ih (position + 1) (.string _)
    | array ids each =>
      refine (ask_argument_alike position).bind fun C₁ le v v' next => ?_
      have longer : ∀ {more more' : List Value}, Value.LikeAll C₁ more more' → _ :=
        fun added => (newArray_alike (List.rel_append (Value.LikeAll.mono le each) added)).bind
          fun C₂ _ result result' start => ih (position + 1) start
      have single := longer (.cons next .nil)
      cases next with
      | array _ added => exact longer added
      | _ => exact single
    | _ => exact .done .undefined

theorem concat_alike (same : call.Like call') :
    (concat call).Alike Value.Like C (concat call') := by
  refine (argument_alike same 0).bind fun C₁ _ first first' start => ?_
  rw [same.size]
  exact concatFrom_alike 1 _ start

/-! ### Dates and documents -/

theorem dateOrFail_alike {what what' : Value} (alike : what.Like C what')
    (d : Option Bracket.Date) : (dateOrFail what d).Alike Value.Like C (dateOrFail what' d) := by
  cases d with
  | none =>
    rw [dateOrFail, dateOrFail, alike.text]
    exact .fail _
  | some d => exact .done (.date d)

theorem toNumbers_like {values values' : List Value} (each : Value.LikeAll C values values') :
    values'.map Value.toNumber = values.map Value.toNumber := by
  induction each with
  | nil => rfl
  | cons first _ ih => rw [List.map_cons, List.map_cons, first.toNumber, ih]

theorem date_alike (same : call.Like call') : (date call).Alike Value.Like C (date call') := by
  unfold date
  rw [same.size]
  split
  · exact .now fun d => .done (.date d)
  · split
    · refine (argument_alike same 0).bind fun C₁ _ v v' alike => ?_
      have read : toDate? v' = toDate? v := by cases alike <;> rfl
      rw [read]
      exact dateOrFail_alike alike _
    · refine (arguments_alike same).bind fun C₁ _ parts parts' each => ?_
      have read : dateOfParts? parts' = dateOfParts? parts := by
        rw [dateOfParts?, dateOfParts?, toNumbers_like each]
      have text : (Value.array 0 parts').text = (Value.array 0 parts).text := by
        rw [Value.text, Value.text, Value.Like.itemTexts each]
      rw [read]
      cases dateOfParts? parts with
      | none =>
        rw [dateOrFail, dateOrFail, text]
        exact .fail _
      | some d => exact .done (.date d)

theorem addDays_alike (same : call.Like call') :
    (addDays call).Alike Value.Like C (addDays call') := by
  refine (argument_alike same 0).bind fun C₁ _ base base' alike => ?_
  cases alike with
  | date d =>
    refine (argument_alike same 1).bind fun C₂ _ days days' count => ?_
    simp only [count.toNumber]
    exact dateOrFail_alike count _
  | _ => exact .fail _

theorem toJson_alike (same : call.Like call') :
    (toJson call).Alike Value.Like C (toJson call') := by
  refine (argument_alike same 0).bind fun C₁ _ v v' alike => ?_
  rw [alike.toJson]
  cases v.toJson with
  | none => exact .done .undefined
  | some json => exact .done (.string _)

theorem fromJson_alike (same : call.Like call') :
    (fromJson call).Alike Value.Like C (fromJson call') := by
  refine (argument_alike same 0).bind fun C₁ _ v v' alike => ?_
  rw [alike.text, parseJson]
  cases Json.read v.text with
  | error e => exact .fail e
  | ok json => exact .reserve _ fun _ _ _ _ reserved => .done (json.toValue_like reserved)

end Bracket.Library

namespace Bracket

variable {C : Likeness} {call call' : Call}

/-- A function of the library goes on alike in calls that look the same. -/
theorem Builtin.routine_alike (b : Builtin) (same : call.Like call') :
    (b.routine call).Alike Value.Like C (b.routine call') := by
  cases b with
  | toString => exact Library.toText_alike same
  | plus => exact Library.plus_alike same
  | minus | divide | times => exact Library.numeric_alike _ same
  | isNaN => exact Library.isNaN_alike same
  | max | min => exact Library.extreme_alike _ same
  | greater | less | greaterEqual | lessEqual => exact Library.relation_alike _ same
  | double => exact Library.double_alike same
  | ternary => exact Library.ternary_alike same
  | not => exact Library.not_alike same
  | looseEqual => exact Library.test_alike Value.Like.looseEq same
  | strictEqual => exact Library.test_alike Value.Like.strictEq same
  | looseUnequal =>
    exact Library.test_alike (fun first second => congrArg _ (first.looseEq second)) same
  | strictUnequal =>
    exact Library.test_alike (fun first second => congrArg _ (first.strictEq second)) same
  | or => exact Library.or_alike same
  | either => exact Library.either_alike same
  | and => exact Library.and_alike same
  | object => exact Library.object_alike same
  | array => exact Library.array_alike same
  | map => exact Library.map_alike same
  | sort => exact Library.sort_alike same
  | filter => exact Library.filter_alike same
  | findOne => exact Library.findOne_alike same
  | fold => exact Library.fold_alike same
  | last => exact Library.last_alike same
  | concat => exact Library.concat_alike same
  | join => exact Library.join_alike same
  | slice => exact Library.slice_alike same
  | length => exact Library.length_alike same
  | getValue => exact Library.getValue_alike same
  | compare => exact Library.compare_alike same
  | contains => exact Library.contains_alike same
  | charAt => exact Library.charAt_alike same
  | toLowerCase => exact Library.toLowerCase_alike same
  | format => exact Library.format_alike same
  | refine => exact Library.refine_alike same
  | date => exact Library.date_alike same
  | addDays => exact Library.addDays_alike same
  | toJson => exact Library.toJson_alike same
  | fromJson => exact Library.fromJson_alike same
  | bind => exact Library.bind_alike same
  | flip => exact Library.flip_alike same
  | compose => exact Library.compose_alike same
  | apply => exact Library.apply_alike same

/-- Native code goes on alike where the functions of the host do. -/
theorem Code.routine_alike {hosts : List HostFunction}
    (uniform : ∀ f ∈ hosts, (f call).Alike Value.Like C (f call')) {code code' : Code}
    (alike : code.Like C code') (same : call.Like call') :
    (code.routine hosts call).Alike Value.Like C (code'.routine hosts call') := by
  cases alike with
  | builtin b => exact b.routine_alike same
  | bound function each => exact Library.callBound_alike function each same
  | flipped function each => exact Library.callFlipped_alike function each same
  | chained each => exact Library.callChained_alike each same
  | host index =>
    rw [Code.routine]
    cases registered : hosts[index]? with
    | none => exact .done .undefined
    | some f => exact uniform f (List.mem_of_getElem? registered)

end Bracket
