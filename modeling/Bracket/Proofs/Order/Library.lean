import Bracket.Library.Standard

/-!
The order in which arguments are asked for. A routine may ask for any argument at any time, and
each time anew; but the functions of the library do not, though some of them go through the
arguments in a loop, leave it early or ask for one that may be missing. Main statement: every
function, whether of the library or a closure, asks for its arguments from left to right, and for
none of them twice.
-/

namespace Bracket

/-- The question is not for an argument before a position. -/
def Request.From (lower : Nat) : Request → Prop
  | .argument position => lower ≤ position
  | _ => True

/-- The first position that may be asked for after the question. -/
def Request.after (lower : Nat) : Request → Nat
  | .argument position => position + 1
  | _ => lower

namespace Routine

variable {α β : Type} {call : Call} {lower lower' middle upper upper' : Nat}

/-- The routine asks for arguments in order: from position `lower` on, each behind the one before,
and when it is done for none from position `upper` on. If `upper` is `lower`, it asks for none. -/
def InOrder : Routine α → (lower upper : Nat) → Prop
  | .done _, lower, upper => lower ≤ upper
  | .fail _, _, _ => True
  | .ask request next, lower, upper =>
    request.From lower ∧ ∀ a, InOrder (next a) (request.after lower) upper

namespace InOrder

/-- What starts at a later position and leaves off at an earlier one is in order all the more. -/
theorem mono {r : Routine α} (order : r.InOrder lower upper) (start : lower' ≤ lower)
    (stop : upper ≤ upper') : r.InOrder lower' upper' := by
  induction r generalizing lower lower' with
  | done a => exact Nat.le_trans start (Nat.le_trans order stop)
  | fail e => trivial
  | ask request next ih =>
    obtain ⟨here, rest⟩ := order
    cases request with
    | argument position =>
      exact ⟨Nat.le_trans start here, fun v => ih v (rest v) (Nat.le_refl _)⟩
    | _ => exact ⟨trivial, fun a => ih a (rest a) start⟩

theorem bind {r : Routine α} {f : α → Routine β} (first : r.InOrder lower middle)
    (rest : ∀ a, (f a).InOrder middle upper) : (r >>= f).InOrder lower upper := by
  induction r generalizing lower with
  | done a => exact (rest a).mono first (Nat.le_refl upper)
  | fail e => trivial
  | ask request next ih => exact ⟨first.1, fun a => ih a (first.2 a)⟩

/-- Going over a list without asking for an argument. -/
theorem mapM {ι : Type} {act : ι → Routine α} (each : ∀ item, (act item).InOrder lower lower)
    (items : List ι) : (items.mapM act).InOrder lower lower := by
  induction items with
  | nil => exact Nat.le_refl lower
  | cons item rest ih =>
    rw [List.mapM_cons]
    refine (each item).bind fun a => ?_
    exact ih.bind fun as => Nat.le_refl lower

theorem foldlM {ι : Type} {act : α → ι → Routine α}
    (each : ∀ a item, (act a item).InOrder lower lower) (items : List ι) (start : α) :
    (items.foldlM act start).InOrder lower lower := by
  induction items generalizing start with
  | nil => exact Nat.le_refl lower
  | cons item rest ih =>
    rw [List.foldlM_cons]
    exact (each start item).bind ih

end InOrder

/-! ### Questions -/

theorem ask_argument_inOrder (position : Nat) :
    (Routine.ask (.argument position) .done).InOrder position (position + 1) :=
  ⟨Nat.le_refl position, fun _ => Nat.le_refl (position + 1)⟩

theorem argument_inOrder (call : Call) (position : Nat) :
    (argument call position).InOrder position (position + 1) := by
  unfold argument
  split
  · exact ask_argument_inOrder position
  · trivial

theorem argumentOrUndefined_inOrder (call : Call) (position : Nat) :
    (argumentOrUndefined call position).InOrder position (position + 1) := by
  unfold argumentOrUndefined
  split
  · exact ask_argument_inOrder position
  · exact Nat.le_succ position

theorem argumentRange_inOrder (position count : Nat) :
    (argumentRange position count).InOrder position (position + count) := by
  induction count generalizing position with
  | zero => exact Nat.le_refl position
  | succ count ih =>
    refine (ask_argument_inOrder position).bind fun v => ?_
    have rest := ih (position + 1)
    rw [Nat.add_right_comm] at rest
    exact rest.bind fun values => Nat.le_refl _

theorem arguments_inOrder (call : Call) : (arguments call).InOrder 0 call.size := by
  have all := argumentRange_inOrder 0 (call.size - 0)
  exact all.mono (Nat.le_refl 0) (by omega)

theorem invoke_inOrder (f : Value) (values : List Value) : (invoke f values).InOrder lower lower :=
  ⟨trivial, fun _ => Nat.le_refl lower⟩

theorem newArray_inOrder (items : List Value) : (newArray items).InOrder lower lower :=
  ⟨trivial, fun _ => Nat.le_refl lower⟩

theorem newObject_inOrder (entries : Table Value) : (newObject entries).InOrder lower lower :=
  ⟨trivial, fun _ => Nat.le_refl lower⟩

theorem newFunction_inOrder (procedure : Procedure) :
    (newFunction procedure).InOrder lower lower :=
  ⟨trivial, fun _ => Nat.le_refl lower⟩

end Routine

namespace Library

open Routine

variable {lower : Nat}

/-! ### Arithmetic and conditions -/

/-- A function that takes one argument and asks for nothing else. -/
theorem unary_inOrder (call : Call) (result : Value → Value) :
    (argument call 0 >>= fun v => .done (result v)).InOrder 0 1 :=
  (argument_inOrder call 0).bind fun _ => Nat.le_refl 1

/-- A function that takes two arguments and asks for nothing else. -/
theorem binary_inOrder (call : Call) (result : Value → Value → Value) :
    (argument call 0 >>= fun a => argument call 1 >>= fun b => .done (result a b)).InOrder 0 2 := by
  refine (argument_inOrder call 0).bind fun a => ?_
  exact (argument_inOrder call 1).bind fun b => Nat.le_refl 2

theorem extremeFrom_inOrder (pick : Number → Number → Number) (position count : Nat)
    (best : Value) :
    (extremeFrom pick position best count).InOrder position (position + count) := by
  induction count generalizing position best with
  | zero => exact Nat.le_refl position
  | succ count ih =>
    refine (ask_argument_inOrder position).bind fun v => ?_
    rw [← Nat.add_assoc, Nat.add_right_comm]
    exact ih (position + 1) _

theorem extreme_inOrder (pick : Number → Number → Number) (call : Call) :
    (extreme pick call).InOrder 0 (1 + (call.size - 1)) :=
  (argument_inOrder call 0).bind fun first => extremeFrom_inOrder pick 1 _ first

theorem isNaN_inOrder (call : Call) : (isNaN call).InOrder 0 1 :=
  (argumentOrUndefined_inOrder call 0).bind fun _ => Nat.le_refl 1

/-- The branch that is taken comes behind the condition. -/
theorem ternary_inOrder (call : Call) : (ternary call).InOrder 0 3 := by
  refine (argument_inOrder call 0).bind fun condition => ?_
  split
  · exact (argument_inOrder call 1).mono (Nat.le_refl 1) (by omega)
  · exact (argumentOrUndefined_inOrder call 2).mono (by omega) (Nat.le_refl 3)

/-- A search may end before the last argument. -/
theorem searchFrom_inOrder (stop : Value → Option Value) (position count : Nat) (last : Value) :
    (searchFrom stop position last count).InOrder position (position + count) := by
  induction count generalizing position last with
  | zero => exact Nat.le_refl position
  | succ count ih =>
    refine (ask_argument_inOrder position).bind fun v => ?_
    rw [← Nat.add_assoc, Nat.add_right_comm]
    cases stop v with
    | some result => exact Nat.le_add_right (position + 1) count
    | none => exact ih (position + 1) v

theorem search_inOrder (stop : Value → Option Value) (call : Call) :
    (search stop call).InOrder 0 (0 + call.size) :=
  searchFrom_inOrder stop 0 call.size .undefined

/-! ### Functions made from functions -/

/-- A function that takes all arguments first and asks for no argument afterwards. -/
theorem variadic_inOrder {α : Type} (call : Call) {rest : List Value → Routine α}
    (later : ∀ values, (rest values).InOrder call.size call.size) :
    (arguments call >>= rest).InOrder 0 call.size :=
  (arguments_inOrder call).bind later

theorem bind_inOrder (call : Call) : (bind call).InOrder 0 call.size :=
  variadic_inOrder call fun _ => newFunction_inOrder _

theorem flip_inOrder (call : Call) : (flip call).InOrder 0 call.size :=
  variadic_inOrder call fun _ => newFunction_inOrder _

theorem compose_inOrder (call : Call) : (compose call).InOrder 0 call.size :=
  variadic_inOrder call fun _ => newFunction_inOrder _

theorem apply_inOrder (call : Call) : (apply call).InOrder 0 2 := by
  refine (argument_inOrder call 0).bind fun f => ?_
  refine (argument_inOrder call 1).bind fun items => ?_
  cases items with
  | array id items => exact invoke_inOrder f items
  | _ => trivial

theorem callBound_inOrder (f : Value) (values : List Value) (call : Call) :
    (callBound f values call).InOrder 0 call.size :=
  variadic_inOrder call fun _ => invoke_inOrder f _

theorem callFlipped_inOrder (f : Value) (values : List Value) (call : Call) :
    (callFlipped f values call).InOrder 0 call.size :=
  variadic_inOrder call fun _ => invoke_inOrder f _

theorem callChained_inOrder (functions : List Value) (call : Call) :
    (callChained functions call).InOrder 0 call.size := by
  refine variadic_inOrder call fun values => ?_
  refine (invoke_inOrder _ values).bind fun first => ?_
  exact .foldlM (fun result f => invoke_inOrder f [result]) _ first

/-! ### Arrays and objects -/

theorem array_inOrder (call : Call) : (array call).InOrder 0 call.size :=
  variadic_inOrder call fun _ => newArray_inOrder _

theorem entriesFrom_inOrder (call : Call) : (position : Nat) → (entries : Table Value) →
    (count : Nat) →
    (entriesFrom call position entries count).InOrder position (position + count + 1)
  | position, _, 0 => Nat.le_succ position
  | position, _, 1 => by
    refine (argument_inOrder call position).bind fun _ => ?_
    exact (argument_inOrder call (position + 1)).bind fun _ => Nat.le_refl (position + 2)
  | position, entries, count + 2 => by
    refine (argument_inOrder call position).bind fun key => ?_
    refine (argument_inOrder call (position + 1)).bind fun v => ?_
    have rest := entriesFrom_inOrder call (position + 2) (entries.insert key.text v) count
    exact rest.mono (Nat.le_refl _) (by omega)

theorem object_inOrder (call : Call) : (object call).InOrder 0 (0 + call.size + 1) :=
  (entriesFrom_inOrder call 0 [] call.size).bind fun _ => newObject_inOrder _

theorem map_inOrder (call : Call) : (map call).InOrder 0 2 := by
  refine (argument_inOrder call 0).bind fun source => ?_
  refine (argument_inOrder call 1).bind fun f => ?_
  cases source with
  | array id items =>
    have each (item : Value) : (invoke f [item]).InOrder 2 2 := invoke_inOrder f [item]
    exact (InOrder.mapM each items).bind fun _ => newArray_inOrder _
  | object id entries =>
    have entry (item : String × Value) :
        (invoke f [item.2] >>= fun v => Routine.done (item.1, v)).InOrder 2 2 :=
      (invoke_inOrder f [item.2]).bind fun _ => Nat.le_refl 2
    exact (InOrder.mapM entry entries).bind fun _ => newObject_inOrder _
  | _ => exact newObject_inOrder []

theorem mergeBy_inOrder {greater : Value → Value → Routine Bool}
    (each : ∀ a b, (greater a b).InOrder lower lower) (xs ys : List Value) :
    (mergeBy greater xs ys).InOrder lower lower := by
  induction xs, ys using mergeBy.induct with
  | case1 ys =>
    rw [mergeBy]
    exact Nat.le_refl lower
  | case2 xs nonempty =>
    cases xs with
    | nil => exact absurd rfl nonempty
    | cons x xs =>
      rw [mergeBy]
      · exact Nat.le_refl lower
      · simp
  | case3 x xs y ys keep take =>
    rw [mergeBy]
    refine (each x y).bind fun after => ?_
    cases after with
    | true => exact keep.bind fun rest => Nat.le_refl lower
    | false => exact take.bind fun rest => Nat.le_refl lower

theorem sortWithin_inOrder {greater : Value → Value → Routine Bool}
    (each : ∀ a b, (greater a b).InOrder lower lower) (depth : Nat) (items : List Value) :
    (sortWithin greater depth items).InOrder lower lower := by
  induction depth generalizing items with
  | zero => exact Nat.le_refl lower
  | succ depth ih =>
    rw [sortWithin]
    split
    · exact Nat.le_refl lower
    · refine (ih _).bind fun left => ?_
      refine (ih _).bind fun right => ?_
      exact mergeBy_inOrder each left right

theorem sort_inOrder (call : Call) : (sort call).InOrder 0 call.size := by
  refine variadic_inOrder call fun values => ?_
  have compared (f a b : Value) : (comesAfter f a b).InOrder call.size call.size :=
    (invoke_inOrder f [a, b]).bind fun _ => Nat.le_refl call.size
  split
  · next items rest =>
    have sorted := sortWithin_inOrder (compared (rest.headD .undefined)) items.length items
    exact sorted.bind fun _ => newArray_inOrder _
  · exact Nat.le_refl call.size

theorem accepts_inOrder (f item : Value) : (accepts f item).InOrder lower lower := by
  cases f with
  | function id procedure => exact (invoke_inOrder _ [item]).bind fun _ => Nat.le_refl lower
  | _ => exact Nat.le_refl lower

theorem filterItems_inOrder (f : Value) (items : List Value) :
    (filterItems f items).InOrder lower lower := by
  induction items with
  | nil => exact Nat.le_refl lower
  | cons item rest ih =>
    refine (accepts_inOrder f item).bind fun keep => ?_
    exact ih.bind fun kept => Nat.le_refl lower

theorem firstAccepted_inOrder (f : Value) (items : List Value) :
    (firstAccepted f items).InOrder lower lower := by
  induction items with
  | nil => exact Nat.le_refl lower
  | cons item rest ih =>
    refine (invoke_inOrder f [item]).bind fun answer => ?_
    split
    · exact Nat.le_refl lower
    · exact ih

theorem filter_inOrder (call : Call) : (filter call).InOrder 0 call.size := by
  refine variadic_inOrder call fun values => ?_
  split
  · next source f rest =>
    cases source with
    | array id items => exact (filterItems_inOrder f items).bind fun _ => newArray_inOrder _
    | _ => exact Nat.le_refl call.size
  · exact newArray_inOrder values

theorem findOne_inOrder (call : Call) : (findOne call).InOrder 0 call.size := by
  refine variadic_inOrder call fun values => ?_
  split
  · next source f rest =>
    cases source with
    | array id items => exact firstAccepted_inOrder f items
    | _ => exact Nat.le_refl call.size
  · exact newArray_inOrder values

theorem foldItems_inOrder (values : List Value) : (foldItems values).InOrder lower lower := by
  unfold foldItems
  split
  · trivial
  · exact Nat.le_refl lower
  · exact Nat.le_refl lower
  · split
    · trivial
    · exact Nat.le_refl lower
  · exact Nat.le_refl lower

theorem fold_inOrder (call : Call) : (fold call).InOrder 0 call.size := by
  refine variadic_inOrder call fun values => ?_
  refine (foldItems_inOrder _).bind fun items => ?_
  exact .foldlM (fun result item => invoke_inOrder _ [result, item]) items _

theorem last_inOrder (call : Call) : (last call).InOrder 0 1 := by
  refine (argument_inOrder call 0).bind fun v => ?_
  cases v <;> exact Nat.le_refl 1

theorem refine_inOrder (call : Call) : (Library.refine call).InOrder 0 call.size :=
  variadic_inOrder call fun _ => newObject_inOrder _

theorem agrees_inOrder (comparator reference source : Value) (keys : List String) :
    (agrees comparator reference source keys).InOrder lower lower := by
  induction keys with
  | nil => exact Nat.le_refl lower
  | cons key keys ih =>
    rw [agrees]
    split
    · trivial
    · refine (invoke_inOrder comparator _).bind fun answer => ?_
      exact ih.bind fun rest => Nat.le_refl lower

theorem agreeAll_inOrder (comparator reference : Value) (sources : List Value) :
    (agreeAll comparator reference sources).InOrder lower lower := by
  induction sources with
  | nil => exact Nat.le_refl lower
  | cons source sources ih =>
    refine (agrees_inOrder comparator reference source _).bind fun first => ?_
    exact ih.bind fun rest => Nat.le_refl lower

theorem compare_inOrder (call : Call) : (compare call).InOrder 0 call.size := by
  refine variadic_inOrder call fun values => ?_
  exact (agreeAll_inOrder _ _ _).bind fun answer => Nat.le_refl call.size

theorem getValue_inOrder (call : Call) : (getValue call).InOrder 0 2 := by
  refine (argument_inOrder call 0).bind fun target => ?_
  refine (argument_inOrder call 1).bind fun key => ?_
  cases target <;> exact Nat.le_refl 2

/-! ### Texts -/

theorem toLowerCase_inOrder (call : Call) : (toLowerCase call).InOrder 0 1 := by
  refine (argument_inOrder call 0).bind fun v => ?_
  cases v <;> exact Nat.le_refl 1

theorem charAt_inOrder (call : Call) : (charAt call).InOrder 0 2 := by
  refine (argument_inOrder call 0).bind fun target => ?_
  refine (argumentOrUndefined_inOrder call 1).bind fun position => ?_
  cases target <;> exact Nat.le_refl 2

theorem join_inOrder (call : Call) : (join call).InOrder 0 call.size :=
  variadic_inOrder call fun _ => Nat.le_refl call.size

theorem format_inOrder (call : Call) : (format call).InOrder 0 call.size := by
  refine variadic_inOrder call fun values => ?_
  split
  · exact Nat.le_refl call.size
  · trivial
  · trivial

theorem hasItems_inOrder (target : Value) (items : List Value) :
    (hasItems target items).InOrder lower lower := by
  induction items with
  | nil => exact Nat.le_refl lower
  | cons item rest ih =>
    rw [hasItems]
    split
    · trivial
    · exact Nat.le_refl lower
    · exact ih

theorem contains_inOrder (call : Call) : (contains call).InOrder 0 call.size := by
  refine variadic_inOrder call fun values => ?_
  split
  · exact hasItems_inOrder _ _
  · split
    · exact Nat.le_refl call.size
    · exact hasItems_inOrder _ _
  · exact Nat.le_refl call.size

theorem sliceOf_inOrder (first last target : Value) :
    (sliceOf first last target).InOrder lower lower := by
  cases target with
  | string s => exact Nat.le_refl lower
  | array id items => exact newArray_inOrder _
  | _ => trivial

theorem slice_inOrder (call : Call) : (slice call).InOrder 0 3 := by
  refine (argument_inOrder call 0).bind fun a => ?_
  split
  · exact (sliceOf_inOrder _ _ a).mono (Nat.le_refl 1) (by omega)
  · refine (argument_inOrder call 1).bind fun b => ?_
    split
    · exact (sliceOf_inOrder a _ b).mono (Nat.le_refl 2) (by omega)
    · exact (argument_inOrder call 2).bind fun c => sliceOf_inOrder a b c

theorem length_inOrder (call : Call) : (length call).InOrder 0 1 := by
  refine (argument_inOrder call 0).bind fun v => ?_
  cases v with
  | function id procedure =>
    dsimp only
    cases procedure.arity? <;> exact Nat.le_refl 1
  | undefined | null => trivial
  | _ => exact Nat.le_refl 1

theorem concatFrom_inOrder (position count : Nat) (result : Value) :
    (concatFrom position result count).InOrder position (position + count) := by
  induction count generalizing position result with
  | zero => exact Nat.le_refl position
  | succ count ih =>
    rw [← Nat.add_assoc, Nat.add_right_comm]
    cases result with
    | string s => exact (ask_argument_inOrder position).bind fun v => ih (position + 1) _
    | array id items =>
      refine (ask_argument_inOrder position).bind fun v => ?_
      exact (newArray_inOrder _).bind fun longer => ih (position + 1) longer
    | _ => exact Nat.le_trans (Nat.le_succ position) (Nat.le_add_right _ count)

theorem concat_inOrder (call : Call) : (concat call).InOrder 0 (1 + (call.size - 1)) :=
  (argument_inOrder call 0).bind fun first => concatFrom_inOrder 1 _ first

/-! ### Dates and documents -/

theorem dateOrFail_inOrder (what : Value) (d : Option Bracket.Date) :
    (dateOrFail what d).InOrder lower lower := by
  cases d with
  | none => trivial
  | some d => exact Nat.le_refl lower

theorem date_inOrder (call : Call) : (date call).InOrder 0 (call.size + 1) := by
  unfold date
  split
  · exact ⟨trivial, fun _ => Nat.zero_le _⟩
  · split
    · refine (argument_inOrder call 0).bind fun v => ?_
      exact (dateOrFail_inOrder v _).mono (Nat.le_refl 1) (by omega)
    · refine (arguments_inOrder call).bind fun parts => ?_
      exact (dateOrFail_inOrder _ _).mono (Nat.le_refl _) (Nat.le_succ _)

theorem addDays_inOrder (call : Call) : (addDays call).InOrder 0 2 := by
  refine (argument_inOrder call 0).bind fun base => ?_
  cases base with
  | date d => exact (argument_inOrder call 1).bind fun days => dateOrFail_inOrder days _
  | _ => trivial

theorem toJson_inOrder (call : Call) : (toJson call).InOrder 0 1 := by
  refine (argument_inOrder call 0).bind fun v => ?_
  cases v.toJson <;> exact Nat.le_refl 1

theorem fromJson_inOrder (call : Call) : (fromJson call).InOrder 0 1 := by
  refine (argument_inOrder call 0).bind fun v => ?_
  rw [parseJson]
  cases Json.read v.text with
  | error e => trivial
  | ok json => exact ⟨trivial, fun _ => Nat.le_refl 1⟩

end Library

/-! ### Every function -/

theorem Builtin.routine_inOrder (b : Builtin) (call : Call) :
    ∃ upper, (b.routine call).InOrder 0 upper := by
  cases b with
  | toString => exact ⟨_, Library.unary_inOrder call _⟩
  | double => exact ⟨_, Library.unary_inOrder call _⟩
  | not => exact ⟨_, Library.unary_inOrder call _⟩
  | plus => exact ⟨_, Library.binary_inOrder call _⟩
  | minus | divide | times => exact ⟨_, Library.binary_inOrder call _⟩
  | greater | less | greaterEqual | lessEqual => exact ⟨_, Library.binary_inOrder call _⟩
  | looseEqual | strictEqual | looseUnequal | strictUnequal =>
    exact ⟨_, Library.binary_inOrder call _⟩
  | isNaN => exact ⟨_, Library.isNaN_inOrder call⟩
  | max | min => exact ⟨_, Library.extreme_inOrder _ call⟩
  | ternary => exact ⟨_, Library.ternary_inOrder call⟩
  | or | either | and => exact ⟨_, Library.search_inOrder _ call⟩
  | object => exact ⟨_, Library.object_inOrder call⟩
  | array => exact ⟨_, Library.array_inOrder call⟩
  | map => exact ⟨_, Library.map_inOrder call⟩
  | sort => exact ⟨_, Library.sort_inOrder call⟩
  | filter => exact ⟨_, Library.filter_inOrder call⟩
  | findOne => exact ⟨_, Library.findOne_inOrder call⟩
  | fold => exact ⟨_, Library.fold_inOrder call⟩
  | last => exact ⟨_, Library.last_inOrder call⟩
  | concat => exact ⟨_, Library.concat_inOrder call⟩
  | join => exact ⟨_, Library.join_inOrder call⟩
  | slice => exact ⟨_, Library.slice_inOrder call⟩
  | length => exact ⟨_, Library.length_inOrder call⟩
  | getValue => exact ⟨_, Library.getValue_inOrder call⟩
  | compare => exact ⟨_, Library.compare_inOrder call⟩
  | contains => exact ⟨_, Library.contains_inOrder call⟩
  | charAt => exact ⟨_, Library.charAt_inOrder call⟩
  | toLowerCase => exact ⟨_, Library.toLowerCase_inOrder call⟩
  | format => exact ⟨_, Library.format_inOrder call⟩
  | refine => exact ⟨_, Library.refine_inOrder call⟩
  | date => exact ⟨_, Library.date_inOrder call⟩
  | addDays => exact ⟨_, Library.addDays_inOrder call⟩
  | toJson => exact ⟨_, Library.toJson_inOrder call⟩
  | fromJson => exact ⟨_, Library.fromJson_inOrder call⟩
  | bind => exact ⟨_, Library.bind_inOrder call⟩
  | flip => exact ⟨_, Library.flip_inOrder call⟩
  | compose => exact ⟨_, Library.compose_inOrder call⟩
  | apply => exact ⟨_, Library.apply_inOrder call⟩

theorem Code.routine_inOrder (code : Code) (call : Call) :
    ∃ upper, (code.routine [] call).InOrder 0 upper := by
  cases code with
  | builtin b => exact b.routine_inOrder call
  | bound f values => exact ⟨_, Library.callBound_inOrder f values call⟩
  | flipped f values => exact ⟨_, Library.callFlipped_inOrder f values call⟩
  | chained functions => exact ⟨_, Library.callChained_inOrder functions call⟩
  | host index => exact ⟨0, Nat.le_refl 0⟩

/-- A parameter takes the argument at its own position. -/
theorem bindParameters_inOrder (call : Call) (scope : Scope) (position : Nat)
    (params : List String) :
    (bindParameters call scope position params).InOrder position (position + params.length) := by
  induction params generalizing position with
  | nil => exact Nat.le_refl position
  | cons param params ih =>
    refine (Routine.argumentOrUndefined_inOrder call position).bind fun v => ?_
    refine ⟨trivial, fun _ => ?_⟩
    have rest := ih (position + 1)
    rw [Nat.add_right_comm] at rest
    exact rest

theorem applyClosure_inOrder (params : List String) (body : Option Node) (env : Scope)
    (call : Call) : (applyClosure params body env call).InOrder 0 (0 + params.length) := by
  refine ⟨trivial, fun scope => ?_⟩
  refine (bindParameters_inOrder call scope 0 params).bind fun _ => ?_
  cases body with
  | none => exact Nat.le_refl _
  | some node => exact ⟨trivial, fun _ => Nat.le_refl _⟩

/-- Every function asks for its arguments from left to right, and for none of them twice. -/
theorem Procedure.routine_inOrder (self : Value) (procedure : Procedure) (call : Call) :
    ∃ upper, (procedure.routine [] self call).InOrder 0 upper := by
  cases procedure with
  | native name code properties => exact code.routine_inOrder call
  | closure params body env =>
    rw [Procedure.routine]
    split
    · exact ⟨0, Nat.le_refl 0⟩
    · exact ⟨_, applyClosure_inOrder params body env call⟩

end Bracket
