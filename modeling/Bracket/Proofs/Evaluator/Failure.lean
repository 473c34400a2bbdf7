import Bracket.Library.Standard

/-!
The errors that functions of the library end in by themselves: an argument is missing, a value has
the wrong kind, or a text is no document. All other errors belong to the lexicon, the parser and the
evaluator. Main statement: native code of the library fails with one of these three alone.
-/

namespace Bracket

/-- The error is about the arguments of a function: their number, their kinds, or the document that
one of them should be. -/
def Error.IsOfArguments : Error → Prop
  | .arity _ _ | .type _ | .json _ _ _ => True
  | _ => False

namespace Routine

variable {α β : Type}

/-- Every error that the routine ends in by itself is about the arguments. -/
def FailsByArguments : Routine α → Prop
  | .done _ => True
  | .fail e => e.IsOfArguments
  | .ask _ next => ∀ a, FailsByArguments (next a)

namespace FailsByArguments

theorem bind {r : Routine α} {f : α → Routine β} (first : r.FailsByArguments)
    (rest : ∀ a, (f a).FailsByArguments) : (r >>= f).FailsByArguments := by
  induction r with
  | done a => exact rest a
  | fail e => exact first
  | ask request next ih => exact fun a => ih a (first a)

theorem mapM {ι : Type} {act : ι → Routine α} (each : ∀ item, (act item).FailsByArguments)
    (items : List ι) : (items.mapM act).FailsByArguments := by
  induction items with
  | nil => trivial
  | cons item rest ih =>
    rw [List.mapM_cons]
    exact (each item).bind fun a => ih.bind fun as => trivial

theorem foldlM {ι : Type} {act : α → ι → Routine α}
    (each : ∀ a item, (act a item).FailsByArguments) (items : List ι) (start : α) :
    (items.foldlM act start).FailsByArguments := by
  induction items generalizing start with
  | nil => trivial
  | cons item rest ih =>
    rw [List.foldlM_cons]
    exact (each start item).bind ih

end FailsByArguments

/-! ### Questions -/

theorem argument_fails (call : Call) (position : Nat) :
    (argument call position).FailsByArguments := by
  unfold argument
  split
  · exact fun _ => trivial
  · trivial

theorem argumentOrUndefined_fails (call : Call) (position : Nat) :
    (argumentOrUndefined call position).FailsByArguments := by
  unfold argumentOrUndefined
  split
  · exact fun _ => trivial
  · trivial

theorem argumentRange_fails (position count : Nat) :
    (argumentRange position count).FailsByArguments := by
  induction count generalizing position with
  | zero => trivial
  | succ count ih => exact fun _ => (ih (position + 1)).bind fun _ => trivial

theorem arguments_fails (call : Call) : (arguments call).FailsByArguments :=
  argumentRange_fails 0 _

theorem invoke_fails (f : Value) (values : List Value) : (invoke f values).FailsByArguments :=
  fun _ => trivial

theorem newArray_fails (items : List Value) : (newArray items).FailsByArguments :=
  fun _ => trivial

theorem newObject_fails (entries : Table Value) : (newObject entries).FailsByArguments :=
  fun _ => trivial

end Routine

namespace Library

open Routine

/-- A function that asks for one argument first. -/
theorem unary_fails {α : Type} (call : Call) {rest : Value → Routine α}
    (later : ∀ v, (rest v).FailsByArguments) :
    (argument call 0 >>= rest).FailsByArguments :=
  (argument_fails call 0).bind later

/-- A function that asks for two arguments first. -/
theorem binary_fails {α : Type} (call : Call) {rest : Value → Value → Routine α}
    (later : ∀ a b, (rest a b).FailsByArguments) :
    (argument call 0 >>= fun a => argument call 1 >>= rest a).FailsByArguments :=
  unary_fails call fun a => (argument_fails call 1).bind (later a)

/-- A function that asks for all arguments first. -/
theorem variadic_fails {α : Type} (call : Call) {rest : List Value → Routine α}
    (later : ∀ values, (rest values).FailsByArguments) :
    (arguments call >>= rest).FailsByArguments :=
  (arguments_fails call).bind later

/-! ### Arguments in a loop -/

theorem extremeFrom_fails (pick : Number → Number → Number) (position count : Nat)
    (best : Value) : (extremeFrom pick position best count).FailsByArguments := by
  induction count generalizing position best with
  | zero => trivial
  | succ count ih => exact fun _ => ih (position + 1) _

theorem searchFrom_fails (stop : Value → Option Value) (position count : Nat) (last : Value) :
    (searchFrom stop position last count).FailsByArguments := by
  induction count generalizing position last with
  | zero => trivial
  | succ count ih =>
    intro v
    dsimp only [Routine.bind, bind]
    cases stop v with
    | some result => trivial
    | none => exact ih (position + 1) v

theorem entriesFrom_fails (call : Call) : (position : Nat) → (entries : Table Value) →
    (count : Nat) → (entriesFrom call position entries count).FailsByArguments
  | _, _, 0 => trivial
  | position, _, 1 =>
    (argument_fails call position).bind fun _ =>
      (argument_fails call (position + 1)).bind fun _ => trivial
  | position, _, count + 2 =>
    (argument_fails call position).bind fun _ =>
      (argument_fails call (position + 1)).bind fun _ => entriesFrom_fails call _ _ count

theorem concatFrom_fails (position count : Nat) (result : Value) :
    (concatFrom position result count).FailsByArguments := by
  induction count generalizing position result with
  | zero => trivial
  | succ count ih =>
    cases result with
    | string s => exact fun _ => ih (position + 1) _
    | array id items =>
      exact fun _ => (newArray_fails _).bind fun longer => ih (position + 1) longer
    | _ => trivial

/-! ### Arrays and objects -/

theorem map_fails (call : Call) : (map call).FailsByArguments := by
  refine binary_fails call fun source f => ?_
  cases source with
  | array id items =>
    exact (FailsByArguments.mapM (fun item => invoke_fails f [item]) items).bind
      fun _ => newArray_fails _
  | object id entries =>
    have entry (item : String × Value) :
        (invoke f [item.2] >>= fun v => Routine.done (item.1, v)).FailsByArguments :=
      (invoke_fails f [item.2]).bind fun _ => trivial
    exact (FailsByArguments.mapM entry entries).bind fun _ => newObject_fails _
  | _ => exact newObject_fails []

theorem mergeBy_fails {greater : Value → Value → Routine Bool}
    (each : ∀ a b, (greater a b).FailsByArguments) (xs ys : List Value) :
    (mergeBy greater xs ys).FailsByArguments := by
  induction xs, ys using mergeBy.induct with
  | case1 ys =>
    rw [mergeBy]
    trivial
  | case2 xs nonempty =>
    cases xs with
    | nil => exact absurd rfl nonempty
    | cons x xs =>
      rw [mergeBy]
      · trivial
      · simp
  | case3 x xs y ys keep take =>
    rw [mergeBy]
    refine (each x y).bind fun after => ?_
    cases after with
    | true => exact keep.bind fun rest => trivial
    | false => exact take.bind fun rest => trivial

theorem sortWithin_fails {greater : Value → Value → Routine Bool}
    (each : ∀ a b, (greater a b).FailsByArguments) (depth : Nat) (items : List Value) :
    (sortWithin greater depth items).FailsByArguments := by
  induction depth generalizing items with
  | zero => trivial
  | succ depth ih =>
    rw [sortWithin]
    split
    · trivial
    · exact (ih _).bind fun left => (ih _).bind fun right => mergeBy_fails each left right

theorem sort_fails (call : Call) : (sort call).FailsByArguments := by
  refine variadic_fails call fun values => ?_
  have compared (f a b : Value) : (comesAfter f a b).FailsByArguments :=
    (invoke_fails f [a, b]).bind fun _ => trivial
  split
  · next items rest =>
    exact (sortWithin_fails (compared _) items.length items).bind fun _ => newArray_fails _
  · trivial

theorem accepts_fails (f item : Value) : (accepts f item).FailsByArguments := by
  cases f with
  | function id procedure => exact (invoke_fails _ [item]).bind fun _ => trivial
  | _ => trivial

theorem filterItems_fails (f : Value) (items : List Value) :
    (filterItems f items).FailsByArguments := by
  induction items with
  | nil => trivial
  | cons item rest ih => exact (accepts_fails f item).bind fun _ => ih.bind fun _ => trivial

theorem filter_fails (call : Call) : (filter call).FailsByArguments := by
  refine variadic_fails call fun values => ?_
  split
  · next source f rest =>
    cases source with
    | array id items => exact (filterItems_fails f items).bind fun _ => newArray_fails _
    | _ => trivial
  · exact newArray_fails values

theorem firstAccepted_fails (f : Value) (items : List Value) :
    (firstAccepted f items).FailsByArguments := by
  induction items with
  | nil => trivial
  | cons item rest ih =>
    refine (invoke_fails f [item]).bind fun answer => ?_
    split
    · trivial
    · exact ih

theorem findOne_fails (call : Call) : (findOne call).FailsByArguments := by
  refine variadic_fails call fun values => ?_
  split
  · next source f rest =>
    cases source with
    | array id items => exact firstAccepted_fails f items
    | _ => trivial
  · exact newArray_fails values

theorem foldItems_fails (values : List Value) : (foldItems values).FailsByArguments := by
  unfold foldItems
  split
  · trivial
  · trivial
  · trivial
  · split <;> trivial
  · trivial

theorem fold_fails (call : Call) : (fold call).FailsByArguments := by
  refine variadic_fails call fun values => (foldItems_fails _).bind fun items => ?_
  exact .foldlM (fun result item => invoke_fails _ [result, item]) items _

theorem last_fails (call : Call) : (last call).FailsByArguments := by
  refine unary_fails call fun v => ?_
  cases v <;> trivial

theorem agrees_fails (comparator reference source : Value) (keys : List String) :
    (agrees comparator reference source keys).FailsByArguments := by
  induction keys with
  | nil => trivial
  | cons key keys ih =>
    rw [agrees]
    split
    · trivial
    · exact (invoke_fails comparator _).bind fun _ => ih.bind fun _ => trivial

theorem agreeAll_fails (comparator reference : Value) (sources : List Value) :
    (agreeAll comparator reference sources).FailsByArguments := by
  induction sources with
  | nil => trivial
  | cons source sources ih =>
    exact (agrees_fails comparator reference source _).bind fun _ => ih.bind fun _ => trivial

theorem getValue_fails (call : Call) : (getValue call).FailsByArguments := by
  refine binary_fails call fun target key => ?_
  cases target <;> trivial

/-! ### Texts, dates and documents -/

theorem ternary_fails (call : Call) : (ternary call).FailsByArguments := by
  refine unary_fails call fun condition => ?_
  split
  · exact argument_fails call 1
  · exact argumentOrUndefined_fails call 2

theorem toLowerCase_fails (call : Call) : (toLowerCase call).FailsByArguments := by
  refine unary_fails call fun v => ?_
  cases v <;> trivial

theorem charAt_fails (call : Call) : (charAt call).FailsByArguments := by
  refine unary_fails call fun target => (argumentOrUndefined_fails call 1).bind fun position => ?_
  cases target <;> trivial

theorem format_fails (call : Call) : (format call).FailsByArguments := by
  refine variadic_fails call fun values => ?_
  split <;> trivial

theorem hasItems_fails (target : Value) (items : List Value) :
    (hasItems target items).FailsByArguments := by
  induction items with
  | nil => trivial
  | cons item rest ih =>
    rw [hasItems]
    split
    · trivial
    · trivial
    · exact ih

theorem contains_fails (call : Call) : (contains call).FailsByArguments := by
  refine variadic_fails call fun values => ?_
  split
  · exact hasItems_fails _ _
  · split
    · trivial
    · exact hasItems_fails _ _
  · trivial

theorem sliceOf_fails (first last target : Value) :
    (sliceOf first last target).FailsByArguments := by
  cases target with
  | array id items => exact newArray_fails _
  | _ => trivial

theorem slice_fails (call : Call) : (slice call).FailsByArguments := by
  refine unary_fails call fun a => ?_
  split
  · exact sliceOf_fails _ _ a
  · refine (argument_fails call 1).bind fun b => ?_
    split
    · exact sliceOf_fails a _ b
    · exact (argument_fails call 2).bind fun c => sliceOf_fails a b c

theorem length_fails (call : Call) : (length call).FailsByArguments := by
  refine unary_fails call fun v => ?_
  cases v with
  | function id procedure =>
    dsimp only
    cases procedure.arity? <;> trivial
  | _ => trivial

theorem dateOrFail_fails (what : Value) (d : Option Bracket.Date) :
    (dateOrFail what d).FailsByArguments := by
  cases d <;> trivial

theorem date_fails (call : Call) : (date call).FailsByArguments := by
  unfold date
  split
  · exact fun _ => trivial
  · split
    · exact unary_fails call fun v => dateOrFail_fails v _
    · exact variadic_fails call fun parts => dateOrFail_fails _ _

theorem addDays_fails (call : Call) : (addDays call).FailsByArguments := by
  refine unary_fails call fun base => ?_
  cases base with
  | date d => exact (argument_fails call 1).bind fun days => dateOrFail_fails days _
  | _ => trivial

theorem toJson_fails (call : Call) : (toJson call).FailsByArguments := by
  refine unary_fails call fun v => ?_
  cases v.toJson <;> trivial

theorem parseJson_fails (text : String) : (parseJson text).FailsByArguments := by
  rw [parseJson, Json.read]
  cases Json.readAll text.toList with
  | error e => trivial
  | ok json => exact fun _ => trivial

/-! ### Functions made from functions -/

theorem apply_fails (call : Call) : (apply call).FailsByArguments := by
  refine binary_fails call fun f items => ?_
  cases items with
  | array id items => exact invoke_fails f items
  | _ => trivial

theorem callChained_fails (functions : List Value) (call : Call) :
    (callChained functions call).FailsByArguments := by
  refine variadic_fails call fun values => (invoke_fails _ values).bind fun first => ?_
  exact .foldlM (fun result f => invoke_fails f [result]) _ first

end Library

theorem Builtin.routine_fails (b : Builtin) (call : Call) :
    (b.routine call).FailsByArguments := by
  cases b with
  | toString | double | not => exact Library.unary_fails call fun _ => trivial
  | plus | minus | divide | times | greater | less | greaterEqual | lessEqual | looseEqual
  | strictEqual | looseUnequal | strictUnequal =>
    exact Library.binary_fails call fun _ _ => trivial
  | isNaN => exact (Routine.argumentOrUndefined_fails call 0).bind fun _ => trivial
  | max | min => exact Library.unary_fails call fun first => Library.extremeFrom_fails _ 1 _ first
  | ternary => exact Library.ternary_fails call
  | or | either | and => exact Library.searchFrom_fails _ 0 call.size .undefined
  | object =>
    exact (Library.entriesFrom_fails call 0 [] call.size).bind fun _ => Routine.newObject_fails _
  | array => exact Library.variadic_fails call fun _ => Routine.newArray_fails _
  | map => exact Library.map_fails call
  | sort => exact Library.sort_fails call
  | filter => exact Library.filter_fails call
  | findOne => exact Library.findOne_fails call
  | fold => exact Library.fold_fails call
  | last => exact Library.last_fails call
  | concat => exact Library.unary_fails call fun first => Library.concatFrom_fails 1 _ first
  | join => exact Library.variadic_fails call fun _ => trivial
  | slice => exact Library.slice_fails call
  | length => exact Library.length_fails call
  | getValue => exact Library.getValue_fails call
  | compare =>
    exact Library.variadic_fails call fun _ =>
      (Library.agreeAll_fails _ _ _).bind fun _ => trivial
  | contains => exact Library.contains_fails call
  | charAt => exact Library.charAt_fails call
  | toLowerCase => exact Library.toLowerCase_fails call
  | format => exact Library.format_fails call
  | refine => exact Library.variadic_fails call fun _ => Routine.newObject_fails _
  | date => exact Library.date_fails call
  | addDays => exact Library.addDays_fails call
  | toJson => exact Library.toJson_fails call
  | fromJson => exact Library.unary_fails call fun v => Library.parseJson_fails v.text
  | bind | flip | compose => exact Library.variadic_fails call fun _ _ => trivial
  | apply => exact Library.apply_fails call

/-- With the standard library alone, native code fails by itself for its arguments only. -/
theorem Code.routine_fails (code : Code) (call : Call) :
    (code.routine [] call).FailsByArguments := by
  cases code with
  | builtin b => exact b.routine_fails call
  | bound f values | flipped f values =>
    exact Library.variadic_fails call fun _ => Routine.invoke_fails f _
  | chained functions => exact Library.callChained_fails functions call
  | host index => trivial

end Bracket
