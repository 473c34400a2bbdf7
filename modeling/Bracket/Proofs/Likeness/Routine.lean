import Bracket.Proofs.Likeness.Value
import Bracket.Routine

/-!
Routines that go on alike: they ask for the same with alike values, and go on alike with whatever
alike values they are answered with. While a question is answered new values may come up on both
sides, so a routine goes on under a likeness that allows for more. Such a routine asks for nothing
but arguments, calls, new numbers and the time of day: it neither makes scopes nor looks into them.
-/

namespace Bracket

/-- The calls look the same to a routine: they have the same size and name. -/
structure Call.Like (call call' : Call) : Prop where
  size : call'.size = call.size
  calleeText : call'.calleeText = call.calleeText

theorem Call.Like.isEmpty {call call' : Call} (same : call.Like call') :
    call'.arguments.isEmpty = call.arguments.isEmpty := by
  have size : call'.arguments.length = call.arguments.length := same.size
  rw [Bool.eq_iff_iff, List.isEmpty_iff_length_eq_zero, List.isEmpty_iff_length_eq_zero, size]

namespace Routine

variable {α β γ δ : Type}

/-- What is related under a likeness is related under every one that allows for more. -/
def Persists (R : Likeness → α → β → Prop) : Prop :=
  ∀ {C C' : Likeness}, C ≤ C' → ∀ {a : α} {b : β}, R C a b → R C' a b

/-- The second routine goes on as the first does, their results being related by `R`. -/
inductive Alike (R : Likeness → α → β → Prop) : Likeness → Routine α → Routine β → Prop
  | done {C : Likeness} {a : α} {b : β} (related : R C a b) : Alike R C (.done a) (.done b)
  | fail {C : Likeness} (e : Error) : Alike R C (.fail e) (.fail e)
  | argument {C : Likeness} (position : Nat)
      {next : (Request.argument position).Answer → Routine α}
      {next' : (Request.argument position).Answer → Routine β}
      (later : ∀ C', C ≤ C' → ∀ v v' : Value, v.Like C' v' → Alike R C' (next v) (next' v')) :
      Alike R C (.ask (.argument position) next) (.ask (.argument position) next')
  | invoke {C : Likeness} {f f' : Value} {values values' : List Value}
      {next : (Request.invoke f values).Answer → Routine α}
      {next' : (Request.invoke f' values').Answer → Routine β} (function : f.Like C f')
      (arguments : Value.LikeAll C values values')
      (later : ∀ C', C ≤ C' → ∀ v v' : Value, v.Like C' v' → Alike R C' (next v) (next' v')) :
      Alike R C (.ask (.invoke f values) next) (.ask (.invoke f' values') next')
  | reserve {C : Likeness} (count : Nat) {next : (Request.reserve count).Answer → Routine α}
      {next' : (Request.reserve count).Answer → Routine β}
      (later : ∀ C', C ≤ C' → ∀ id id' : Nat, C'.Reserved count id id' →
        Alike R C' (next id) (next' id')) :
      Alike R C (.ask (.reserve count) next) (.ask (.reserve count) next')
  | now {C : Likeness} {next : Request.now.Answer → Routine α}
      {next' : Request.now.Answer → Routine β}
      (later : ∀ date : Date, Alike R C (next date) (next' date)) :
      Alike R C (.ask .now next) (.ask .now next')

namespace Alike

variable {C : Likeness} {R : Likeness → α → β → Prop} {S : Likeness → γ → δ → Prop}

theorem bind {r : Routine α} {r' : Routine β} {next : α → Routine γ} {next' : β → Routine δ}
    (first : r.Alike R C r')
    (rest : ∀ C', C ≤ C' → ∀ a b, R C' a b → (next a).Alike S C' (next' b)) :
    (r >>= next).Alike S C (r' >>= next') := by
  induction first with
  | done related => exact rest _ (Likeness.le_refl _) _ _ related
  | fail e => exact .fail e
  | argument position _ ih =>
    refine .argument position fun C' le v v' alike => ih C' le v v' alike ?_
    exact fun C'' more => rest C'' (Likeness.le_trans le more)
  | invoke function arguments _ ih =>
    refine .invoke function arguments fun C' le v v' alike => ih C' le v v' alike ?_
    exact fun C'' more => rest C'' (Likeness.le_trans le more)
  | reserve count _ ih =>
    refine .reserve count fun C' le id id' reserved => ih C' le id id' reserved ?_
    exact fun C'' more => rest C'' (Likeness.le_trans le more)
  | now _ ih => exact .now fun date => ih date rest

/-- Going over related lists. -/
theorem mapM {ι κ : Type} {T : Likeness → ι → κ → Prop} (results : Persists R)
    (items : Persists T) {act : ι → Routine α} {act' : κ → Routine β}
    (each : ∀ C', C ≤ C' → ∀ item item', T C' item item' → (act item).Alike R C' (act' item'))
    {xs : List ι} {ys : List κ} (alike : List.Forall₂ (T C) xs ys) :
    (xs.mapM act).Alike (fun C => List.Forall₂ (R C)) C (ys.mapM act') := by
  induction xs generalizing C ys with
  | nil =>
    cases alike
    exact .done .nil
  | cons item rest ih =>
    cases alike with
    | cons first others =>
      rw [List.mapM_cons, List.mapM_cons]
      refine (each C (Likeness.le_refl C) _ _ first).bind fun C₁ le a b head => ?_
      have more := ih (fun C' later => each C' (Likeness.le_trans le later))
        (others.imp fun _ _ => items le)
      exact more.bind fun C₂ le' as bs tail => .done (.cons (results le' head) tail)

theorem foldlM {ι κ : Type} {T : Likeness → ι → κ → Prop} (items : Persists T)
    {act : α → ι → Routine α} {act' : β → κ → Routine β}
    (each : ∀ C', C ≤ C' → ∀ a b, R C' a b → ∀ item item', T C' item item' →
      (act a item).Alike R C' (act' b item'))
    {xs : List ι} {ys : List κ} (alike : List.Forall₂ (T C) xs ys) {a : α} {b : β}
    (start : R C a b) : (xs.foldlM act a).Alike R C (ys.foldlM act' b) := by
  induction xs generalizing C ys a b with
  | nil =>
    cases alike
    exact .done start
  | cons item rest ih =>
    cases alike with
    | cons first others =>
      rw [List.foldlM_cons, List.foldlM_cons]
      refine (each C (Likeness.le_refl C) a b start _ _ first).bind fun C₁ le a b next => ?_
      exact ih (fun C' later => each C' (Likeness.le_trans le later))
        (others.imp fun _ _ => items le) next

end Alike

/-! ### Questions -/

variable {C : Likeness} {call call' : Call}

theorem ask_argument_alike (position : Nat) :
    (Routine.ask (.argument position) .done).Alike Value.Like C
      (.ask (.argument position) .done) :=
  .argument position fun _ _ _ _ => .done

theorem argument_alike (same : call.Like call') (position : Nat) :
    (argument call position).Alike Value.Like C (argument call' position) := by
  unfold argument
  rw [same.size, same.calleeText]
  split
  · exact ask_argument_alike position
  · exact .fail _

theorem argumentOrUndefined_alike (same : call.Like call') (position : Nat) :
    (argumentOrUndefined call position).Alike Value.Like C
      (argumentOrUndefined call' position) := by
  unfold argumentOrUndefined
  rw [same.size]
  split
  · exact ask_argument_alike position
  · exact .done .undefined

theorem argumentRange_alike (position count : Nat) :
    (argumentRange position count).Alike Value.LikeAll C (argumentRange position count) := by
  induction count generalizing C position with
  | zero => exact .done .nil
  | succ count ih =>
    refine (ask_argument_alike position).bind fun C₁ _ v v' first => ?_
    refine (ih (position + 1)).bind fun C₂ le rest rest' others => ?_
    exact .done (.cons (first.mono le) others)

theorem argumentsFrom_alike (same : call.Like call') (position : Nat) :
    (argumentsFrom call position).Alike Value.LikeAll C (argumentsFrom call' position) := by
  unfold argumentsFrom
  rw [same.size]
  exact argumentRange_alike position _

theorem arguments_alike (same : call.Like call') :
    (arguments call).Alike Value.LikeAll C (arguments call') :=
  argumentsFrom_alike same 0

theorem invoke_alike {f f' : Value} {values values' : List Value} (function : f.Like C f')
    (arguments : Value.LikeAll C values values') :
    (invoke f values).Alike Value.Like C (invoke f' values') :=
  .invoke function arguments fun _ _ _ _ => .done

theorem newArray_alike {items items' : List Value} (each : Value.LikeAll C items items') :
    (newArray items).Alike Value.Like C (newArray items') :=
  .reserve 1 fun _ le _ _ reserved => .done (.array reserved.head (Value.LikeAll.mono le each))

theorem newObject_alike {entries entries' : Table Value} (alike : Table.Like C entries entries') :
    (newObject entries).Alike Value.Like C (newObject entries') :=
  .reserve 1 fun _ le _ _ reserved => .done (.object reserved.head (Table.Like.mono le alike))

theorem newFunction_alike {procedure procedure' : Procedure} (alike : procedure.Like C procedure') :
    (newFunction procedure).Alike Value.Like C (newFunction procedure') :=
  .reserve 1 fun _ le _ _ reserved => .done (.function reserved.head (alike.mono le))

end Routine

end Bracket
