import Bracket.Proofs.Likeness.Routine
import Bracket.Proofs.Renaming.Value

/-!
Routines that go on in the same way when the levels of the store are renamed: they ask for the same
with renamed values, and go on alike when they are answered with renamed values. Such a routine
writes only to scopes whose level no other level is renamed to.
-/

namespace Bracket

/-- Other numbers for the levels of the store. From `base` up to `bound` lie the levels that may be
written to; no two levels are renamed to the same one there. -/
structure Renaming where
  level : Nat → Nat
  base : Nat
  bound : Nat
  exclusive : ∀ {l m : Nat}, base ≤ l → l < bound → level m = level l → m = l

namespace Renaming

variable (ρ : Renaming)

/-- The scope may be written to. -/
def Writable (scope : Scope) : Prop := ρ.base ≤ scope.level ∧ scope.level < ρ.bound

abbrev scope : Scope → Scope := Scope.rename ρ.level

abbrev node : Node → Node := Node.rename ρ.level

abbrev value : Value → Value := Value.rename ρ.level

end Renaming

def Argument.rename (ρ : Renaming) : Argument → Argument
  | .node n => .node (ρ.node n)
  | .value v => .value (ρ.value v)

/-- The call with every level renamed that it holds. -/
def Call.rename (ρ : Renaming) (call : Call) : Call :=
  ⟨ρ.scope call.scope, call.arguments.map (Argument.rename ρ), call.callee.map ρ.node⟩

namespace Call

variable {ρ : Renaming}

theorem like_rename (call : Call) : call.Like (call.rename ρ) where
  size := by simp [rename, size]
  calleeText := by
    unfold calleeText
    cases callee : call.callee with
    | none => simp [rename, callee]
    | some node => simp [rename, callee]

end Call

namespace Routine

variable {α β γ δ : Type} {ρ : Renaming}

/-- The second routine goes on as the first does, its results being those of the first under `f`. -/
inductive Renames (ρ : Renaming) (f : α → β) : Routine α → Routine β → Prop
  | done (a : α) : Renames ρ f (.done a) (.done (f a))
  | fail (e : Error) : Renames ρ f (.fail e) (.fail e)
  | argument (position : Nat) {next : (Request.argument position).Answer → Routine α}
      {next' : (Request.argument position).Answer → Routine β}
      (later : ∀ v : Value, Renames ρ f (next v) (next' (ρ.value v))) :
      Renames ρ f (.ask (.argument position) next) (.ask (.argument position) next')
  | invoke (g : Value) (values : List Value) {next : (Request.invoke g values).Answer → Routine α}
      {next' : (Request.invoke (ρ.value g) (values.map ρ.value)).Answer → Routine β}
      (later : ∀ v : Value, Renames ρ f (next v) (next' (ρ.value v))) :
      Renames ρ f (.ask (.invoke g values) next)
        (.ask (.invoke (ρ.value g) (values.map ρ.value)) next')
  | evaluate (n : Node) (scope : Scope) {next : (Request.evaluate n scope).Answer → Routine α}
      {next' : (Request.evaluate (ρ.node n) (ρ.scope scope)).Answer → Routine β}
      (later : ∀ v : Value, Renames ρ f (next v) (next' (ρ.value v))) :
      Renames ρ f (.ask (.evaluate n scope) next)
        (.ask (.evaluate (ρ.node n) (ρ.scope scope)) next')
  | reserve (count : Nat) {next : (Request.reserve count).Answer → Routine α}
      {next' : (Request.reserve count).Answer → Routine β}
      (later : ∀ id : Nat, Renames ρ f (next id) (next' id)) :
      Renames ρ f (.ask (.reserve count) next) (.ask (.reserve count) next')
  | now {next : Request.now.Answer → Routine α} {next' : Request.now.Answer → Routine β}
      (later : ∀ date : Date, Renames ρ f (next date) (next' date)) :
      Renames ρ f (.ask .now next) (.ask .now next')
  | nested (outer : Scope) {next : (Request.nested outer).Answer → Routine α}
      {next' : (Request.nested (ρ.scope outer)).Answer → Routine β}
      (later : ∀ scope : Scope, ρ.Writable scope →
        Renames ρ f (next scope) (next' (ρ.scope scope))) :
      Renames ρ f (.ask (.nested outer) next) (.ask (.nested (ρ.scope outer)) next')
  | assign (scope : Scope) (name : String) (v : Value)
      {next : (Request.assign scope name v).Answer → Routine α}
      {next' : (Request.assign (ρ.scope scope) name (ρ.value v)).Answer → Routine β}
      (writable : ρ.Writable scope) (later : Renames ρ f (next ()) (next' ())) :
      Renames ρ f (.ask (.assign scope name v) next)
        (.ask (.assign (ρ.scope scope) name (ρ.value v)) next')
  | lookup (scope : Scope) (name : String) {next : (Request.lookup scope name).Answer → Routine α}
      {next' : (Request.lookup (ρ.scope scope) name).Answer → Routine β}
      (later : ∀ found : Option Value, Renames ρ f (next found) (next' (found.map ρ.value))) :
      Renames ρ f (.ask (.lookup scope name) next) (.ask (.lookup (ρ.scope scope) name) next')

/-- Native code that goes on in the same way for renamed calls, given a scope to write to. -/
def Respects (ρ : Renaming) (native : Call → Routine Value) : Prop :=
  ∀ call, ρ.Writable call.scope → (native call).Renames ρ ρ.value (native (call.rename ρ))

namespace Renames

variable {f : α → β} {g : γ → δ}

theorem bind {r : Routine α} {r' : Routine β} {next : α → Routine γ} {next' : β → Routine δ}
    (first : r.Renames ρ f r') (rest : ∀ a, (next a).Renames ρ g (next' (f a))) :
    (r >>= next).Renames ρ g (r' >>= next') := by
  induction first with
  | done a => exact rest a
  | fail e => exact .fail e
  | argument position _ ih => exact .argument position ih
  | invoke h values _ ih => exact .invoke h values ih
  | evaluate n scope _ ih => exact .evaluate n scope ih
  | reserve count _ ih => exact .reserve count ih
  | now _ ih => exact .now ih
  | nested outer _ ih => exact .nested outer ih
  | assign scope name v writable _ ih => exact .assign scope name v writable ih
  | lookup scope name _ ih => exact .lookup scope name ih

/-- Routines that go on alike for renamed values go on in the same way under the renaming. -/
theorem of_alike {R : Likeness → α → β → Prop} {C : Likeness} {r : Routine α} {r' : Routine β}
    (alike : r.Alike R C r') (renamed : C = .renaming ρ.level)
    (results : ∀ a b, R (.renaming ρ.level) a b → b = f a) : r.Renames ρ f r' := by
  induction alike with
  | done related =>
    subst renamed
    obtain rfl := results _ _ related
    exact .done _
  | fail e => exact .fail e
  | argument position _ ih =>
    subst renamed
    exact .argument position fun v => ih _ (Likeness.le_refl _) v _ v.like_rename rfl
  | invoke function arguments _ ih =>
    subst renamed
    obtain rfl := function.eq_rename
    obtain rfl := (Value.LikeAll.eq_rename arguments).trans (Value.renameItems_eq_map _)
    exact .invoke _ _ fun v => ih _ (Likeness.le_refl _) v _ v.like_rename rfl
  | reserve count _ ih =>
    subst renamed
    exact .reserve count fun id => ih _ (Likeness.le_refl _) id id (fun _ _ => rfl) rfl
  | now _ ih => exact .now fun date => ih date renamed

end Renames

/-- A routine that goes on alike for renamed calls and values. -/
theorem renames_of_alike {r r' : Routine Value}
    (alike : r.Alike Value.Like (.renaming ρ.level) r') : r.Renames ρ ρ.value r' :=
  .of_alike alike rfl fun _ _ alike => alike.eq_rename

theorem argument_renames (call : Call) (position : Nat) :
    (argument call position).Renames ρ ρ.value (argument (call.rename ρ) position) :=
  renames_of_alike (argument_alike call.like_rename position)

theorem argumentOrUndefined_renames (call : Call) (position : Nat) :
    (argumentOrUndefined call position).Renames ρ ρ.value
      (argumentOrUndefined (call.rename ρ) position) :=
  renames_of_alike (argumentOrUndefined_alike call.like_rename position)

end Routine

end Bracket
