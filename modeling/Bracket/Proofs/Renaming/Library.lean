import Bracket.Proofs.Likeness.Library
import Bracket.Proofs.Renaming.Routine

/-!
The library under renamings. Main statement: every function of the library goes on in the same way
when the levels of the store are renamed, and so does every closure.
-/

namespace Bracket

open Routine

variable {ρ : Renaming}

theorem Builtin.routine_renames (b : Builtin) (call : Call) :
    (b.routine call).Renames ρ ρ.value (b.routine (call.rename ρ)) :=
  renames_of_alike (b.routine_alike call.like_rename)

/-- Native code goes on in the same way if the functions of the host do. -/
theorem Code.routine_renames {hosts : List HostFunction} (respect : ∀ f ∈ hosts, Respects ρ f)
    (code : Code) (call : Call) (writable : ρ.Writable call.scope) :
    (code.routine hosts call).Renames ρ ρ.value
      ((code.rename ρ.level).routine hosts (call.rename ρ)) := by
  have alike := code.like_rename (ρ := ρ.level)
  cases code with
  | builtin b => exact b.routine_renames call
  | bound f values =>
    cases alike with
    | bound function each =>
      exact renames_of_alike (Library.callBound_alike function each call.like_rename)
  | flipped f values =>
    cases alike with
    | flipped function each =>
      exact renames_of_alike (Library.callFlipped_alike function each call.like_rename)
  | chained functions =>
    cases alike with
    | chained each => exact renames_of_alike (Library.callChained_alike each call.like_rename)
  | host index =>
    simp only [Code.rename, Code.routine]
    cases registered : hosts[index]? with
    | none => exact .done Value.undefined
    | some f => exact respect f (List.mem_of_getElem? registered) call writable

theorem bindParameters_renames (call : Call) {scope : Scope} (writable : ρ.Writable scope)
    (position : Nat) (params : List String) :
    (bindParameters call scope position params).Renames ρ id
      (bindParameters (call.rename ρ) (ρ.scope scope) position params) := by
  induction params generalizing position with
  | nil => exact .done ()
  | cons param params ih =>
    refine (argumentOrUndefined_renames call position).bind fun v => ?_
    exact .assign scope param v writable (ih (position + 1))

theorem applyClosure_renames (params : List String) (body : Option Node) (env : Scope)
    (call : Call) :
    (applyClosure params body env call).Renames ρ ρ.value
      (applyClosure params (body.map ρ.node) (ρ.scope env) (call.rename ρ)) := by
  refine .nested env fun scope writable => ?_
  refine (bindParameters_renames call writable 0 params).bind fun _ => ?_
  cases body with
  | none => exact .done Value.undefined
  | some node => exact .evaluate node scope .done

/-- A function goes on in the same way if the functions of the host do. -/
theorem Procedure.routine_renames {hosts : List HostFunction}
    (respect : ∀ f ∈ hosts, Respects ρ f) (self : Value) (procedure : Procedure) (call : Call)
    (writable : ρ.Writable call.scope) :
    (procedure.routine hosts self call).Renames ρ ρ.value
      ((procedure.rename ρ.level).routine hosts (ρ.value self) (call.rename ρ)) := by
  cases procedure with
  | native name code properties => exact code.routine_renames respect call writable
  | closure params body env =>
    rw [Procedure.rename_closure, Procedure.routine, Procedure.routine]
    have empty : (call.rename ρ).arguments.isEmpty = call.arguments.isEmpty := by
      simp [Call.rename]
    rw [empty]
    split
    · exact .done self
    · exact applyClosure_renames params body env call

end Bracket
