import Bracket.Proofs.Evaluator.Values
import Bracket.Proofs.Parallel.Chain

/-!
Evaluations that are decided beforehand, and compositions. An evaluation is decided if it is known
when it goes well, given enough fuel and room, and what holds of its result. What is decided can be
put together: one part after the other, item by item over a list, one level deeper.
Main statement: a function that is composed of others is decided by what these do one after the
other.
-/

namespace Bracket

namespace Parallel

open Evaluator

variable {α β γ : Type} {limit fuel : Nat} {now : Date} {s : State}

/-! ### Evaluations that are decided -/

/-- Given enough fuel and room the evaluation goes well if `P` holds; it leaves what was there, and
has no result but one for which `Q` holds. -/
structure Decides (limit : Nat) (s : State) (P : Prop) (Q : Store → β → Prop)
    (x : Except Stop β × State) : Prop where
  more : s.store.ExtendsTo x.2.store
  result : ∀ b, x.1 = .ok b → Q x.2.store b
  goes : P → Ends limit x → ∃ b, x.1 = .ok b

namespace Decides

variable {P P' : Prop} {Q Q' : Store → β → Prop} {R : Store → γ → Prop}

theorem ok {b : β} (holds : Q s.store b) : Decides limit s P Q (.ok b, s) where
  more := .refl _
  result := by
    rintro b ⟨⟩
    exact holds
  goes _ _ := ⟨b, rfl⟩

theorem outOfFuel : Decides limit s P Q (.error .outOfFuel, s) where
  more := .refl _
  result := nofun
  goes _ ends := absurd rfl ends.fuel

theorem tooDeep : Decides limit s P Q (.error (.error (.tooDeep limit)), s) where
  more := .refl _
  result := nofun
  goes _ ends := absurd rfl ends.room

theorem imp {x : Except Stop β × State} (decides : Decides limit s P Q x) (condition : P' → P)
    (weaker : ∀ st b, Q st b → Q' st b) : Decides limit s P' Q' x where
  more := decides.more
  result b same := weaker _ b (decides.result b same)
  goes holds := decides.goes (condition holds)

/-- What comes after a part relies on its result, and on all that was there. -/
theorem bind {x : Eval β} {f : β → Eval γ} (first : Decides limit s P Q (x s))
    (rest : ∀ b after, s.store.ExtendsTo after.store → Q after.store b →
      Decides limit after P R (f b after)) : Decides limit s P R ((x >>= f) s) := by
  rw [bind_apply]
  obtain ⟨more, result, goes⟩ := first
  revert more result goes
  generalize x s = outcome
  obtain ⟨result | b, after⟩ := outcome
  · intro more _ goes
    refine ⟨more, nofun, fun holds ends => ?_⟩
    obtain ⟨b, same⟩ := goes holds ⟨fun same => ends.fuel (congrArg _ (Except.error.inj same)),
      fun same => ends.room (congrArg _ (Except.error.inj same))⟩
    cases same
  · intro more result _
    have later := rest b after more (result b rfl)
    exact ⟨more.trans later.more, later.result, later.goes⟩

theorem withStore {g : Store → β × Store} (more : s.store.ExtendsTo (g s.store).2)
    (holds : Q (g s.store).2 (g s.store).1) : Decides limit s P Q (Evaluator.withStore g s) where
  more := more
  result := by
    rintro b ⟨⟩
    exact holds
  goes _ _ := ⟨_, rfl⟩

/-- One level deeper. -/
theorem deeper {x : Eval β} (decides : Decides limit { s with depth := s.depth + 1 } P Q
      (x { s with depth := s.depth + 1 })) :
    Decides limit s P Q (Evaluator.deeper limit x s) := by
  rw [Evaluator.deeper]
  split
  · exact .tooDeep
  · exact ⟨decides.more, decides.result,
      fun holds ends => decides.goes holds ⟨ends.fuel, ends.room⟩⟩

end Decides

/-! ### Routines -/

section Routines

variable {evaluate : Task → Eval Value} {setting : Setting} {call : Call} {ι κ : Type}

/-- Going over a list is decided item by item, if what is known of an item stays so while others
are gone over. -/
theorem run_mapM_decides {P : ι → Prop} {R : ι → Store → κ → Prop} {Q : ι → Store → β → Prop}
    {act : κ → Routine β} (stays : ∀ i {st st'} k, st.ExtendsTo st' → R i st k → R i st' k)
    (stays' : ∀ i {st st'} b, st.ExtendsTo st' → Q i st b → Q i st' b)
    (each : ∀ i k s, R i s.store k →
      Decides limit s (P i) (Q i) (run setting evaluate call (act k) s))
    {is : List ι} {ks : List κ} (given : List.Forall₂ (fun i k => R i s.store k) is ks) :
    Decides limit s (∀ i ∈ is, P i) (fun st bs => List.Forall₂ (fun i b => Q i st b) is bs)
      (run setting evaluate call (ks.mapM act) s) := by
  induction is generalizing s ks with
  | nil =>
    cases given
    exact .ok .nil
  | cons i is ih =>
    cases given with
    | @cons _ k _ ks first others =>
      rw [List.mapM_cons, run_bind]
      refine ((each i k s first).imp (fun all => all i List.mem_cons_self) fun _ _ => id).bind ?_
      intro b after more known
      rw [run_bind]
      have rest := ih (others.imp fun i k => stays i k more)
      refine (rest.imp (fun all j member => all j (List.mem_cons_of_mem i member))
        fun _ _ => id).bind ?_
      intro bs last more' results
      exact .ok (.cons (stays' i b more' known) results)

theorem Decides.reserve {P : Prop} {R : Store → β → Prop} {next : Nat → Routine β}
    (later : ∀ id after, s.store.ExtendsTo after.store →
      Decides limit after P R (run setting evaluate call (next id) after)) :
    Decides limit s P R (run setting evaluate call (Routine.reserve 1 >>= next) s) := by
  have reserved : Decides limit s P (fun _ _ => True)
      (Evaluator.withStore (fun st => st.reserve 1) s) := .withStore (.reserve s.store 1) trivial
  exact reserved.bind fun id after more _ => later id after more

end Routines

/-! ### Functions on values -/

section Calls

variable {base : Store} {functions fs gs : List Value} {f v x y : Value} {callee : Option Node}
  {scope : Scope}

/-- A further function is decided by what it does on its own. -/
theorem Reaches.decides (reaches : Reaches limit now base fs x s.store y)
    (present : f.Present base) (fuel : Nat) (callee : Option Node) (scope : Scope) :
    Decides limit s (Completes limit now base (f :: fs) x) (Reaches limit now base (f :: fs) x)
      (perform (.standard limit now) fuel (onValues f [y] callee scope) s) where
  more := perform_extendsTo limit now fuel _ s
  result w same := by
    have level := perform_depth (.standard limit now) fuel (onValues f [y] callee scope) s
    cases outcome : perform (.standard limit now) fuel (onValues f [y] callee scope) s with
    | mk result after =>
      rw [outcome] at same level
      obtain ⟨after, d⟩ := after
      obtain rfl : d = s.depth := level
      obtain rfl : result = .ok w := same
      exact reaches.call present outcome
  goes completes ends := by
    obtain ⟨w, after, same⟩ := reaches.ends present completes rfl ends
    exact ⟨w, congrArg Prod.fst same⟩

theorem run_invoke (setting : Setting) (evaluate : Task → Eval Value) (call : Call) (f : Value)
    (values : List Value) :
    run setting evaluate call (Routine.invoke f values) =
      evaluate (onValues f values call.callee call.scope) :=
  bind_pure _

/-- So is every further one of several. -/
theorem run_foldlM_decides (reaches : Reaches limit now base fs x s.store y)
    (each : ∀ g ∈ gs, g.Present base) (fuel : Nat) (call : Call) :
    Decides limit s (Completes limit now base (gs.reverse ++ fs) x)
      (Reaches limit now base (gs.reverse ++ fs) x)
      (run (.standard limit now) (perform (.standard limit now) fuel) call
        (gs.foldlM (fun result g => Routine.invoke g [result]) y) s) := by
  induction gs generalizing s fs y with
  | nil => exact .ok reaches
  | cons g gs ih =>
    have order : (g :: gs).reverse ++ fs = gs.reverse ++ (g :: fs) := by simp
    rw [List.foldlM_cons, run_bind, run_invoke, order]
    refine ((reaches.decides (each g List.mem_cons_self) fuel call.callee call.scope).imp
      (Completes.suffix gs.reverse) fun _ _ => id).bind fun w after _ reaches' => ?_
    exact ih reaches' fun h member => each h (List.mem_cons_of_mem g member)

/-- The function that is composed of others. -/
def composite (id : Nat) (functions : List Value) : Value :=
  .function id (.native "compose" (.chained functions.reverse) [])

/-- A function that is composed of others does what these do one after the other. -/
theorem composite_decides (reaches : Reaches limit now base fs x s.store y)
    (nonempty : functions ≠ []) (each : ∀ g ∈ functions, g.Present base) (id fuel : Nat)
    (callee : Option Node) (scope : Scope) :
    Decides limit s (Completes limit now base (functions ++ fs) x)
      (Reaches limit now base (functions ++ fs) x)
      (perform (.standard limit now) fuel
        (onValues (composite id functions) [y] callee scope) s) := by
  cases fuel with
  | zero => exact .outOfFuel
  | succ fuel =>
    obtain ⟨g, gs, reversed⟩ := List.exists_cons_of_ne_nil (List.reverse_ne_nil_iff.mpr nonempty)
    obtain rfl : functions = (g :: gs).reverse := by rw [← reversed, List.reverse_reverse]
    have each (h : Value) (member : h ∈ g :: gs) : h.Present base :=
      each h (List.mem_reverse.mpr member)
    change Decides limit s _ _ (run (.standard limit now) (perform (.standard limit now) fuel)
      ⟨scope, [y].map .value, callee⟩
      (Library.callChained (g :: gs).reverse.reverse ⟨scope, [y].map .value, callee⟩) s)
    rw [Library.callChained, run_arguments, List.reverse_reverse]
    exact run_foldlM_decides reaches each fuel ⟨scope, [.value y], callee⟩

end Calls

end Parallel

end Bracket
