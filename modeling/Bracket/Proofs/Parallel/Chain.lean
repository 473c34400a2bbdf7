import Bracket.Proofs.Evaluator.Application
import Bracket.Proofs.Likeness.Resemblance
import Bracket.Proofs.Parallel.Laziness

/-!
Functions called one after the other on the result before, while other things are evaluated in
between. What a value becomes on its own, when it alone is there, it also becomes among others: each
call mirrors the one on its own, and whatever is evaluated in between changes nothing that the value
is made of.
Main statement: a call goes well among others exactly if it does on its own, unless there is too
little fuel or room, and the results are alike.
-/

namespace Bracket

/-! ### Stores with all that was there before -/

/-- The second store has all that the first has, as it is there. -/
structure Store.ExtendsTo (st st' : Store) : Prop where
  keeps : st.Keeps st.levels.size st'
  next_le : st.nextId ≤ st'.nextId

namespace Store.ExtendsTo

variable {st st' st'' : Store}

theorem refl (st : Store) : st.ExtendsTo st := ⟨.refl _ st, Nat.le_refl _⟩

theorem trans (first : st.ExtendsTo st') (second : st'.ExtendsTo st'') : st.ExtendsTo st'' where
  keeps := by
    refine ⟨Nat.le_trans first.keeps.size_le second.keeps.size_le, fun l low => ?_⟩
    rw [second.keeps.locals l (Nat.lt_of_lt_of_le low first.keeps.size_le),
      first.keeps.locals l low]
  next_le := Nat.le_trans first.next_le second.next_le

theorem newScope (st : Store) (outer : Option Scope) : st.ExtendsTo (st.newScope outer).2 :=
  ⟨.newScope (Nat.le_refl _) outer, Nat.le_refl _⟩

theorem reserve (st : Store) (count : Nat) : st.ExtendsTo (st.reserve count).2 :=
  ⟨.reserve count, Nat.le_add_right _ count⟩

end Store.ExtendsTo

namespace Evaluator

theorem perform_extendsTo (limit : Nat) (now : Date) (fuel : Nat) (t : Task) (s : State) :
    s.store.ExtendsTo (perform (.standard limit now) fuel t s).2.store :=
  ⟨perform_keeps limit now fuel t s (Nat.le_refl _), (perform_grown _ fuel t s).next_le⟩

end Evaluator

namespace Parallel

open Evaluator
open Lexical (Spares Agree)

variable {C D : Likeness} {limit fuel depth : Nat} {now : Date} {base st st' after after' : Store}
  {f f' v w x y : Value} {values values' fs : List Value} {callee : Option Node} {scope : Scope}

/-! ### Mirrored stores -/

/-- What belongs together stands for the same in both stores, and the second may hold more
besides. -/
structure Mirrors (C : Likeness) (st st' : Store) : Prop where
  sim : Sim { aligned := False } C ⟨st, 0⟩ ⟨st', 0⟩
  taken : ∀ {i i' : Nat}, C.ids i i' → i < st.nextId ∧ i' < st'.nextId

namespace Mirrors

/-- A store is mirrored by all that come after it. -/
theorem start (sound : base.Sound) (more : base.ExtendsTo st') :
    Mirrors (.present base) base st' where
  sim := by
    have none (l : Nat) (inside : l ∈ (∅ : Set Nat)) : False := Set.notMem_empty l inside
    exact sim_of_sound sound id (.refl _ _) more.keeps (Nat.le_refl _) more.next_le
      (fun l inside => (none l inside).elim) (fun l inside => (none l inside).elim) rfl
  taken := by
    rintro i _ ⟨rfl, low⟩
    exact ⟨low, Nat.lt_of_lt_of_le low more.next_le⟩

/-- Anything else may be evaluated on the second side. -/
theorem aside (mirrors : Mirrors C st st') (more : st'.ExtendsTo after') :
    Mirrors C st after' where
  sim := {
    depth := rfl
    sizes := False.elim
    hidden_lt := mirrors.sim.hidden_lt
    hidden_lt' := fun l inside => absurd inside (Set.notMem_empty l)
    fits := fun pair =>
      .inl ⟨(mirrors.taken pair).1, Nat.lt_of_lt_of_le (mirrors.taken pair).2 more.next_le⟩
    body := mirrors.sim.body
    anchored := fun same => (mirrors.sim.anchored same).later (Likeness.le_refl C)
      (.of_keeps (.refl _ st)) (.of_keeps more.keeps) }
  taken pair :=
    ⟨(mirrors.taken pair).1, Nat.lt_of_lt_of_le (mirrors.taken pair).2 more.next_le⟩

/-- The calls of alike functions on alike values end alike, and leave stores of which the second
mirrors the first in turn. -/
theorem call (mirrors : Mirrors C st st') (function : f.Like C f')
    (each : Value.LikeAll C values values') (limit : Nat) (now : Date) (fuel : Nat)
    (callee : Option Node) (scope : Scope) (depth : Nat) :
    let outcome (f : Value) (values : List Value) (st : Store) :=
      perform (.standard limit now) fuel (onValues f values callee scope) ⟨st, depth⟩
    Agree (fun v v' => ∃ D, C ≤ D ∧ v.Like D v' ∧
        Mirrors D (outcome f values st).2.store (outcome f' values' st').2.store)
      (outcome f values st).1 (outcome f' values' st').1 := by
  have passed : List.Forall₂ (Passed { aligned := False } C st st' scope scope)
      (values.map .value) (values'.map .value) := by
    rw [List.forall₂_map_left_iff, List.forall₂_map_right_iff]
    exact each.imp fun _ _ alike => .value alike
  have site : Site { aligned := False } C st st' ⟨scope, values.map .value, callee⟩
      ⟨scope, values'.map .value, callee⟩ := ⟨rfl, passed⟩
  have simulated : Simulated limit now fuel := perform_simulated limit now fuel
  obtain ⟨D, le, sim, agree⟩ := simulated.part (mirrors.sim.atDepth depth) (.call function site)
  refine agree.imp fun v v' ⟨alike, later⟩ => ⟨D, le, alike, sim.atDepth 0, fun pair => ?_⟩
  rcases later.grows.fresh pair with old | ⟨new, new'⟩
  · obtain ⟨known, known'⟩ := mirrors.taken old
    exact ⟨Nat.lt_of_lt_of_le known later.grows.next_le,
      Nat.lt_of_lt_of_le known' later.grows.next_le'⟩
  · exact ⟨new.2, new'.2⟩

/-- A call that ends well does so on the first side as well. -/
theorem makes (mirrors : Mirrors C st st') (function : f.Like C f')
    (each : Value.LikeAll C values values')
    (run : perform (.standard limit now) fuel (onValues f' values' callee scope) ⟨st', depth⟩ =
      (.ok w, ⟨after', depth⟩)) :
    ∃ v after D, Makes limit now f values st v after ∧ C ≤ D ∧ v.Like D w ∧
      Mirrors D after after' := by
  have agree := mirrors.call function each limit now fuel callee scope depth
  dsimp only at agree
  rw [run] at agree
  have level :=
    perform_depth (.standard limit now) fuel (onValues f values callee scope) ⟨st, depth⟩
  cases outcome : perform (.standard limit now) fuel (onValues f values callee scope)
    ⟨st, depth⟩ with
  | mk result s =>
    rw [outcome] at agree level
    obtain ⟨after, d⟩ := s
    obtain rfl : d = depth := level
    cases agree with
    | @ok v _ related =>
      obtain ⟨D, le, alike, later⟩ := related
      exact ⟨v, after, D, ⟨fuel, callee, scope, d, outcome⟩, le, alike, later⟩

/-- What a function makes on the first side it also makes on the second, given enough fuel and
room. -/
theorem ends (mirrors : Mirrors C st st') (function : f.Like C f')
    (each : Value.LikeAll C values values') (made : Makes limit now f values st v after)
    {x : Except Stop Value × State}
    (run : perform (.standard limit now) fuel (onValues f' values' callee scope) ⟨st', depth⟩ = x)
    (ends : Ends limit x) : ∃ w s, x = (.ok w, s) := by
  have agree := mirrors.call function each limit now fuel callee scope depth
  dsimp only at agree
  rw [run] at agree
  cases outcome : perform (.standard limit now) fuel (onValues f values callee scope)
    ⟨st, depth⟩ with
  | mk result s =>
    rw [outcome] at agree
    obtain ⟨result', s'⟩ := x
    cases agree with
    | ok related => exact ⟨_, s', rfl⟩
    | stop stop =>
      have same := made.eq outcome ⟨ends.fuel, ends.room⟩
      cases same

end Mirrors

/-! ### One function after the other -/

/-- The functions, the last of them first and each on the result of the one behind it, make the
second value of the first. -/
inductive Composed (limit : Nat) (now : Date) : List Value → Value → Store → Value → Store → Prop
  | nil (x : Value) (st : Store) : Composed limit now [] x st x st
  | cons {fs : List Value} {f x y z : Value} {st mid after : Store}
      (rest : Composed limit now fs x st y mid) (first : Makes limit now f [y] mid z after) :
      Composed limit now (f :: fs) x st z after

theorem Composed.unique (composed : Composed limit now fs x st v after)
    (composed' : Composed limit now fs x st w after') : w = v ∧ after' = after := by
  induction composed generalizing w after' with
  | nil => cases composed'; exact ⟨rfl, rfl⟩
  | cons _ first ih =>
    cases composed' with
    | cons rest' first' =>
      obtain ⟨rfl, rfl⟩ := ih rest'
      exact first.unique first'

/-- The functions make something of the value when nothing but the store is there. -/
def Completes (limit : Nat) (now : Date) (base : Store) (fs : List Value) (x : Value) : Prop :=
  ∃ v after, Composed limit now fs x base v after

theorem Completes.rest (completes : Completes limit now base (f :: fs) x) :
    Completes limit now base fs x := by
  obtain ⟨_, _, composed⟩ := completes
  cases composed with
  | cons rest _ => exact ⟨_, _, rest⟩

theorem Completes.suffix (gs : List Value) (completes : Completes limit now base (gs ++ fs) x) :
    Completes limit now base fs x := by
  induction gs with
  | nil => exact completes
  | cons g gs ih => exact ih completes.rest

/-- In the store `st`, the value `y` is what the functions make of `x` on its own. -/
def Reaches (limit : Nat) (now : Date) (base : Store) (fs : List Value) (x : Value) (st : Store)
    (y : Value) : Prop :=
  ∃ v after C, Composed limit now fs x base v after ∧ .present base ≤ C ∧ v.Like C y ∧
    Mirrors C after st

namespace Reaches

/-- A value that was there at first is what no function makes of it. -/
theorem start (sound : base.Sound) (present : x.Present base) (more : base.ExtendsTo st) :
    Reaches limit now base [] x st x :=
  ⟨x, base, .present base, .nil x base, Likeness.le_refl _, present.like, .start sound more⟩

theorem completes (reaches : Reaches limit now base fs x st y) : Completes limit now base fs x := by
  obtain ⟨v, after, -, composed, -⟩ := reaches
  exact ⟨v, after, composed⟩

theorem aside (reaches : Reaches limit now base fs x st y) (more : st.ExtendsTo st') :
    Reaches limit now base fs x st' y := by
  obtain ⟨v, after, C, composed, le, alike, mirrors⟩ := reaches
  exact ⟨v, after, C, composed, le, alike, mirrors.aside more⟩

/-- A further function that is called on the value goes on as it does on its own. -/
theorem call (reaches : Reaches limit now base fs x st y) (present : f.Present base)
    (run : perform (.standard limit now) fuel (onValues f [y] callee scope) ⟨st, depth⟩ =
      (.ok w, ⟨after, depth⟩)) : Reaches limit now base (f :: fs) x after w := by
  obtain ⟨v, mid, C, composed, le, alike, mirrors⟩ := reaches
  obtain ⟨z, last, D, makes, le', alike', mirrors'⟩ :=
    mirrors.makes (present.like.mono le) (.cons alike .nil) run
  exact ⟨z, last, D, .cons composed makes, Likeness.le_trans le le', alike', mirrors'⟩

/-- It goes well if it does on its own, given enough fuel and room. -/
theorem ends (reaches : Reaches limit now base fs x st y) (present : f.Present base)
    (completes : Completes limit now base (f :: fs) x) {z : Except Stop Value × State}
    (run : perform (.standard limit now) fuel (onValues f [y] callee scope) ⟨st, depth⟩ = z)
    (ends : Ends limit z) : ∃ w s, z = (.ok w, s) := by
  obtain ⟨v, mid, C, composed, le, alike, mirrors⟩ := reaches
  obtain ⟨_, _, composed'⟩ := completes
  cases composed' with
  | cons rest makes =>
    obtain ⟨rfl, rfl⟩ := composed.unique rest
    exact mirrors.ends (present.like.mono le) (.cons alike .nil) makes run ends

/-- What the same functions make of the same value in different stores resembles each other. -/
theorem resembles (reaches : Reaches limit now base fs x st y)
    (reaches' : Reaches limit now base fs x st' w) : y.Resembles w := by
  obtain ⟨v, after, C, composed, -, alike, mirrors⟩ := reaches
  obtain ⟨v', after', D, composed', -, alike', mirrors'⟩ := reaches'
  obtain ⟨rfl, rfl⟩ := composed.unique composed'
  exact alike.resembles mirrors.sim.body mirrors'.sim.body alike'

end Reaches

end Parallel

end Bracket
