import Bracket.Proofs.Evaluator.Places
import Bracket.Proofs.Parallel.Laziness

/-!
Expressions behind one another. When expressions are evaluated in a store in which others were
evaluated before, they find all that was there at first, and nothing that the others made. So they
have the values that they would have had without the others, but for numbers and places.
Main statement: the values of expressions behind one another are those that each of them has alone.
-/

namespace Bracket

/-! ### Likenesses behind one another -/

namespace Likeness

/-- What belongs together by way of a third. -/
def comp (C D : Likeness) : Likeness where
  ids i k := ∃ j, C.ids i j ∧ D.ids j k
  closures body scope body' scope' :=
    ∃ between inner, C.closures body scope between inner ∧ D.closures between inner body' scope'
  ids_iff := by
    rintro i k i' k' ⟨j, first, second⟩ ⟨j', first', second'⟩
    exact (C.ids_iff first first').trans (D.ids_iff second second')
  text_eq := by
    rintro body body' scope scope' ⟨between, inner, first, second⟩
    exact (D.text_eq second).trans (C.text_eq first)

end Likeness

variable {C D : Likeness}

mutual

theorem Value.Like.comp {v w u : Value} : v.Like C w → w.Like D u → v.Like (C.comp D) u
  | .undefined, .undefined => .undefined
  | .null, .null => .null
  | .bool b, .bool _ => .bool b
  | .number n, .number _ => .number n
  | .string s, .string _ => .string s
  | .array ids each, .array ids' each' => .array ⟨_, ids, ids'⟩ (Value.LikeAll.comp each each')
  | .object ids each, .object ids' each' => .object ⟨_, ids, ids'⟩ (Table.Like.comp each each')
  | .function ids alike, .function ids' alike' => .function ⟨_, ids, ids'⟩ (alike.comp alike')
  | .date d, .date _ => .date d

theorem Value.LikeAll.comp {vs ws us : List Value} :
    Value.LikeAll C vs ws → Value.LikeAll D ws us → Value.LikeAll (C.comp D) vs us
  | .nil, .nil => .nil
  | .cons first rest, .cons first' rest' =>
    .cons (first.comp first') (Value.LikeAll.comp rest rest')

theorem Table.Like.comp {t u w : Table Value} :
    Table.Like C t u → Table.Like D u w → Table.Like (C.comp D) t w
  | .nil, .nil => .nil
  | .cons (.mk key alike) rest, .cons (.mk _ alike') rest' =>
    .cons (.mk key (alike.comp alike')) (Table.Like.comp rest rest')

theorem Procedure.Like.comp {p q r : Procedure} : p.Like C q → q.Like D r → p.Like (C.comp D) r
  | .closure params same, .closure _ same' => .closure params ⟨_, _, same, same'⟩
  | .native name alike each, .native _ alike' each' =>
    .native name (alike.comp alike') (Table.Like.comp each each')

theorem Code.Like.comp {c d e : Code} : c.Like C d → d.Like D e → c.Like (C.comp D) e
  | .builtin b, .builtin _ => .builtin b
  | .bound function each, .bound function' each' =>
    .bound (function.comp function') (Value.LikeAll.comp each each')
  | .flipped function each, .flipped function' each' =>
    .flipped (function.comp function') (Value.LikeAll.comp each each')
  | .chained each, .chained each' => .chained (Value.LikeAll.comp each each')
  | .host index, .host _ => .host index

end

namespace Parallel

open Evaluator
open Lexical (Agree)

/-- What belongs together after two evaluations that began with the same store: what was there
belongs to itself; closures have the same body, in its place or moved by `f`, and its names stand
for alike values. -/
structure Repeats (base : Store) (f : Nat → Nat) (C : Likeness) (st st' : Store) : Prop where
  present : .present base ≤ C
  body : ∀ {body body' : Option Node} {scope scope' : Scope},
    C.closures body scope body' scope' → body' = body ∨ body' = body.map (Node.place f)
  finds : ∀ {body body' : Option Node} {scope scope' : Scope},
    C.closures body scope body' scope' →
    Finds C (· ∈ identifiers (bodyLeaves body)) st st' scope scope'

variable {limit fuel : Nat} {now : Date} {scope : Scope} {nodes others : List Node}

/-- In place, or moved by `f`. -/
def inPlaceOr (f : Nat → Nat) : Set (Nat → Nat) := {id, f}

/-- What goes on alike and is moved then repeats what was there. -/
theorem repeats_comp {F : Frame} {base : Store} {f : Nat → Nat} {s mid s' : State}
    (present : .present base ≤ C) (sim : Sim F C s mid)
    (moved : State.Moved (inPlaceOr f) mid s') :
    Repeats base f (C.comp (.moved (inPlaceOr f))) s.store s'.store where
  present := by
    refine ⟨fun i i' same => ⟨i', present.1 i i' same, rfl⟩, ?_⟩
    rintro body scope body' scope' same
    refine ⟨body', scope', present.2 _ _ _ _ same, rfl, id, .inl rfl, ?_⟩
    cases body' with
    | none => rfl
    | some n => rw [Option.map_some, Node.place_id]
  body := by
    rintro body _ scope scope' ⟨between, inner, same, -, g, way, rfl⟩
    obtain rfl := sim.body same
    rcases way with rfl | rfl
    · refine .inl ?_
      cases between with
      | none => rfl
      | some n => rw [Option.map_some, Node.place_id]
    · exact .inr rfl
  finds := by
    rintro body _ scope scope' ⟨between, _, same, rfl, -⟩ name mentioned
    have found := (sim.anchored same).finds name mentioned
    have found' := moved.get? scope' name
    revert found found'
    generalize s.store.get? scope name = v, mid.store.get? scope' name = w,
      s'.store.get? scope' name = u
    intro found found'
    cases found with
    | none =>
      cases found'
      exact .none
    | some alike =>
      cases found' with
      | some alike' => exact .some (alike.comp alike')

/-- Expressions behind others are evaluated in the state that those leave. -/
theorem evaluateAll_append {setting : Setting} {s mid after : State} {vs ws : List Value}
    (first : evaluateAll setting fuel scope nodes s = (.ok vs, mid))
    (second : evaluateAll setting fuel scope others mid = (.ok ws, after)) :
    evaluateAll setting fuel scope (nodes ++ others) s = (.ok (vs ++ ws), after) := by
  induction nodes generalizing s vs with
  | nil =>
    obtain ⟨⟨⟩, rfl⟩ := Prod.mk.inj first
    exact second
  | cons n rest ih =>
    rw [evaluateAll, bind_apply] at first
    rw [List.cons_append, evaluateAll, bind_apply]
    revert first
    generalize perform setting fuel (.node n scope) s = outcome
    intro first
    obtain ⟨_ | v, behind⟩ := outcome
    · cases first
    · dsimp only at first ⊢
      rw [bind_apply] at first ⊢
      cases later : evaluateAll setting fuel scope rest behind with
      | mk result last =>
        rw [later] at first
        cases result with
        | error stop => cases first
        | ok us =>
          obtain ⟨⟨⟩, rfl⟩ := Prod.mk.inj first
          rw [ih later]
          rfl

/-- Expressions that are evaluated behind others, and elsewhere, have the values that they have
without these, as far as what was there at first goes. -/
theorem evaluateAll_behind (limit : Nat) (now : Date) {s mid after : State}
    (sound : s.store.Sound) (below : scope.Below s.store.levels.size)
    (present : ∀ n ∈ others, n.Present s.store) (f : Nat → Nat) {vs ws : List Value}
    (first : evaluateAll (.standard limit now) fuel scope nodes s = (.ok vs, mid))
    (alone : evaluateAll (.standard limit now) fuel scope others s = (.ok ws, after)) :
    ∃ ws' after' C,
      evaluateAll (.standard limit now) fuel scope (nodes ++ others.map (Node.place f)) s =
        (.ok (vs ++ ws'), after') ∧
      Repeats s.store f C after.store after'.store ∧ Value.LikeAll C ws ws' := by
  obtain ⟨stage, stages, rfl, rfl⟩ := exists_stages first
  have grown := stages.grown (Nat.zero_le nodes.length)
  have kept := stages.keeps (Nat.zero_le nodes.length)
  have none (l : Nat) (inside : l ∈ (∅ : Set Nat)) : False := Set.notMem_empty l inside
  have sim : Sim { aligned := False } (.present (stage 0).store) (stage 0) (stage nodes.length) :=
    sim_of_sound sound id (.refl _ _) kept (Nat.le_refl _) grown.next_le
      (fun l inside => (none l inside).elim) (fun l inside => (none l inside).elim)
      (stages.depth _)
  have anchored : ∀ n ∈ others, Anchored { aligned := False } (.present (stage 0).store)
      (stage 0).store (stage nodes.length).store scope scope n.leaves :=
    fun n member => anchored_of_sound sound (.refl _ _) kept (fun l inside => (none l inside).elim)
      (fun l inside => (none l inside).elim) below (present n member)
  -- first the same expressions behind the others, and then these expressions elsewhere
  obtain ⟨D, le, simAfter, agree⟩ := evaluateAll_follows limit now fuel sim anchored
  have still : id ∈ inPlaceOr f := .inl rfl
  have way : f ∈ inPlaceOr f := .inr rfl
  have elsewhere := evaluateAll_moves still limit now fuel way scope others
    (.refl still (stage nodes.length))
  rw [alone] at simAfter agree
  revert simAfter agree elsewhere
  cases behind : evaluateAll (.standard limit now) fuel scope others (stage nodes.length) with
  | mk result between =>
    cases moved : evaluateAll (.standard limit now) fuel scope (others.map (Node.place f))
        (stage nodes.length) with
    | mk result' after' =>
      rintro simAfter agree ⟨same, agree'⟩
      cases agree with
      | ok each =>
        cases agree' with
        | ok each' =>
          exact ⟨_, after', _, evaluateAll_append first moved, repeats_comp le simAfter same,
            Value.LikeAll.comp each each'⟩

end Parallel

end Bracket
