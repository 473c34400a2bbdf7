import Bracket.Proofs.Parallel.Simulation
import Bracket.Proofs.Session.Caches

/-!
Bindings that a text does not mention. Closures that the text makes capture the scope of all
bindings, and they are passed around and called elsewhere, but their bodies are parts of the text;
and whatever was there before the text cannot reach the scope of its bindings. Main statement: the
outcome of a text depends on the bindings of the names that occur in its trees, and on no others.
-/

namespace Bracket

/-! ### What was there before -/

mutual

/-- The values of keywords in an expression lie below what the expression does. -/
theorem Node.Below.of_leaves {n : Nat} {mark : Mark} {v : Value} : (node : Node) → node.Below n →
    (mark, Literal.keyword v) ∈ node.leaves → v.Below n
  | .leaf _ _, below, inside => by
    obtain ⟨rfl, rfl⟩ := Prod.mk.inj (List.mem_singleton.mp inside)
    exact below.of_keyword
  | .call _ children, below, inside => Node.below_of_leavesAll children below.of_call inside
  | .function _ children, below, inside =>
    Node.below_of_leavesAll children below.of_function inside
  | .member _ target _, below, inside => Node.Below.of_leaves target below.of_member inside

theorem Node.below_of_leavesAll {n : Nat} {mark : Mark} {v : Value} : (nodes : List Node) →
    (∀ node ∈ nodes, node.Below n) → (mark, Literal.keyword v) ∈ Node.leavesAll nodes → v.Below n
  | [], _, inside => absurd inside List.not_mem_nil
  | node :: rest, below, inside => by
    rcases List.mem_append.mp inside with first | later
    · exact Node.Below.of_leaves node (below node List.mem_cons_self) first
    · exact Node.below_of_leavesAll rest
        (fun other member => below other (List.mem_cons_of_mem node member)) later

end

/-- Values are the same, and closures hold no level from `n` on. -/
def Likeness.before (n : Nat) : Likeness where
  ids := Eq
  closures body scope body' scope' :=
    body' = body ∧ scope' = scope ∧ (∀ node ∈ body, node.Below n) ∧ scope.Below n
  ids_iff := @Likeness.eq_iff_eq
  text_eq := by
    rintro body body' scope scope' ⟨rfl, -⟩
    rfl

theorem Value.Below.like_before {n : Nat} {v : Value} (below : v.Below n) :
    v.Like (.before n) v :=
  below.like_self (C := .before n) (fun _ => rfl) fun _ _ inside low => ⟨rfl, rfl, inside, low⟩

/-- A new scope with variables has them, and those of the scope around it. -/
theorem Store.get?_extended (st : Store) {outer : Scope} (below : outer.Below st.levels.size)
    (entries : List (String × Value)) (name : String) :
    (st.extended (some outer) entries).get? (st.newScope (some outer)).1 name =
      match (Table.ofEntries entries).get? name with
      | some v => some v
      | none => st.get? outer name := by
  have around : (st.extended (some outer) entries).get? outer name = st.get? outer name := by
    refine Store.get?_congr (fun l member => ?_) name
    rw [Store.locals_extended, if_neg (Nat.ne_of_lt (below l member))]
  have own : (st.extended (some outer) entries).locals st.levels.size =
      Table.ofEntries entries := by
    rw [Store.locals_extended, if_pos rfl]
  show Store.search? _ name (st.levels.size :: outer.level :: outer.outer) = _
  rw [Store.search?, own]
  cases (Table.ofEntries entries).get? name with
  | some v => rfl
  | none => exact around

theorem Store.keeps_extended (st : Store) (outer : Option Scope) (entries : List (String × Value)) :
    st.Keeps st.levels.size (st.extended outer entries) where
  size_le := by simp
  locals l low := by rw [Store.locals_extended, if_neg (Nat.ne_of_lt low)]

/-- Alike values of sides that number everything in the same way are equal. -/
theorem Parallel.Sim.eq_of_like {F : Parallel.Frame} {C : Likeness} {s s' : Evaluator.State}
    (sim : Parallel.Sim F C s s') (together : F.aligned) (ids : ∀ i i', C.ids i i' → i' = i)
    {v v' : Value} (alike : v.Like C v') : v' = v := by
  have le : C ≤ .renaming id := by
    refine ⟨fun i i' pair => (ids i i' pair).symm, fun body scope body' scope' same => ?_⟩
    have body_eq := sim.body same
    have scope_eq := (sim.anchored same).aligned together
    refine ⟨body_eq.trans ?_, scope_eq.trans (Scope.rename_id scope).symm⟩
    cases body with
    | none => rfl
    | some n => exact congrArg some (Node.rename_id n).symm
  exact (alike.mono le).eq_rename.trans (Value.rename_id v)

namespace Session

open Evaluator Parallel

variable {s : Session} {w : World} {bindings bindings' : Table Value}

/-- The two sides number everything in the same way. -/
def together : Frame := { aligned := True }

/-! ### Two evaluations with other bindings -/

/-- What was there before stands for the same with both bindings. -/
theorem Coherent.before_anchored (coherent : Coherent s w) {body : Option Node} {scope : Scope}
    (inside : ∀ n ∈ body, n.Below (Session.libraryIn s w).2.store.levels.size)
    (below : scope.Below (Session.libraryIn s w).2.store.levels.size) :
    Anchored together (.before (Session.libraryIn s w).2.store.levels.size)
      (innerStore s w bindings) (innerStore s w bindings') scope scope (bodyLeaves body) := by
  have none : ∀ l ∈ (∅ : Set Nat), (Session.libraryIn s w).2.store.levels.size ≤ l :=
    fun l inside => absurd inside (Set.notMem_empty l)
  refine .own (Store.keeps_extended _ _ _) (Store.keeps_extended _ _ _) none none below ?_ ?_
  · intro name v found
    exact (Store.below_of_get? coherent.libraryIn.closed.locals found).like_before
  · intro mark v member
    cases body with
    | none => cases member
    | some n => exact (Node.Below.of_leaves n (inside n rfl) member).like_before

theorem Coherent.inner_sim (coherent : Coherent s w) :
    Sim together (.before (Session.libraryIn s w).2.store.levels.size)
      { store := innerStore s w bindings } { store := innerStore s w bindings' } where
  depth := rfl
  sizes _ := by rw [size_innerStore, size_innerStore]
  hidden_lt l inside := absurd inside (Set.notMem_empty l)
  hidden_lt' l inside := absurd inside (Set.notMem_empty l)
  fits := by
    rintro i _ rfl
    refine .inr ?_
    simp only [innerStore, Store.nextId_extended]
  body same := same.1
  anchored := by
    rintro body _ scope _ ⟨rfl, rfl, inside, below⟩
    exact coherent.before_anchored inside below

/-- Bindings that agree on the names of an expression make it stand for the same. -/
theorem Coherent.inner_anchored (coherent : Coherent s w)
    (below : bindings.Below w.store.levels.size) {n : Node}
    (inside : n.Below (Session.libraryIn s w).2.store.levels.size)
    (agree : ∀ name ∈ identifiers n.leaves,
      (Table.ofEntries bindings').get? name = (Table.ofEntries bindings).get? name) :
    Anchored together (.before (Session.libraryIn s w).2.store.levels.size)
      (innerStore s w bindings) (innerStore s w bindings') (innerScope s w) (innerScope s w)
      n.leaves := by
  obtain ⟨made, outer, -⟩ := coherent.libraryIn.library _ rfl
  have around : (Session.libraryIn s w).1.Below (Session.libraryIn s w).2.store.levels.size := by
    intro l member
    rw [outer] at member
    obtain rfl := List.mem_singleton.mp member
    exact made
  have settled (bindings : Table Value) :
      Lexical.Settled together.hidden (innerStore s w bindings) (innerScope s w) := by
    intro l member
    refine ⟨?_, Set.notMem_empty l⟩
    rw [size_innerStore]
    rcases List.mem_cons.mp member with rfl | later
    · exact Nat.lt_succ_self _
    · exact Nat.lt_succ_of_lt (around l later)
  refine ⟨settled bindings, settled bindings', fun _ => rfl, .of_eq ?_ ?_, ?_⟩
  · intro name mentioned
    rw [innerStore, innerStore, innerScope, Store.get?_extended _ around,
      Store.get?_extended _ around, agree name mentioned]
  · intro name v _ found
    rw [innerStore, innerScope, Store.get?_extended _ around] at found
    split at found
    · next given =>
      obtain rfl := Option.some.inj found
      have own := below.ofEntries _ (Table.mem_of_get? given)
      exact (own.mono (size_le_libraryIn s w)).like_before
    · exact (Store.below_of_get? coherent.libraryIn.closed.locals found).like_before
  · intro mark v member
    exact (Node.Below.of_leaves n inside member).like_before

/-- Expressions have the same values with bindings that agree on their names. -/
theorem Coherent.evaluateAll_mentioned (coherent : Coherent s w)
    (below : bindings.Below w.store.levels.size) {nodes : List Node}
    (trees : ∀ n ∈ nodes, n.Below w.store.levels.size)
    (agree : ∀ n ∈ nodes, ∀ name ∈ identifiers n.leaves,
      (Table.ofEntries bindings').get? name = (Table.ofEntries bindings).get? name)
    (limit : Nat) (now : Date) (fuel : Nat) :
    (evaluateAll (.standard limit now) fuel (innerScope s w) nodes
        { store := innerStore s w bindings' }).1 =
      (evaluateAll (.standard limit now) fuel (innerScope s w) nodes
        { store := innerStore s w bindings }).1 := by
  have anchored : ∀ n ∈ nodes,
      Anchored together (.before (Session.libraryIn s w).2.store.levels.size)
        (innerStore s w bindings) (innerStore s w bindings') (innerScope s w) (innerScope s w)
        n.leaves := by
    intro n member
    refine coherent.inner_anchored below ?_ (agree n member)
    exact fun ρ fixes => trees n member ρ (fixes.mono (size_le_libraryIn s w))
  obtain ⟨D, le, sim, outcomes⟩ :=
    evaluateAll_follows limit now fuel coherent.inner_sim anchored
  have ids : ∀ i i', D.ids i i' → i' = i := by
    intro i i' pair
    exact ((D.ids_iff (le.1 i i rfl) pair).mp rfl).symm
  revert sim outcomes
  generalize evaluateAll (.standard limit now) fuel (innerScope s w) nodes
    { store := innerStore s w bindings } = x
  generalize evaluateAll (.standard limit now) fuel (innerScope s w) nodes
    { store := innerStore s w bindings' } = y
  obtain ⟨result, after⟩ := x
  obtain ⟨result', after'⟩ := y
  intro sim outcomes
  cases outcomes with
  | stop stop => rfl
  | ok each =>
    have same : List.Forall₂ Eq _ _ :=
      each.imp fun v v' alike => (sim.eq_of_like trivial ids alike).symm
    rw [List.forall₂_eq_eq_eq] at same
    exact congrArg Except.ok same.symm

/-- Only bindings that are mentioned matter. With the standard library alone, after any operations
on a session, a text has the same outcome with any two bindings that agree on every name that
stands in its trees as an identifier: the same error, or the same value. One of the two finishes
with so much fuel exactly if the other does. The bindings hold no scope that is not made yet. -/
theorem evaluate_mentioned {s : Session} {w : World} (reachable : Reachable (s, w))
    (alone : w.hosts = []) {bindings bindings' : Table Value}
    (below : bindings.Below w.store.levels.size) {text : String}
    (agree : ∀ nodes, s.treesOf text = .ok nodes → ∀ n ∈ nodes, ∀ name ∈ identifiers n.leaves,
      (Table.ofEntries bindings').get? name = (Table.ofEntries bindings).get? name)
    (fuel elapsed : Nat) :
    (evaluate fuel elapsed text bindings' (s, w)).1 =
      (evaluate fuel elapsed text bindings (s, w)).1 := by
  have coherent := reachable.coherent
  obtain ⟨_, _, -, computed⟩ := coherent.compute_eq fuel text bindings
  obtain ⟨_, _, -, computed'⟩ := coherent.compute_eq fuel text bindings'
  rw [evaluate_fst, evaluate_fst, computed, computed']
  cases parsed : s.treesOf text with
  | error e => rfl
  | ok nodes =>
    have standard : setting (s, w) = .standard s.limit w.now := by
      rw [setting, alone]
    have same := coherent.evaluateAll_mentioned below (coherent.treesOf_below parsed)
      (agree nodes parsed) s.limit w.now fuel
    dsimp only
    rw [standard, same]

/-- A closure of the text captures all bindings, and its body mentions one of them. -/
theorem evaluate_mentioned_captured :
    (standard.treesOf "({x (+ x a)} 2)").toOption.map
        (fun nodes => nodes.flatMap fun n => identifiers n.leaves) = some ["x", "+", "x", "a"] ∧
    (evaluate 10 0 "({x (+ x a)} 2)" [("b", .null), ("a", .string "c")]
        (standard, { now := ⟨0, 0, 0⟩ })).1 =
      (evaluate 10 0 "({x (+ x a)} 2)" [("a", .string "c"), ("b", .bool true)]
        (standard, { now := ⟨0, 0, 0⟩ })).1 := by
  have mentioned : (standard.treesOf "({x (+ x a)} 2)").toOption.map
      (fun nodes => nodes.flatMap fun n => identifiers n.leaves) =
      some ["x", "+", "x", "a"] := by decide +kernel
  have started : Reachable (standard, { now := ⟨0, 0, 0⟩ }) :=
    .start (closed_empty _) ⟨Lexicon.standard_below, Builtin.library_below⟩
  refine ⟨mentioned, evaluate_mentioned started rfl ?_ ?_ 10 0⟩
  · intro entry member
    rcases List.mem_pair.mp member with rfl | rfl
    · exact fun _ _ => rfl
    · exact fun _ _ => rfl
  · intro nodes parsed n member name inside
    rw [parsed] at mentioned
    have names : name ∈ ["x", "+", "x", "a"] := by
      rw [← Option.some.inj mentioned]
      exact List.mem_flatMap.mpr ⟨n, member, inside⟩
    simp only [List.mem_cons, List.not_mem_nil, or_false] at names
    rcases names with rfl | rfl | rfl | rfl <;> rfl

end Session

end Bracket
