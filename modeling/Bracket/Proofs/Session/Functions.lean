import Bracket.Proofs.Registry
import Bracket.Proofs.Session.Mentioned

/-!
The functions of a session, by name. The scope of the library is filled from the list of all
functions, one after the other, and read by name; the registry of the functions looks a name up by
itself. Main statement: the views of a registry agree after any changes, so that a name that is
evaluated without bindings stands for the function that the registry has under it, or for undefined.
-/

namespace Bracket.Session

open Evaluator

variable {s : Session} {w : World}

/-! ### The functions after any operations -/

/-- The evaluation of a text leaves the functions alone. -/
theorem Coherent.compute_functions (coherent : Coherent s w) (fuel : Nat) (text : String)
    (bindings : Table Value) :
    (Session.compute fuel text bindings (s, w)).2.1.functions = s.functions := by
  obtain ⟨known, trees, -, computed⟩ := coherent.compute_eq fuel text bindings
  rw [computed]
  cases s.treesOf text <;> rfl

theorem Coherent.evaluateNodes_functions (coherent : Coherent s w) (fuel elapsed : Nat)
    (text : String) (bindings : Table Value) :
    (Session.evaluateNodes fuel elapsed text bindings (s, w)).2.1.functions = s.functions := by
  obtain ⟨stats, recorded⟩ := evaluateNodes_snd fuel elapsed text bindings (s, w)
  rw [recorded]
  exact coherent.compute_functions fuel text bindings

/-- An operation changes the functions as a registry is changed, or not at all. -/
theorem Coherent.after_functions (coherent : Coherent s w) (op : Operation) :
    (op.after (s, w)).1.functions = s.functions ∨
      ∃ c, (op.after (s, w)).1.functions = s.functions.change c := by
  cases op with
  | tokenize text => exact .inl ((tokenize_isSteady text).keeps (s, w)).2.1
  | parse tokens => exact .inl ((parse_isSteady tokens).keeps (s, w)).2.1
  | evaluate fuel elapsed text bindings =>
    rw [Operation.after, evaluate_snd]
    exact .inl (coherent.evaluateNodes_functions fuel elapsed text bindings)
  | evaluateNodes fuel elapsed text bindings =>
    exact .inl (coherent.evaluateNodes_functions fuel elapsed text bindings)
  | callWith fuel f values =>
    rw [Operation.after, Session.callWith, bind_apply, scopeWith_eq]
    exact .inl rfl
  | registerFunction name f properties => exact .inr ⟨.insert name _, rfl⟩
  | insertFunction name f => exact .inr ⟨.insert name f, rfl⟩
  | removeFunction name => exact .inr ⟨.remove name, rfl⟩
  | insertKeyword | removeKeyword | insertRecognizer | removeRecognizer => exact .inl rfl
  | setLimit | setClock => exact .inl rfl

/-- The functions of a session are what some history made of its defaults. -/
theorem Reachable.functions_history {x : Session × World} (reachable : Reachable x) :
    ∃ history, x.1.functions = Registry.after x.1.functions.defaults history := by
  induction reachable with
  | start => exact ⟨[], rfl⟩
  | @step x op before _ ih =>
    obtain ⟨history, made⟩ := ih
    rcases before.coherent.after_functions op with same | ⟨c, changed⟩
    · rw [same]
      exact ⟨history, made⟩
    · refine ⟨history ++ [c], ?_⟩
      have defaults : (x.1.functions.change c).defaults = x.1.functions.defaults := by
        cases c <;> rfl
      rw [changed, Registry.after_snoc, defaults, ← made]

/-! ### Names in the scope of the library -/

/-- The scope of the library has under a name what the registry has. -/
theorem Coherent.get?_library (coherent : Coherent s w)
    (distinct : (Table.keys s.functions.toList).Nodup)
    (shown : ∀ name f, (name, f) ∈ s.functions.toList ↔ s.functions.get? name = some f)
    (name : String) :
    (Session.libraryIn s w).2.store.get? (Session.libraryIn s w).1 name =
      s.functions.get? name := by
  obtain ⟨-, outer, locals⟩ := coherent.libraryIn.library _ rfl
  have filled : Table.ofEntries s.functions.toList = s.functions.toList :=
    Table.insertAll_of_nodup [] distinct
  have found : Table.get? s.functions.toList name = s.functions.get? name := by
    ext f
    rw [Table.get?_eq_some_iff distinct, shown]
  rw [Store.get?, outer, Store.search?, locals, filled, found]
  cases s.functions.get? name <;> rfl

/-- A name that is evaluated without bindings has the value that it has in the library. -/
theorem Coherent.evaluate_identifier (coherent : Coherent s w) {text : String} {mark : Mark}
    (parsed : s.treesOf text = .ok [.leaf mark .identifier]) (fuel elapsed : Nat) :
    (Session.evaluate (fuel + 1) elapsed text [] (s, w)).1 =
      .ok (((Session.libraryIn s w).2.store.get? (Session.libraryIn s w).1 mark.text).getD
        .undefined) := by
  obtain ⟨made, outer, -⟩ := coherent.libraryIn.library _ rfl
  have around : (Session.libraryIn s w).1.Below (Session.libraryIn s w).2.store.levels.size := by
    intro l member
    rw [outer] at member
    obtain rfl := List.mem_singleton.mp member
    exact made
  have limited : 1 ≤ s.limit := by
    cases lexed : s.lexicon.tokenize text with
    | error e =>
      rw [treesOf_of_error lexed] at parsed
      cases parsed
    | ok tokens =>
      rw [treesOf_of_tokens lexed] at parsed
      exact (Node.derives_of_ofTokens parsed).2 _ List.mem_cons_self
  have value : (perform (setting (s, w)) (fuel + 1) (.node (.leaf mark .identifier)
      (innerScope s w)) { store := innerStore s w [] }).1 =
      .ok (((innerStore s w []).get? (innerScope s w) mark.text).getD .undefined) := by
    have room : ¬ (setting (s, w)).limit < ({ store := innerStore s w [] } : State).depth + 1 :=
      Nat.not_lt.mpr limited
    simp only [perform_succ, Task.enter, if_neg room]
    rfl
  obtain ⟨_, _, -, computed⟩ := coherent.compute_eq (fuel + 1) text []
  rw [evaluate_fst, computed, parsed]
  dsimp only
  rw [evaluateAll, bind_apply]
  revert value
  generalize perform (setting (s, w)) (fuel + 1) _ _ = outcome
  obtain ⟨result, after⟩ := outcome
  rintro ⟨⟩
  have read : (innerStore s w []).get? (innerScope s w) mark.text =
      (Session.libraryIn s w).2.store.get? (Session.libraryIn s w).1 mark.text := by
    rw [innerStore, innerScope, Store.get?_extended _ around]
    rfl
  rw [read]
  rfl

/-- Registry views agree over any history. After any insertions and removals over defaults with
distinct names, a registry is two finite maps with the local one first: its list has every name that
is known once, the local ones in the order in which they came in and the other defaults behind them;
the entry of a name is the one in the list; changes answer with the local entry that they replace or
remove; and a removal uncovers the default. The functions of a session are such a registry, and a
name that is evaluated without bindings stands for the function of that name, or for undefined. -/
theorem registry_views_agree :
    (∀ {α : Type} {defaults : List (String × α)}, (defaults.map Prod.fst).Nodup →
      ∀ history, Registry.Shows defaults history (Registry.after defaults history)) ∧
    ∀ {s : Session} {w : World}, Reachable (s, w) → (s.functions.defaults.map Prod.fst).Nodup →
      (∃ history, s.functions = Registry.after s.functions.defaults history) ∧
      ∀ {text : String} {mark : Mark}, s.treesOf text = .ok [.leaf mark .identifier] →
        ∀ fuel elapsed, (evaluate (fuel + 1) elapsed text [] (s, w)).1 =
          .ok ((s.functions.get? mark.text).getD .undefined) := by
  refine ⟨Registry.after_shows, ?_⟩
  intro s w reachable distinct
  obtain ⟨history, made⟩ := reachable.functions_history
  refine ⟨⟨history, made⟩, ?_⟩
  intro text mark parsed fuel elapsed
  have coherent := reachable.coherent
  have shows := Registry.after_shows distinct history
  rw [← made] at shows
  rw [coherent.evaluate_identifier parsed, coherent.get?_library shows.once shows.lists]

/-- Over two defaults, `b` comes in, is removed and comes in again behind `c`; and in a session
where `last` was bound to null, the name stands for null, and for the library's function again when
that is removed. -/
theorem registry_views_agree_uncovered :
    let history : List (Registry.Change Nat) :=
      [.insert "b" 20, .insert "c" 30, .remove "b", .insert "b" 21, .insert "c" 31]
    let bound : Session := (standard.insertFunction "last" .null).2
    (Registry.after [("a", 1), ("b", 2)] history).toList = [("c", 31), ("b", 21), ("a", 1)] ∧
    Registry.Shows [("a", 1), ("b", 2)] history (Registry.after [("a", 1), ("b", 2)] history) ∧
    (evaluate 1 0 "last" [] (bound, { now := ⟨0, 0, 0⟩ })).1 = .ok .null ∧
    (evaluate 1 0 "last" [] ((bound.removeFunction "last").2, { now := ⟨0, 0, 0⟩ })).1 =
      .ok (Builtin.toValue .last) := by
  intro history bound
  have started : Reachable (standard, { now := ⟨0, 0, 0⟩ }) :=
    .start (closed_empty _) ⟨Lexicon.standard_below, Builtin.library_below⟩
  have reached : Reachable ((Operation.insertFunction "last" .null).after
      (standard, { now := ⟨0, 0, 0⟩ })) :=
    .step started fun _ _ => rfl
  have uncovered : Reachable ((Operation.removeFunction "last").after
      (bound, { now := ⟨0, 0, 0⟩ })) :=
    .step reached trivial
  have distinct : (Builtin.library.map Prod.fst).Nodup := by decide +kernel
  have first : Lexicon.standard.recognize "last".toList =
      .ok (some ⟨.literal .identifier, "last", 4, 0⟩) := rfl
  have lexed : Lexicon.standard.tokenize "last" =
      .ok [⟨.literal .identifier, "last", 4, 0⟩] := by
    rw [Lexicon.tokenize, show "last".toList = ['l', 'a', 's', 't'] from rfl, Lexicon.scan,
      show Lexicon.standard.recognize ['l', 'a', 's', 't'] = _ from first]
    dsimp only
    rw [if_neg (by decide), show List.drop 4 ['l', 'a', 's', 't'] = [] from rfl, Lexicon.scan]
  have named (s : Session) (lexicon : s.lexicon = .standard) (limit : s.limit = 256) :
      s.treesOf "last" = .ok [.leaf ⟨"last", 0⟩ .identifier] := by
    rw [← lexicon] at lexed
    rw [treesOf_of_tokens lexed, limit]
    rfl
  refine ⟨rfl, registry_views_agree.1 (by decide) history, ?_, ?_⟩
  · exact (registry_views_agree.2 reached distinct).2 (named _ rfl rfl) 0 0
  · exact (registry_views_agree.2 uncovered distinct).2 (named _ rfl rfl) 0 0

end Bracket.Session
