import Bracket.Proofs.Session.Coherence

/-!
What a session remembers does not show. An evaluation afresh makes a scope for the library of its
own, so its levels are numbered otherwise; up to these numbers its answer is that of the session.
Main statement: after any operations, successful or failing, a session answers as if it remembered
nothing.
-/

namespace Bracket.Session

open Evaluator

variable {s : Session} {w : World} {text : String} {bindings : Table Value}

/-! ### Answers computed afresh -/

/-- The expressions of a text with their values, from the lexicon, the limit and the functions
alone: in a new scope over a new scope of the functions. -/
def afresh (fuel : Nat) (text : String) (bindings : Table Value) (s : Session) (w : World) :
    Except Stop (List (Node × Value)) :=
  match s.lexicon.tokenize text with
  | .error e => .error (.error e)
  | .ok tokens =>
    match Node.ofTokens s.limit tokens with
    | .error e => .error (.error e)
    | .ok nodes =>
      let (library, store) := w.store.newScope none
      let store := store.assignAll library s.functions.toList
      let (scope, store) := store.newScope (some library)
      let store := store.assignAll scope bindings
      (evaluateAll ⟨s.limit, w.hosts, w.now⟩ fuel scope nodes { store }).1.map nodes.zip

/-- Where the levels of an evaluation afresh are found in one over a library that is there already:
the new scope of the functions is that of the library, and all later levels come one earlier. -/
def share (size library : Nat) (l : Nat) : Nat :=
  if l < size then l else if l = size then library else l - 1

/-- The renaming from an evaluation afresh to that of the session. -/
def sharing (s : Session) (w : World) : Nat → Nat :=
  match s.library with
  | some library => share w.store.levels.size library.level
  | none => id

theorem afresh_eq (fuel : Nat) (text : String) (bindings : Table Value) (s : Session) (w : World) :
    afresh fuel text bindings s w = match s.treesOf text with
      | .error e => .error (.error e)
      | .ok nodes =>
        (evaluateAll (setting (s, w)) fuel (innerScope { s with library := none } w) nodes
          { store := innerStore { s with library := none } w bindings }).1.map nodes.zip := by
  unfold afresh
  cases lexed : s.lexicon.tokenize text with
  | error e => rw [treesOf_of_error lexed]
  | ok tokens =>
    rw [treesOf_of_tokens lexed]
    dsimp only
    cases Node.ofTokens s.limit tokens <;> rfl

/-! ### Evaluations with and without a library -/

theorem share_fixes (size library : Nat) : Fixes size (share size library) :=
  fun _ low => if_pos low

theorem share_size (size library : Nat) : share size library size = library := by
  simp [share]

theorem share_later {size l : Nat} (library : Nat) (later : size < l) :
    share size library l = l - 1 := by
  rw [share, if_neg (Nat.not_lt.mpr (Nat.le_of_lt later)), if_neg (Nat.ne_of_gt later)]

/-- The renaming from an evaluation afresh; the two levels that are made before it starts are not
written to in common. -/
def shareRenaming {size library : Nat} (made : library < size) (bound : Nat) : Renaming where
  level := share size library
  base := size + 1
  bound := bound
  exclusive {l m} low _ same := by
    rw [share_later library low] at same
    unfold share at same
    split at same
    · omega
    · split at same <;> omega

/-- The store of an evaluation afresh is mirrored by that of the session. -/
theorem Coherent.share_mirrors (coherent : Coherent s w) {library : Scope}
    (known : s.library = some library) (below : bindings.Below w.store.levels.size)
    (made : library.level < w.store.levels.size) (bound : Nat) :
    (innerStore { s with library := none } w bindings).Mirrors (shareRenaming made bound)
      (innerStore s w bindings) := by
  have fixes := share_fixes w.store.levels.size library.level
  have shared : innerStore s w bindings = w.store.extended (some library) bindings := by
    rw [innerStore, libraryIn_of_known known]
  have own : innerStore { s with library := none } w bindings =
      (w.store.extended none s.functions.toList).extended (some (w.store.newScope none).1)
        bindings := rfl
  obtain ⟨-, -, locals⟩ := coherent.library library known
  rw [shared, own]
  refine ⟨by simp, ?_, ?_, ?_, ?_⟩
  · simp [shareRenaming]
  · intro k _
    show share _ _ _ = _
    rw [share_later _ (by simp; omega)]
    simp
  · intro l low _
    show _ ↔ share _ _ l < _
    rw [share_later _ low]
    simp only [Store.size_extended]
    simp only [shareRenaming] at low
    omega
  · intro l
    show (w.store.extended (some library) bindings).locals (share _ _ l) =
      Table.mapValues (Value.rename (share _ _)) _
    simp only [Store.locals_extended, Store.size_extended]
    rcases Nat.lt_trichotomy l w.store.levels.size with old | same | later
    · rw [fixes l old, if_neg (Nat.ne_of_lt old), if_neg (by omega), if_neg (by omega),
        (coherent.closed.locals l).mapValues_rename fixes]
    · subst same
      rw [share_size, if_neg (Nat.ne_of_lt made), if_neg (by omega), if_pos rfl, locals]
      have own := Table.Below.ofEntries coherent.functions.toList
      exact (own.mapValues_rename fixes).symm
    · rw [share_later _ later]
      by_cases host : l = w.store.levels.size + 1
      · rw [if_pos (by omega), if_pos host, below.ofEntries.mapValues_rename fixes]
      · rw [if_neg (by omega), if_neg host, if_neg (by omega),
          Store.locals_of_size_le _ (by omega), Store.locals_of_size_le _ (by omega)]
        rfl

/-- Expressions have the same values over a library that is there already as afresh, up to the
numbers of levels. -/
theorem Coherent.evaluateAll_shared (coherent : Coherent s w) {library : Scope}
    (known : s.library = some library) (below : bindings.Below w.store.levels.size)
    {nodes : List Node} (trees : ∀ n ∈ nodes, n.Below w.store.levels.size) (fuel : Nat) :
    (evaluateAll (setting (s, w)) fuel (innerScope s w) nodes
        { store := innerStore s w bindings }).1 =
      (evaluateAll (setting (s, w)) fuel (innerScope { s with library := none } w) nodes
        { store := innerStore { s with library := none } w bindings }).1.map
          (List.map (Value.rename (share w.store.levels.size library.level))) := by
  obtain ⟨made, outer, -⟩ := coherent.library library known
  generalize bounded : (evaluateAll (setting (s, w)) fuel (innerScope { s with library := none } w)
    nodes { store := innerStore { s with library := none } w bindings }).2.store.levels.size = bound
  have fixes : Fixes w.store.levels.size (shareRenaming made bound).level := share_fixes _ _
  have start : State.Mirrors (shareRenaming made bound)
      { store := innerStore { s with library := none } w bindings }
      { store := innerStore s w bindings } :=
    ⟨coherent.share_mirrors known below made bound, rfl⟩
  have mirrored := evaluateAll_mirrored
    (fun f member => coherent.closed.hosts f member _ fixes) fuel
    (innerScope { s with library := none } w) nodes start (Nat.le_of_eq bounded)
  have same : nodes.map (shareRenaming made bound).node = nodes :=
    (List.map_congr_left fun n member => trees n member _ fixes).trans (List.map_id' nodes)
  have place : (shareRenaming made bound).scope (innerScope { s with library := none } w) =
      innerScope s w := by
    have own : innerScope { s with library := none } w =
        ⟨w.store.levels.size + 1, [w.store.levels.size]⟩ := by
      simp [innerScope, Session.libraryIn, Store.newScope]
    have shared : innerScope s w = ⟨w.store.levels.size, [library.level]⟩ := by
      simp [innerScope, libraryIn_of_known known, Store.newScope, outer]
    rw [own, shared]
    simp [shareRenaming, Scope.rename, share_size, share_later]
  rw [place, same] at mirrored
  exact mirrored.result

/-! ### Operations -/

/-- What can be done with a session, and the passing of time. -/
inductive Operation where
  | tokenize (text : String)
  | parse (tokens : List Token)
  | evaluate (fuel elapsed : Nat) (text : String) (bindings : Table Value)
  | evaluateNodes (fuel elapsed : Nat) (text : String) (bindings : Table Value)
  | callWith (fuel : Nat) (f : Value) (values : List Value)
  | registerFunction (name : String) (f : HostFunction) (properties : Table Value)
  | insertFunction (name : String) (f : Value)
  | removeFunction (name : String)
  | insertKeyword (name : String) (k : KeywordRecognizer)
  | removeKeyword (name : String)
  | insertRecognizer (tier : Tier) (name : String) (r : Recognizer)
  | removeRecognizer (tier : Tier) (name : String)
  | setLimit (limit : Nat)
  | setClock (now : Date)

namespace Operation

/-- The session and the world after an operation, successful or failing. -/
def after : Operation → Session × World → Session × World
  | .tokenize text, x => (Session.tokenize text x).2
  | .parse tokens, x => (Session.parse tokens x).2
  | .evaluate fuel elapsed text bindings, x => (Session.evaluate fuel elapsed text bindings x).2
  | .evaluateNodes fuel elapsed text bindings, x =>
    (Session.evaluateNodes fuel elapsed text bindings x).2
  | .callWith fuel f values, x => (Session.callWith fuel f values x).2
  | .registerFunction name f properties, (s, w) =>
    let (v, w) := w.hostFunction name f properties
    ((s.insertFunction name v).2, w)
  | .insertFunction name f, (s, w) => ((s.insertFunction name f).2, w)
  | .removeFunction name, (s, w) => ((s.removeFunction name).2, w)
  | .insertKeyword name k, (s, w) => ((s.insertKeyword name k).2, w)
  | .removeKeyword name, (s, w) => ((s.removeKeyword name).2, w)
  | .insertRecognizer tier name r, (s, w) => ((s.insertRecognizer tier name r).2, w)
  | .removeRecognizer tier name, (s, w) => ((s.removeRecognizer tier name).2, w)
  | .setLimit limit, (s, w) => (s.setLimit limit, w)
  | .setClock now, (s, w) => (s, { w with now })

/-- What the host hands to a session holds only scopes that exist, and the functions that it
registers keep no state and write at most to the scope that they are handed. -/
def IsFair (w : World) : Operation → Prop
  | .evaluate _ _ _ bindings => bindings.Below w.store.levels.size
  | .evaluateNodes _ _ _ bindings => bindings.Below w.store.levels.size
  | .callWith _ f values =>
    f.Below w.store.levels.size ∧ ∀ v ∈ values, v.Below w.store.levels.size
  | .registerFunction _ f properties =>
    HostFunction.Uniform w.store.levels.size f ∧ properties.Below w.store.levels.size
  | .insertFunction _ f => f.Below w.store.levels.size
  | .insertKeyword _ k => KeywordRecognizer.Below w.store.levels.size k
  | .insertRecognizer _ _ r => Recognizer.Below w.store.levels.size r
  | _ => True

end Operation

/-- Every operation keeps the invariant. -/
theorem Coherent.after (coherent : Coherent s w) {op : Operation} (fair : op.IsFair w) :
    Coherent (op.after (s, w)).1 (op.after (s, w)).2 := by
  cases op with
  | tokenize text =>
    obtain ⟨known, tokenized, coherent'⟩ := coherent.tokenize_eq text
    rw [Operation.after, tokenized]
    exact coherent'
  | parse tokens =>
    have same : (Session.parse tokens (s, w)).2 = (s, w) := by
      unfold Session.parse
      dsimp only
      split <;> rfl
    rw [Operation.after, same]
    exact coherent
  | evaluate fuel elapsed text bindings =>
    rw [Operation.after, evaluate_snd]
    exact coherent.evaluateNodes fuel elapsed text fair
  | evaluateNodes fuel elapsed text bindings => exact coherent.evaluateNodes fuel elapsed text fair
  | callWith fuel f values => exact coherent.callWith fuel fair.1 fair.2
  | registerFunction name f properties =>
    obtain ⟨coherent', below⟩ := coherent.hostFunction name fair.1 fair.2
    exact coherent'.withFunctions (coherent'.functions.insert name below)
  | insertFunction name f => exact coherent.withFunctions (coherent.functions.insert name fair)
  | removeFunction name => exact coherent.withFunctions (coherent.functions.remove name)
  | insertKeyword name k =>
    have keywords := coherent.lexicon.keywords.insert name fair
    exact coherent.forgetTexts (coherent.lexicon.withKeywords keywords) s.limit
  | removeKeyword name =>
    have keywords := coherent.lexicon.keywords.remove name
    exact coherent.forgetTexts (coherent.lexicon.withKeywords keywords) s.limit
  | insertRecognizer tier name r =>
    have entries := (coherent.lexicon.tier tier).insert name fair
    exact coherent.forgetTexts (coherent.lexicon.setTier tier entries) s.limit
  | removeRecognizer tier name =>
    have entries := (coherent.lexicon.tier tier).remove name
    exact coherent.forgetTexts (coherent.lexicon.setTier tier entries) s.limit
  | setLimit limit => exact coherent.forgetTexts coherent.lexicon limit
  | setClock now =>
    exact { coherent with closed := ⟨coherent.closed.locals, coherent.closed.hosts⟩ }

/-- A session and its world after any operations on a new session. -/
inductive Reachable : Session × World → Prop
  | start {d : Defaults} {w : World} (closed : w.Closed)
      (below : d.Below w.store.levels.size) : Reachable (ofDefaults d, w)
  | step {x : Session × World} {op : Operation} (before : Reachable x) (fair : op.IsFair x.2) :
      Reachable (op.after x)

theorem Reachable.coherent {x : Session × World} (reachable : Reachable x) :
    Coherent x.1 x.2 := by
  induction reachable with
  | start closed below =>
    exact
      { closed
        lexicon := below.lexicon
        functions := ⟨below.functions, fun _ member => absurd member List.not_mem_nil⟩
        tokens := fun _ _ known => nomatch known
        trees := fun _ _ known => nomatch known
        library := fun _ known => nomatch known }
  | step _ fair ih => exact ih.after fair

/-! ### Answers -/

/-- Expressions with renamed values. -/
def renameAnswers (ρ : Nat → Nat) (evaluated : List (Node × Value)) : List (Node × Value) :=
  evaluated.map fun (n, v) => (n, v.rename ρ)

theorem zip_rename (ρ : Nat → Nat) (nodes : List Node) (values : List Value) :
    nodes.zip (values.map (Value.rename ρ)) = renameAnswers ρ (nodes.zip values) := by
  rw [List.zip_map_right]
  rfl

theorem renameAnswers_id (evaluated : List (Node × Value)) :
    renameAnswers id evaluated = evaluated := by
  have same : ∀ entry ∈ evaluated, (entry.1, entry.2.rename id) = entry := fun entry _ => by
    rw [Value.rename_id]
  exact (List.map_congr_left same).trans (List.map_id' evaluated)

/-- The evaluation of a text has the answer that it has afresh. -/
theorem Coherent.compute_afresh (coherent : Coherent s w)
    (below : bindings.Below w.store.levels.size) (fuel : Nat) (text : String) :
    (Session.compute fuel text bindings (s, w)).1 =
      (afresh fuel text bindings s w).map (renameAnswers (sharing s w)) := by
  obtain ⟨known, trees, -, computed⟩ := coherent.compute_eq fuel text bindings
  rw [computed, afresh_eq]
  cases parsed : s.treesOf text with
  | error e => rfl
  | ok nodes =>
    dsimp only
    cases library : s.library with
    | none =>
      have same : { s with library := none } = s := by rw [← library]
      have nothing : renameAnswers (sharing s w) = id := by
        rw [sharing, library]
        exact funext renameAnswers_id
      rw [same, nothing, Except.map_id]
      rfl
    | some scope =>
      have shared := coherent.evaluateAll_shared library below (coherent.treesOf_below parsed) fuel
      rw [shared, sharing, library]
      cases (evaluateAll (setting (s, w)) fuel (innerScope { s with library := none } w) nodes
        { store := innerStore { s with library := none } w bindings }).1 with
      | error stop => rfl
      | ok values => exact congrArg Except.ok (zip_rename _ nodes values)

theorem lastValue_rename (ρ : Nat → Nat) (evaluated : List (Node × Value)) :
    lastValue (renameAnswers ρ evaluated) = (lastValue evaluated).rename ρ := by
  unfold lastValue renameAnswers
  rw [List.getLast?_map]
  cases evaluated.getLast? <;> rfl

/-- After any operations on a session, successful or failing, the tokens of every text are those
that its lexicon gives, and the values of every text are those that an evaluation afresh gives from
its lexicon, limit and functions, up to the numbers of levels. -/
theorem answers_afresh {s : Session} {w : World} (reachable : Reachable (s, w))
    {bindings : Table Value} (below : bindings.Below w.store.levels.size) (text : String)
    (fuel elapsed : Nat) :
    (tokenize text (s, w)).1 = (s.lexicon.tokenize text).mapError .error ∧
    (evaluateNodes fuel elapsed text bindings (s, w)).1 =
      (afresh fuel text bindings s w).map (renameAnswers (sharing s w)) ∧
    (evaluate fuel elapsed text bindings (s, w)).1 =
      (afresh fuel text bindings s w).map fun evaluated =>
        (lastValue evaluated).rename (sharing s w) := by
  have coherent := reachable.coherent
  have computed := coherent.compute_afresh below fuel text
  refine ⟨?_, ?_, ?_⟩
  · obtain ⟨known, tokenized, -⟩ := coherent.tokenize_eq text
    rw [tokenized]
  · rw [evaluateNodes_fst, computed]
  · rw [evaluate_fst, computed]
    cases afresh fuel text bindings s w with
    | error stop => rfl
    | ok evaluated => exact congrArg Except.ok (lastValue_rename _ evaluated)

/-- A function that answers with its first argument keeps no state. -/
theorem argument_uniform (n : Nat) : HostFunction.Uniform n fun call => Routine.argument call 0 :=
  fun _ _ call _ => Routine.argument_renames call 0

/-- A world with nothing in it. -/
theorem closed_empty (now : Date) : World.Closed { now } where
  locals l := by
    have empty : (({ now } : World).store.locals l) = [] :=
      Store.locals_of_size_le _ (Nat.zero_le l)
    rw [empty]
    exact fun _ member => absurd member List.not_mem_nil
  hosts _ member := absurd member List.not_mem_nil

/-- A session with a function of the host that has evaluated a text, so that it remembers the
text and its library. -/
def warm : Session × World :=
  (Operation.evaluate 5 0 "(same 1)" []).after
    ((Operation.registerFunction "same" (fun call => Routine.argument call 0) []).after
      (standard, { now := ⟨0, 0, 0⟩ }))

theorem warm_reachable : Reachable warm := by
  have started : Reachable (standard, { now := ⟨0, 0, 0⟩ }) :=
    .start (closed_empty _) ⟨Lexicon.standard_below, Builtin.library_below⟩
  refine .step (.step started ?_) ?_
  · exact ⟨argument_uniform _, fun _ member => absurd member List.not_mem_nil⟩
  · exact fun _ member => absurd member List.not_mem_nil

/-- A text that is remembered has the value that it has afresh. -/
theorem answers_afresh_warm :
    warm.1.library.isSome = true ∧
    (evaluate 5 0 "(same 1)" [] warm).1 = (afresh 5 "(same 1)" [] warm.1 warm.2).map
      fun evaluated => (lastValue evaluated).rename (sharing warm.1 warm.2) := by
  refine ⟨by decide +kernel, ?_⟩
  have answers := answers_afresh (s := warm.1) (w := warm.2) warm_reachable
    (fun _ member => absurd member List.not_mem_nil) "(same 1)" 5 0
  exact answers.2.2

end Bracket.Session
