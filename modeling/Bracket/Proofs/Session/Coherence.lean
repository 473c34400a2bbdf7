import Bracket.Proofs.Renaming.Evaluator
import Bracket.Proofs.Renaming.Support
import Bracket.Proofs.Session.Opening

/-!
The invariant of sessions: what a session remembers is what it would compute again, and nothing
holds a level of the store that is not made yet. Main statement: every operation keeps the
invariant, whether it succeeds or fails.
-/

namespace Bracket

namespace Store

/-- The store with a new scope that holds the given variables. -/
def extended (st : Store) (outer : Option Scope) (entries : List (String × Value)) : Store :=
  (st.newScope outer).2.assignAll (st.newScope outer).1 entries

theorem size_assignAll (st : Store) (scope : Scope) (entries : List (String × Value)) :
    (st.assignAll scope entries).levels.size = st.levels.size := by
  induction entries generalizing st with
  | nil => rfl
  | cons entry rest ih =>
    refine (ih _).trans ?_
    simp [assign]

theorem nextId_assignAll (st : Store) (scope : Scope) (entries : List (String × Value)) :
    (st.assignAll scope entries).nextId = st.nextId := by
  induction entries generalizing st with
  | nil => rfl
  | cons entry rest ih => exact ih _

theorem locals_assignAll (st : Store) {scope : Scope} (made : scope.level < st.levels.size)
    (entries : List (String × Value)) (l : Nat) :
    (st.assignAll scope entries).locals l =
      if l = scope.level then (st.locals l).insertAll entries else st.locals l := by
  induction entries generalizing st with
  | nil => simp [assignAll, Table.insertAll]
  | cons entry rest ih =>
    have made' : scope.level < (st.assign scope entry.1 entry.2).levels.size := by
      simpa [assign] using made
    refine (ih _ made').trans ?_
    by_cases same : l = scope.level
    · subst same
      rw [if_pos rfl, if_pos rfl, locals_assign_self, if_pos made]
      rfl
    · rw [if_neg same, if_neg same, locals_assign_of_ne _ _ _ _ (Ne.symm same)]

@[simp] theorem size_extended (st : Store) (outer : Option Scope)
    (entries : List (String × Value)) :
    (st.extended outer entries).levels.size = st.levels.size + 1 := by
  rw [extended, size_assignAll]
  simp [newScope]

@[simp] theorem nextId_extended (st : Store) (outer : Option Scope)
    (entries : List (String × Value)) : (st.extended outer entries).nextId = st.nextId :=
  nextId_assignAll _ _ entries

/-- The new level has the variables, and the others are as before. -/
theorem locals_extended (st : Store) (outer : Option Scope) (entries : List (String × Value))
    (l : Nat) :
    (st.extended outer entries).locals l =
      if l = st.levels.size then Table.ofEntries entries else st.locals l := by
  have made : (st.newScope outer).1.level < (st.newScope outer).2.levels.size := by
    simp [newScope]
  rw [extended, locals_assignAll _ made, locals_newScope_eq]
  have level : (st.newScope outer).1.level = st.levels.size := rfl
  have empty : st.locals st.levels.size = [] := by simp [locals]
  by_cases same : l = st.levels.size
  · subst same
    rw [level, if_pos rfl, if_pos rfl, empty]
    rfl
  · rw [level, if_neg same, if_neg same]

/-- A level that is not made has no variables. -/
theorem locals_of_size_le (st : Store) {l : Nat} (le : st.levels.size ≤ l) : st.locals l = [] := by
  simp [locals, Array.getD_eq_getD_getElem?, Array.getElem?_eq_none le]

end Store

theorem Table.Below.insertAll {n : Nat} {t : Table Value} (below : t.Below n)
    {entries : List (String × Value)} (added : Table.Below n entries) :
    (t.insertAll entries).Below n := by
  induction entries generalizing t with
  | nil => exact below
  | cons entry rest ih =>
    refine ih (fun other member => ?_) fun other member =>
      added other (List.mem_cons_of_mem _ member)
    rcases Registry.mem_insert member with old | new
    · exact below other old
    · exact new ▸ added entry List.mem_cons_self

theorem Table.Below.ofEntries {n : Nat} {entries : List (String × Value)}
    (below : Table.Below n entries) : (Table.ofEntries entries).Below n :=
  Table.Below.insertAll (t := []) (fun _ member => absurd member List.not_mem_nil) below

theorem Lexicon.Below.withKeywords {n : Nat} {lexicon : Lexicon} (below : lexicon.Below n)
    {keywords : Registry KeywordRecognizer} (all : keywords.All (KeywordRecognizer.Below n)) :
    Lexicon.Below n { lexicon with keywords } :=
  ⟨below.nests, below.primitives, below.identifiers, all⟩

theorem Lexicon.Below.setTier {n : Nat} {lexicon : Lexicon} (below : lexicon.Below n) (tier : Tier)
    {r : Registry Recognizer} (all : r.All (Recognizer.Below n)) :
    (lexicon.setTier tier r).Below n := by
  cases tier with
  | nests => exact { below with nests := all }
  | primitives => exact { below with primitives := all }
  | identifiers => exact { below with identifiers := all }

theorem Lexicon.Below.tier {n : Nat} {lexicon : Lexicon} (below : lexicon.Below n) (tier : Tier) :
    (lexicon.tier tier).All (Recognizer.Below n) := by
  cases tier with
  | nests => exact below.nests
  | primitives => exact below.primitives
  | identifiers => exact below.identifiers

/-- The recognizers, keywords and functions hold no level from `n` on. -/
structure Defaults.Below (n : Nat) (d : Defaults) : Prop where
  lexicon : (Session.ofDefaults d).lexicon.Below n
  functions : Table.Below n d.functions

/-! ### Nothing holds a level that is not made yet -/

/-- A function of the host that keeps no state and writes at most to the scope that it is handed,
and to scopes that it makes: it goes on in the same way however the levels are numbered that it
cannot hold, which are those from `n` on. -/
def HostFunction.Uniform (n : Nat) (f : HostFunction) : Prop :=
  ∀ ρ : Renaming, Fixes n ρ.level → Routine.Respects ρ f

theorem HostFunction.Uniform.mono {n m : Nat} {f : HostFunction} (uniform : f.Uniform n)
    (le : n ≤ m) : HostFunction.Uniform m f :=
  fun ρ fixes => uniform ρ (fixes.mono le)

/-- The variables of the store and the functions of the host hold only levels that are made. -/
structure World.Closed (w : World) : Prop where
  locals : ∀ l, (w.store.locals l).Below w.store.levels.size
  hosts : ∀ f ∈ w.hosts, HostFunction.Uniform w.store.levels.size f

/-- A new scope with variables keeps the world closed. -/
theorem World.Closed.extended {w : World} (closed : w.Closed) (outer : Option Scope)
    {entries : List (String × Value)} (below : Table.Below w.store.levels.size entries) :
    World.Closed { w with store := w.store.extended outer entries } where
  locals l := by
    simp only [Store.size_extended, Store.locals_extended]
    split
    · exact below.ofEntries.mono (Nat.le_succ _)
    · exact (closed.locals l).mono (Nat.le_succ _)
  hosts f member := by
    simp only [Store.size_extended]
    exact (closed.hosts f member).mono (Nat.le_succ _)

namespace Evaluator

/-- The renaming that leaves the levels below `bound` alone and moves all others. -/
def bumping (base bound : Nat) : Renaming where
  level := bump bound
  base := base
  bound := bound
  exclusive {l m} _ high same := by
    rw [bump_fixes bound l high, bump] at same
    split at same <;> omega

variable {base bound : Nat} {s : State}

/-- A store that holds only its own levels mirrors itself. -/
theorem bumping_mirrors (base_le : base ≤ s.store.levels.size)
    (size_le : s.store.levels.size ≤ bound)
    (below : ∀ l, (s.store.locals l).Below s.store.levels.size) :
    s.Mirrors (bumping base bound) s where
  depth := rfl
  store :=
    { nextId := rfl
      base_le := base_le
      fresh := fun _ within => bump_fixes bound _ within
      made_iff := fun l _ high => by
        show _ ↔ bump bound l < _
        rw [bump_fixes bound l high]
      locals := fun l => by
        have fixed := (below l).mapValues_rename ((bump_fixes bound).mono size_le)
        refine Eq.trans ?_ fixed.symm
        by_cases low : l < bound
        · exact congrArg s.store.locals (bump_fixes bound l low)
        · have later : bump bound l = l + 1 := if_neg low
          show s.store.locals (bump bound l) = _
          rw [later, Store.locals_of_size_le _ (by omega), Store.locals_of_size_le _ (by omega)] }

/-- A store that mirrors itself holds only levels below the bound. -/
theorem below_of_mirrors (mirrors : s.Mirrors (bumping base bound) s)
    (size_le : s.store.levels.size ≤ bound) (l : Nat) : (s.store.locals l).Below bound := by
  by_cases low : l < bound
  · have same := mirrors.store.locals l
    have level : (bumping base bound).level l = l := bump_fixes bound l low
    rw [level] at same
    intro entry member
    apply Value.below_of_bump
    have each := List.map_inj_left.mp ((List.map_id' _).trans same).symm entry member
    exact congrArg Prod.snd each
  · rw [Store.locals_of_size_le _ (by omega)]
    exact fun _ member => absurd member List.not_mem_nil

/-- What is mirrored by itself ends in a store that holds only its own levels. -/
theorem Mirrored.below {α : Type} {f : α → α} {x : Except Stop α × State}
    (mirrored : Mirrored (bumping base x.2.store.levels.size) f s x x) (l : Nat) :
    (x.2.store.locals l).Below x.2.store.levels.size :=
  below_of_mirrors mirrored.state (Nat.le_refl _) l

variable {setting : Setting}

theorem evaluateAll_size_le (setting : Setting) (fuel : Nat) (scope : Scope) (nodes : List Node)
    (s : State) :
    s.store.levels.size ≤ (evaluateAll setting fuel scope nodes s).2.store.levels.size := by
  rw [← Plan.run_ofNodes_done]
  exact Plan.run_size_le (perform_size_le setting fuel) _ s

/-- Expressions that hold only levels that are made leave such a store behind, and write to no
level below the base. -/
theorem evaluateAll_closed (base_le : base ≤ s.store.levels.size)
    (below : ∀ l, (s.store.locals l).Below s.store.levels.size)
    (uniform : ∀ f ∈ setting.hosts, HostFunction.Uniform s.store.levels.size f) {scope : Scope}
    (own : ∀ ρ, Fixes s.store.levels.size ρ → scope.rename ρ = scope) {nodes : List Node}
    (trees : ∀ n ∈ nodes, n.Below s.store.levels.size) (fuel : Nat) :
    Mirrored (bumping base (evaluateAll setting fuel scope nodes s).2.store.levels.size)
      (List.map (bumping base (evaluateAll setting fuel scope nodes s).2.store.levels.size).value) s
      (evaluateAll setting fuel scope nodes s) (evaluateAll setting fuel scope nodes s) := by
  have size_le := evaluateAll_size_le setting fuel scope nodes s
  generalize bound : (evaluateAll setting fuel scope nodes s).2.store.levels.size = n at *
  have fixes : Fixes s.store.levels.size (bumping base n).level := (bump_fixes n).mono size_le
  have mirrored := evaluateAll_mirrored (fun f member => uniform f member _ fixes) fuel scope nodes
    (bumping_mirrors base_le size_le below) (Nat.le_of_eq bound)
  have place : (bumping base n).scope scope = scope := own _ fixes
  have same : nodes.map (bumping base n).node = nodes :=
    (List.map_congr_left fun node member => trees node member _ fixes).trans (List.map_id' nodes)
  rwa [place, same] at mirrored

/-- A task that holds only levels that are made leaves such a store behind, and writes to no level
below the base. -/
theorem perform_closed (base_le : base ≤ s.store.levels.size)
    (below : ∀ l, (s.store.locals l).Below s.store.levels.size)
    (uniform : ∀ f ∈ setting.hosts, HostFunction.Uniform s.store.levels.size f) {t : Task}
    (writable : ∀ n, s.store.levels.size ≤ n → t.Writable (bumping base n))
    (own : ∀ n, s.store.levels.size ≤ n → t.rename (bumping base n) = t) (fuel : Nat) :
    Mirrored (bumping base (perform setting fuel t s).2.store.levels.size)
      (bumping base (perform setting fuel t s).2.store.levels.size).value s
      (perform setting fuel t s) (perform setting fuel t s) := by
  have size_le := perform_size_le setting fuel t s
  generalize bound : (perform setting fuel t s).2.store.levels.size = n at *
  have fixes : Fixes s.store.levels.size (bumping base n).level := (bump_fixes n).mono size_le
  have mirrored := perform_mirrored (fun f member => uniform f member _ fixes) fuel
    (writable n size_le) (bumping_mirrors base_le size_le below) (Nat.le_of_eq bound)
  rwa [own n size_le] at mirrored

end Evaluator

namespace Session

/-! ### What is remembered is what would be computed -/

/-- The trees of a text by the lexicon and the limit alone. -/
def treesOf (s : Session) (text : String) : Except Error (List Node) := do
  Node.ofTokens s.limit (← s.lexicon.tokenize text)

theorem treesOf_of_error {s : Session} {text : String} {e : Error}
    (failed : s.lexicon.tokenize text = .error e) : s.treesOf text = .error e := by
  rw [treesOf, failed]
  rfl

theorem treesOf_of_tokens {s : Session} {text : String} {tokens : List Token}
    (tokenized : s.lexicon.tokenize text = .ok tokens) :
    s.treesOf text = Node.ofTokens s.limit tokens := by
  rw [treesOf, tokenized]
  rfl

/-- Nothing that the session remembers is out of date, and nothing in its world holds a level that
is not made yet. -/
structure Coherent (s : Session) (w : World) : Prop where
  closed : w.Closed
  lexicon : s.lexicon.Below w.store.levels.size
  functions : s.functions.All (Value.Below w.store.levels.size)
  tokens : ∀ text tokens, s.tokens.get? text = some tokens → s.lexicon.tokenize text = .ok tokens
  trees : ∀ text nodes, s.trees.get? text = some nodes → s.treesOf text = .ok nodes
  library : ∀ scope, s.library = some scope → scope.level < w.store.levels.size ∧
    scope.outer = [] ∧ w.store.locals scope.level = Table.ofEntries s.functions.toList

variable {s : Session} {w : World} {text : String}

/-- A table that is right stays right when a right entry is written. -/
theorem right_of_insert {α : Type} {t : Table α} {name : String} {a : α} {P : String → α → Prop}
    (right : ∀ key b, t.get? key = some b → P key b) (new : P name a) (key : String) (b : α)
    (found : (t.insert name a).get? key = some b) : P key b := by
  by_cases same : name = key
  · subst same
    rw [Table.get?_insert_self] at found
    exact Option.some.inj found ▸ new
  · rw [Table.get?_insert_of_ne _ _ same] at found
    exact right key b found

/-- The tokens of a text are those that the lexicon gives. -/
theorem Coherent.tokenize_eq (coherent : Coherent s w) (text : String) :
    ∃ known, tokenize text (s, w) =
        ((s.lexicon.tokenize text).mapError .error, { s with tokens := known }, w) ∧
      Coherent { s with tokens := known } w := by
  cases found : s.tokens.get? text with
  | some tokens =>
    refine ⟨s.tokens, ?_, coherent⟩
    rw [tokenize_hit w found, coherent.tokens text tokens found]
    rfl
  | none =>
    rw [tokenize_miss w found]
    cases tokenized : s.lexicon.tokenize text with
    | error e => exact ⟨s.tokens, rfl, coherent⟩
    | ok tokens =>
      refine ⟨s.tokens.insert text tokens, rfl, { coherent with tokens := ?_ }⟩
      exact right_of_insert coherent.tokens tokenized

/-- The trees of a text are those that the lexicon and the limit give. -/
theorem Coherent.tree_eq (coherent : Coherent s w) (text : String) :
    ∃ known trees, tree text (s, w) =
        ((s.treesOf text).mapError .error, { s with tokens := known, trees := trees }, w) ∧
      Coherent { s with tokens := known, trees := trees } w := by
  cases found : s.trees.get? text with
  | some nodes =>
    refine ⟨s.tokens, s.trees, ?_, coherent⟩
    rw [tree_hit w found, coherent.trees text nodes found]
    rfl
  | none =>
    obtain ⟨known, tokenized, coherent'⟩ := coherent.tokenize_eq text
    rw [tree_miss w found, tokenized]
    cases lexed : s.lexicon.tokenize text with
    | error e =>
      refine ⟨known, s.trees, ?_, coherent'⟩
      rw [treesOf_of_error lexed]
      rfl
    | ok tokens =>
      have same := treesOf_of_tokens lexed
      have lifted : (Except.ok tokens : Except Error _).mapError Stop.error = .ok tokens := rfl
      rw [same]
      simp only [lifted]
      cases parsed : Node.ofTokens s.limit tokens with
      | error e => exact ⟨known, s.trees, rfl, coherent'⟩
      | ok nodes =>
        refine ⟨known, s.trees.insert text nodes, rfl, { coherent' with trees := ?_ }⟩
        exact right_of_insert coherent'.trees (same.trans parsed)

/-- The trees of a text hold only levels that are made. -/
theorem Coherent.treesOf_below (coherent : Coherent s w) {nodes : List Node}
    (parsed : s.treesOf text = .ok nodes) : ∀ n ∈ nodes, n.Below w.store.levels.size := by
  cases lexed : s.lexicon.tokenize text with
  | error e =>
    rw [treesOf_of_error lexed] at parsed
    cases parsed
  | ok tokens =>
    rw [treesOf_of_tokens lexed] at parsed
    exact Node.ofTokens_below parsed (coherent.lexicon.tokenize lexed)

/-! ### Changes of the store -/

/-- The store may grow if the levels that were there are kept. -/
theorem Coherent.withStore (coherent : Coherent s w) {st : Store}
    (size_le : w.store.levels.size ≤ st.levels.size)
    (below : ∀ l, (st.locals l).Below st.levels.size)
    (kept : ∀ l < w.store.levels.size, st.locals l = w.store.locals l) :
    Coherent s { w with store := st } where
  closed := ⟨below, fun f member => (coherent.closed.hosts f member).mono size_le⟩
  lexicon := coherent.lexicon.mono size_le
  functions := coherent.functions.imp fun v below => below.mono size_le
  tokens := coherent.tokens
  trees := coherent.trees
  library scope known := by
    obtain ⟨made, outer, locals⟩ := coherent.library scope known
    exact ⟨Nat.lt_of_lt_of_le made size_le, outer, (kept _ made).trans locals⟩

theorem Coherent.extended (coherent : Coherent s w) (outer : Option Scope)
    {entries : List (String × Value)} (below : Table.Below w.store.levels.size entries) :
    Coherent s { w with store := w.store.extended outer entries } := by
  refine coherent.withStore (by simp) (coherent.closed.extended outer below).locals ?_
  intro l made
  rw [Store.locals_extended, if_neg (Nat.ne_of_lt made)]

/-- The scope of the library and the world with it. -/
def libraryIn (s : Session) (w : World) : Scope × World :=
  match s.library with
  | some library => (library, w)
  | none =>
    ((w.store.newScope none).1, { w with store := w.store.extended none s.functions.toList })

theorem libraryIn_of_known {library : Scope} (known : s.library = some library) :
    libraryIn s w = (library, w) := by
  simp only [libraryIn, known]

theorem libraryScope_eq (s : Session) (w : World) :
    libraryScope (s, w) =
      (.ok (libraryIn s w).1, { s with library := some (libraryIn s w).1 }, (libraryIn s w).2) := by
  unfold libraryIn
  cases known : s.library with
  | none => exact libraryScope_miss w known
  | some library =>
    rw [libraryScope_hit w known]
    dsimp only
    rw [← known]

/-- The scope inside the library that a text is evaluated in. -/
def innerScope (s : Session) (w : World) : Scope :=
  ((libraryIn s w).2.store.newScope (some (libraryIn s w).1)).1

/-- The store with the library and, inside it, the variables of the host. -/
def innerStore (s : Session) (w : World) (bindings : Table Value) : Store :=
  (libraryIn s w).2.store.extended (some (libraryIn s w).1) bindings

theorem scopeWith_eq (s : Session) (w : World) (bindings : Table Value) :
    scopeWith bindings (s, w) =
      (.ok (innerScope s w), { s with library := some (libraryIn s w).1 },
        { (libraryIn s w).2 with store := innerStore s w bindings }) :=
  scopeWith_of_library (libraryScope_eq s w) bindings

/-- The library is remembered rightly. -/
theorem Coherent.libraryIn (coherent : Coherent s w) :
    Coherent { s with library := some (libraryIn s w).1 } (libraryIn s w).2 := by
  unfold Session.libraryIn
  cases known : s.library with
  | some library =>
    dsimp only
    rw [← known]
    exact coherent
  | none =>
    have coherent' := coherent.extended none coherent.functions.toList
    refine { coherent' with library := ?_ }
    intro scope equal
    obtain rfl := Option.some.inj equal
    refine ⟨by simp [Store.newScope], rfl, ?_⟩
    exact (Store.locals_extended w.store none _ _).trans (if_pos rfl)

theorem size_le_libraryIn (s : Session) (w : World) :
    w.store.levels.size ≤ (libraryIn s w).2.store.levels.size := by
  unfold libraryIn
  split
  · exact Nat.le_refl _
  · simp

/-- The scope that a text is evaluated in holds only levels that are made. -/
theorem Coherent.innerScope_rename (coherent : Coherent s w) {ρ : Nat → Nat}
    (fixes : Fixes ((Session.libraryIn s w).2.store.levels.size + 1) ρ) :
    (innerScope s w).rename ρ = innerScope s w := by
  obtain ⟨made, outer, -⟩ := coherent.libraryIn.library _ rfl
  have own := fixes (Session.libraryIn s w).2.store.levels.size (Nat.lt_succ_self _)
  have around := fixes (Session.libraryIn s w).1.level (Nat.lt_succ_of_lt made)
  simp [innerScope, Store.newScope, Scope.rename, outer, own, around]

theorem libraryIn_hosts (s : Session) (w : World) : (libraryIn s w).2.hosts = w.hosts := by
  unfold libraryIn
  split <;> rfl

section Evaluations

open Evaluator

variable {bindings : Table Value} {setting : Setting}

@[simp] theorem size_innerStore (s : Session) (w : World) (bindings : Table Value) :
    (innerStore s w bindings).levels.size = (libraryIn s w).2.store.levels.size + 1 :=
  Store.size_extended _ _ _

/-- An evaluation inside the library that leaves a sound store behind keeps the invariant: the level
of the library is not written. -/
theorem Coherent.settled (coherent : Coherent s w) {α : Type} {f : α → α}
    {x : Except Stop α × State}
    (grown : (innerStore s w bindings).levels.size ≤ x.2.store.levels.size)
    (mirrored : Mirrored (bumping (Session.libraryIn s w).2.store.levels.size x.2.store.levels.size)
      f { store := innerStore s w bindings } x x) :
    Coherent { s with library := some (Session.libraryIn s w).1 }
      { (Session.libraryIn s w).2 with store := x.2.store } := by
  rw [size_innerStore] at grown
  refine coherent.libraryIn.withStore (Nat.le_of_succ_le grown) mirrored.below ?_
  intro l made
  refine (mirrored.frame l made).trans ?_
  exact (Store.locals_extended _ _ _ _).trans (if_neg (Nat.ne_of_lt made))

/-- The store that a text is evaluated in holds only levels that are made. -/
theorem Coherent.entered (coherent : Coherent s w) (below : bindings.Below w.store.levels.size) :
    World.Closed { (Session.libraryIn s w).2 with store := innerStore s w bindings } :=
  coherent.libraryIn.closed.extended _ (below.mono (size_le_libraryIn s w))

theorem Coherent.evaluateAll_closed (coherent : Coherent s w)
    (below : bindings.Below w.store.levels.size) {nodes : List Node}
    (trees : ∀ n ∈ nodes, n.Below w.store.levels.size) (hosts : setting.hosts = w.hosts)
    (fuel : Nat) :
    Coherent { s with library := some (Session.libraryIn s w).1 }
      { (Session.libraryIn s w).2 with
        store := (evaluateAll setting fuel (innerScope s w) nodes
          { store := innerStore s w bindings }).2.store } := by
  obtain ⟨locals, uniform⟩ := coherent.entered below
  have size_le := size_le_libraryIn s w
  refine coherent.settled
    (evaluateAll_size_le setting fuel _ nodes { store := innerStore s w bindings })
    (Evaluator.evaluateAll_closed ?_ locals ?_ ?_ ?_ fuel)
  · exact Nat.le_of_lt (Nat.lt_of_lt_of_eq (Nat.lt_succ_self _) (size_innerStore s w bindings).symm)
  · rw [hosts, ← libraryIn_hosts s w]
    exact uniform
  · intro ρ fixes
    rw [size_innerStore] at fixes
    exact coherent.innerScope_rename fixes
  · intro n member ρ fixes
    refine trees n member ρ (fixes.mono ?_)
    rw [size_innerStore]
    omega

theorem Coherent.callWith_closed (coherent : Coherent s w) {f : Value}
    (function : f.Below w.store.levels.size) {values : List Value}
    (arguments : ∀ v ∈ values, v.Below w.store.levels.size) (hosts : setting.hosts = w.hosts)
    (fuel : Nat) :
    Coherent { s with library := some (Session.libraryIn s w).1 }
      { (Session.libraryIn s w).2 with
        store := (Evaluator.callWith setting fuel f (innerScope s w) values none
          { store := innerStore s w [] }).2.store } := by
  have none : Table.Below w.store.levels.size [] := fun _ member => absurd member List.not_mem_nil
  obtain ⟨locals, uniform⟩ := coherent.entered none
  have size_le := size_le_libraryIn s w
  refine coherent.settled (perform_size_le setting fuel _ { store := innerStore s w [] })
    (perform_closed ?_ locals ?_ ?_ ?_ fuel)
  · exact Nat.le_of_lt (Nat.lt_of_lt_of_eq (Nat.lt_succ_self _) (size_innerStore s w []).symm)
  · rw [hosts, ← libraryIn_hosts s w]
    exact uniform
  · intro n made
    rw [size_innerStore] at made
    exact ⟨Nat.le_refl _, Nat.lt_of_succ_le made⟩
  · intro n made
    rw [size_innerStore] at made
    generalize bumped : bumping (Session.libraryIn s w).2.store.levels.size n = ρ
    have fixes : Fixes ((Session.libraryIn s w).2.store.levels.size + 1) ρ.level := by
      rw [← bumped]
      exact (bump_fixes n).mono made
    have older := fixes.mono (Nat.le_succ_of_le size_le)
    have same : (values.map Argument.value).map (Argument.rename ρ) = values.map .value := by
      rw [List.map_map]
      exact List.map_congr_left fun v member =>
        congrArg Argument.value (arguments v member _ older)
    have place := coherent.innerScope_rename fixes
    simp only [Task.rename, Call.rename, same, Renaming.scope, place, Renaming.value,
      function _ older, Option.map]

/-- Once the trees of a text are known, the evaluation goes on in a scope inside the library. -/
theorem compute_of_tree {s : Session} {w : World} {text : String} {known : Table (List Token)}
    {trees : Table (List Node)}
    (opened : tree text (s, w) =
      ((s.treesOf text).mapError .error, { s with tokens := known, trees := trees }, w))
    (fuel : Nat) (bindings : Table Value) :
    compute fuel text bindings (s, w) = match s.treesOf text with
      | .error e => (.error (.error e), { s with tokens := known, trees := trees }, w)
      | .ok nodes =>
        ((evaluateAll (Session.setting (s, w)) fuel (innerScope s w) nodes
            { store := innerStore s w bindings }).1.map nodes.zip,
          { s with tokens := known, trees := trees, library := some (Session.libraryIn s w).1 },
          { (Session.libraryIn s w).2 with
            store := (evaluateAll (Session.setting (s, w)) fuel (innerScope s w) nodes
              { store := innerStore s w bindings }).2.store }) := by
  cases parsed : s.treesOf text with
  | error e =>
    rw [Session.compute_eq, opening, bind_apply, opened, parsed]
    rfl
  | ok nodes =>
    have opens : opening text bindings (s, w) =
        (.ok (nodes, innerScope s w),
          { s with tokens := known, trees := trees, library := some (Session.libraryIn s w).1 },
          { (Session.libraryIn s w).2 with store := innerStore s w bindings }) := by
      rw [opening, bind_apply, opened, parsed]
      change (scopeWith bindings >>= fun scope => pure (nodes, scope))
        ({ s with tokens := known, trees := trees }, w) = _
      rw [bind_apply, scopeWith_eq]
      rfl
    rw [Session.compute_eq, opens]
    dsimp only
    cases evaluateAll (Session.setting (s, w)) fuel (innerScope s w) nodes
        { store := innerStore s w bindings } with
    | mk result after => cases result <;> rfl

/-- The outcome of a text is that of its trees in a scope inside the library. -/
theorem Coherent.compute_eq (coherent : Coherent s w) (fuel : Nat) (text : String)
    (bindings : Table Value) :
    ∃ known trees, Coherent { s with tokens := known, trees := trees } w ∧
      compute fuel text bindings (s, w) = match s.treesOf text with
        | .error e => (.error (.error e), { s with tokens := known, trees := trees }, w)
        | .ok nodes =>
          ((evaluateAll (Session.setting (s, w)) fuel (innerScope s w) nodes
              { store := innerStore s w bindings }).1.map nodes.zip,
            { s with
              tokens := known, trees := trees, library := some (Session.libraryIn s w).1 },
            { (Session.libraryIn s w).2 with
              store := (evaluateAll (Session.setting (s, w)) fuel (innerScope s w) nodes
                { store := innerStore s w bindings }).2.store }) := by
  obtain ⟨known, trees, opened, coherent'⟩ := coherent.tree_eq text
  exact ⟨known, trees, coherent', compute_of_tree opened fuel bindings⟩

/-- The evaluation of a text keeps the invariant, whatever its outcome. -/
theorem Coherent.compute (coherent : Coherent s w) (fuel : Nat) (text : String)
    (below : bindings.Below w.store.levels.size) :
    Coherent (Session.compute fuel text bindings (s, w)).2.1
      (Session.compute fuel text bindings (s, w)).2.2 := by
  obtain ⟨known, trees, coherent', computed⟩ := coherent.compute_eq fuel text bindings
  rw [computed]
  cases parsed : s.treesOf text with
  | error e => exact coherent'
  | ok nodes => exact coherent'.evaluateAll_closed below (coherent.treesOf_below parsed) rfl fuel

/-- The call of a function for the host keeps the invariant, whatever its outcome. -/
theorem Coherent.callWith (coherent : Coherent s w) (fuel : Nat) {f : Value}
    (function : f.Below w.store.levels.size) {values : List Value}
    (arguments : ∀ v ∈ values, v.Below w.store.levels.size) :
    Coherent (Session.callWith fuel f values (s, w)).2.1
      (Session.callWith fuel f values (s, w)).2.2 := by
  have hosts : (⟨s.limit, (Session.libraryIn s w).2.hosts, (Session.libraryIn s w).2.now⟩ :
      Setting).hosts = w.hosts := libraryIn_hosts s w
  rw [Session.callWith, bind_apply, scopeWith_eq]
  exact coherent.callWith_closed function arguments hosts fuel

end Evaluations

/-! ### Changes of the session -/

theorem Coherent.record (coherent : Coherent s w) (stats : Stats) :
    Coherent { s with stats := stats } w :=
  { coherent with }

theorem evaluateNodes_snd (fuel elapsed : Nat) (text : String) (bindings : Table Value)
    (x : Session × World) :
    ∃ stats, (evaluateNodes fuel elapsed text bindings x).2 =
      ({ (compute fuel text bindings x).2.1 with stats := stats },
        (compute fuel text bindings x).2.2) := by
  rw [evaluateNodes, bind_apply]
  cases compute fuel text bindings x with
  | mk result after =>
    cases result with
    | error stop => exact ⟨after.1.stats, rfl⟩
    | ok evaluated => exact ⟨_, rfl⟩

theorem evaluate_snd (fuel elapsed : Nat) (text : String) (bindings : Table Value)
    (x : Session × World) :
    (evaluate fuel elapsed text bindings x).2 = (evaluateNodes fuel elapsed text bindings x).2 := by
  rw [evaluate, bind_apply]
  cases evaluateNodes fuel elapsed text bindings x with
  | mk result after => cases result <;> rfl

theorem Coherent.evaluateNodes (coherent : Coherent s w) (fuel elapsed : Nat) (text : String)
    {bindings : Table Value} (below : bindings.Below w.store.levels.size) :
    Coherent (Session.evaluateNodes fuel elapsed text bindings (s, w)).2.1
      (Session.evaluateNodes fuel elapsed text bindings (s, w)).2.2 := by
  obtain ⟨stats, recorded⟩ := evaluateNodes_snd fuel elapsed text bindings (s, w)
  rw [recorded]
  exact (coherent.compute fuel text below).record stats

/-- A change of the functions makes the scope of the library to be made anew. -/
theorem Coherent.withFunctions (coherent : Coherent s w) {functions : Registry Value}
    (below : functions.All (Value.Below w.store.levels.size)) :
    Coherent { s with functions := functions, library := none } w :=
  { coherent with
    functions := below
    library := fun _ known => nomatch known }

/-- A change of the lexicon or the limit makes the session forget the texts. -/
theorem Coherent.forgetTexts (coherent : Coherent s w) {lexicon : Lexicon}
    (below : lexicon.Below w.store.levels.size) (limit : Nat) :
    Coherent { s.forgetTexts with lexicon := lexicon, limit := limit } w :=
  { coherent with
    lexicon := below
    tokens := fun _ _ known => nomatch known
    trees := fun _ _ known => nomatch known }

/-- A function of the host that is taken in is a value like others. -/
theorem Coherent.hostFunction (coherent : Coherent s w) (name : String) {f : HostFunction}
    (uniform : f.Uniform w.store.levels.size) {properties : Table Value}
    (below : properties.Below w.store.levels.size) :
    Coherent s (w.hostFunction name f properties).2 ∧
      (w.hostFunction name f properties).1.Below w.store.levels.size := by
  refine ⟨{ coherent with closed := ⟨coherent.closed.locals, ?_⟩ }, ?_⟩
  · intro g member
    rcases List.mem_append.mp member with old | new
    · exact coherent.closed.hosts g old
    · exact List.mem_singleton.mp new ▸ uniform
  · intro ρ fixes
    simp [World.hostFunction, below.mapValues_rename fixes]

end Session

end Bracket
