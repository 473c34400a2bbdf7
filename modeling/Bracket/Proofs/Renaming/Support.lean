import Bracket.Proofs.Grammar
import Bracket.Proofs.Renaming.Routine
import Bracket.Proofs.Source

/-!
Which levels of the store values hold. A value lies below a level if it holds that level and later
ones nowhere, so that renaming these does not change it. Main statements: one renaming tells, and
the trees of a text lie below a level if what its lexicon makes tokens of does.
-/

namespace Bracket

/-- The renaming leaves the levels below the given one alone. -/
def Fixes (n : Nat) (ρ : Nat → Nat) : Prop := ∀ l < n, ρ l = l

theorem Fixes.mono {n m : Nat} {ρ : Nat → Nat} (fixes : Fixes m ρ) (le : n ≤ m) : Fixes n ρ :=
  fun l low => fixes l (Nat.lt_of_lt_of_le low le)

/-- The scope goes through no level from `n` on. -/
def Scope.Below (n : Nat) (scope : Scope) : Prop := ∀ l ∈ scope.level :: scope.outer, l < n

instance (n : Nat) (scope : Scope) : Decidable (scope.Below n) :=
  inferInstanceAs (Decidable (∀ l ∈ scope.level :: scope.outer, l < n))

/-- The value holds no level from `n` on. -/
def Value.Below (n : Nat) (v : Value) : Prop := ∀ ρ, Fixes n ρ → v.rename ρ = v

/-- The expression holds no level from `n` on. -/
def Node.Below (n : Nat) (node : Node) : Prop := ∀ ρ, Fixes n ρ → node.rename ρ = node

def Literal.Below (n : Nat) (literal : Literal) : Prop :=
  ∀ ρ, Fixes n ρ → literal.rename ρ = literal

/-- Every entry holds no level from `n` on. -/
def Table.Below (n : Nat) (t : Table Value) : Prop := ∀ entry ∈ t, entry.2.Below n

theorem Value.Below.mono {n m : Nat} {v : Value} (below : v.Below n) (le : n ≤ m) : v.Below m :=
  fun ρ fixes => below ρ (fixes.mono le)

theorem Literal.Below.mono {n m : Nat} {l : Literal} (below : l.Below n) (le : n ≤ m) :
    l.Below m :=
  fun ρ fixes => below ρ (fixes.mono le)

theorem Table.Below.mono {n m : Nat} {t : Table Value} (below : t.Below n) (le : n ≤ m) :
    t.Below m :=
  fun entry member => (below entry member).mono le

theorem Table.Below.mapValues_rename {n : Nat} {t : Table Value} {ρ : Nat → Nat}
    (below : t.Below n) (fixes : Fixes n ρ) : Table.mapValues (Value.rename ρ) t = t := by
  have same : ∀ entry ∈ t, (entry.1, entry.2.rename ρ) = entry := fun entry member => by
    rw [below entry member ρ fixes]
  exact (List.map_congr_left same).trans (List.map_id' t)

/-! ### One renaming tells -/

/-- Leaves the levels below `n` alone and moves all others. -/
def bump (n : Nat) (l : Nat) : Nat := if l < n then l else l + 1

theorem bump_fixes (n : Nat) : Fixes n (bump n) := fun _ low => if_pos low

theorem lt_of_bump {n l : Nat} (same : bump n l = l) : l < n := by
  unfold bump at same
  split at same
  · assumption
  · omega

theorem Scope.below_of_bump {n : Nat} {scope : Scope} (same : scope.rename (bump n) = scope) :
    scope.Below n := by
  obtain ⟨level, outer⟩ := scope
  obtain ⟨inner, others⟩ := Scope.mk.inj same
  have each : ∀ l ∈ outer, bump n l = l :=
    List.map_inj_left.mp (others.trans (List.map_id' outer).symm)
  intro l member
  rcases List.mem_cons.mp member with rfl | later
  · exact lt_of_bump inner
  · exact lt_of_bump (each l later)

theorem Scope.rename_of_bump {n : Nat} {ρ : Nat → Nat} (fixes : Fixes n ρ) {scope : Scope}
    (same : scope.rename (bump n) = scope) : scope.rename ρ = scope := by
  have fixed : ∀ l ∈ scope.level :: scope.outer, ρ l = l :=
    fun l member => fixes l (below_of_bump same l member)
  obtain ⟨inner, others⟩ := List.forall_mem_cons.mp fixed
  rw [Scope.rename, inner, (List.map_inj_left.mpr others).trans (List.map_id' scope.outer)]

mutual

theorem Literal.rename_of_bump {n : Nat} {ρ : Nat → Nat} (fixes : Fixes n ρ) :
    (literal : Literal) → literal.rename (bump n) = literal → literal.rename ρ = literal
  | .string _, _ | .number _, _ | .identifier, _ | .boolean _, _ | .null, _ | .undefined, _ => rfl
  | .keyword v, same => by
    simp only [Literal.rename, Literal.keyword.injEq] at same ⊢
    exact Value.rename_of_bump fixes v same

theorem Node.rename_of_bump {n : Nat} {ρ : Nat → Nat} (fixes : Fixes n ρ) :
    (node : Node) → node.rename (bump n) = node → node.rename ρ = node
  | .leaf _ literal, same => by
    simp only [Node.rename, Node.leaf.injEq, true_and] at same ⊢
    exact Literal.rename_of_bump fixes literal same
  | .call _ children, same => by
    simp only [Node.rename, Node.call.injEq, true_and] at same ⊢
    exact Node.renameAll_of_bump fixes children same
  | .function _ children, same => by
    simp only [Node.rename, Node.function.injEq, true_and] at same ⊢
    exact Node.renameAll_of_bump fixes children same
  | .member _ target _, same => by
    simp only [Node.rename, Node.member.injEq, true_and, and_true] at same ⊢
    exact Node.rename_of_bump fixes target same

theorem Node.renameAll_of_bump {n : Nat} {ρ : Nat → Nat} (fixes : Fixes n ρ) :
    (nodes : List Node) → Node.renameAll (bump n) nodes = nodes → Node.renameAll ρ nodes = nodes
  | [], _ => rfl
  | node :: rest, same => by
    simp only [Node.renameAll, List.cons.injEq] at same ⊢
    exact ⟨Node.rename_of_bump fixes node same.1, Node.renameAll_of_bump fixes rest same.2⟩

theorem Value.rename_of_bump {n : Nat} {ρ : Nat → Nat} (fixes : Fixes n ρ) :
    (v : Value) → v.rename (bump n) = v → v.rename ρ = v
  | .undefined, _ | .null, _ | .bool _, _ | .number _, _ | .string _, _ | .date _, _ => rfl
  | .array _ items, same => by
    simp only [Value.rename, Value.array.injEq, true_and] at same ⊢
    exact Value.renameItems_of_bump fixes items same
  | .object _ entries, same => by
    simp only [Value.rename, Value.object.injEq, true_and] at same ⊢
    exact Value.renameEntries_of_bump fixes entries same
  | .function _ procedure, same => by
    simp only [Value.rename, Value.function.injEq, true_and] at same ⊢
    exact Procedure.rename_of_bump fixes procedure same

theorem Value.renameItems_of_bump {n : Nat} {ρ : Nat → Nat} (fixes : Fixes n ρ) :
    (items : List Value) → Value.renameItems (bump n) items = items →
      Value.renameItems ρ items = items
  | [], _ => rfl
  | v :: rest, same => by
    simp only [Value.renameItems, List.cons.injEq] at same ⊢
    exact ⟨Value.rename_of_bump fixes v same.1, Value.renameItems_of_bump fixes rest same.2⟩

theorem Value.renameEntries_of_bump {n : Nat} {ρ : Nat → Nat} (fixes : Fixes n ρ) :
    (entries : List (String × Value)) → Value.renameEntries (bump n) entries = entries →
      Value.renameEntries ρ entries = entries
  | [], _ => rfl
  | (_, v) :: rest, same => by
    simp only [Value.renameEntries, List.cons.injEq, Prod.mk.injEq, true_and] at same ⊢
    exact ⟨Value.rename_of_bump fixes v same.1, Value.renameEntries_of_bump fixes rest same.2⟩

theorem Procedure.rename_of_bump {n : Nat} {ρ : Nat → Nat} (fixes : Fixes n ρ) :
    (procedure : Procedure) → procedure.rename (bump n) = procedure →
      procedure.rename ρ = procedure
  | .closure _ none _, same => by
    simp only [Procedure.rename, Procedure.closure.injEq, true_and] at same ⊢
    exact Scope.rename_of_bump fixes same
  | .closure _ (some body) _, same => by
    simp only [Procedure.rename, Procedure.closure.injEq, Option.some.injEq, true_and] at same ⊢
    exact ⟨Node.rename_of_bump fixes body same.1, Scope.rename_of_bump fixes same.2⟩
  | .native _ code properties, same => by
    simp only [Procedure.rename, Procedure.native.injEq, true_and] at same ⊢
    exact ⟨Code.rename_of_bump fixes code same.1,
      Value.renameEntries_of_bump fixes properties same.2⟩

theorem Code.rename_of_bump {n : Nat} {ρ : Nat → Nat} (fixes : Fixes n ρ) :
    (code : Code) → code.rename (bump n) = code → code.rename ρ = code
  | .builtin _, _ | .host _, _ => rfl
  | .bound f values, same => by
    simp only [Code.rename, Code.bound.injEq] at same ⊢
    exact ⟨Value.rename_of_bump fixes f same.1, Value.renameItems_of_bump fixes values same.2⟩
  | .flipped f values, same => by
    simp only [Code.rename, Code.flipped.injEq] at same ⊢
    exact ⟨Value.rename_of_bump fixes f same.1, Value.renameItems_of_bump fixes values same.2⟩
  | .chained functions, same => by
    simp only [Code.rename, Code.chained.injEq] at same ⊢
    exact Value.renameItems_of_bump fixes functions same

end

theorem Value.below_of_bump {n : Nat} {v : Value} (same : v.rename (bump n) = v) : v.Below n :=
  fun _ fixes => Value.rename_of_bump fixes v same

/-! ### Tokens and trees -/

/-- What the token stands for holds no level from `n` on. -/
def Token.Below (n : Nat) (t : Token) : Prop := ∀ l, t.kind = .literal l → l.Below n

/-- Every token that is claimed lies below `n`. -/
def Recognizer.Below (n : Nat) (r : Recognizer) : Prop :=
  ∀ cs t, r cs = .ok (some t) → t.Below n

/-- What a token is taken for lies below `n`, apart from what the token itself holds. -/
def KeywordRecognizer.Below (n : Nat) (k : KeywordRecognizer) : Prop :=
  ∀ t t', k t = some t' → ∀ m, n ≤ m → t.Below m → t'.Below m

/-- All entries have the property, the hidden ones as well. -/
def Registry.All {α : Type} (P : α → Prop) (r : Registry α) : Prop :=
  (∀ entry ∈ r.defaults, P entry.2) ∧ ∀ entry ∈ r.entries, P entry.2

structure Lexicon.Below (n : Nat) (lexicon : Lexicon) : Prop where
  nests : lexicon.nests.All (Recognizer.Below n)
  primitives : lexicon.primitives.All (Recognizer.Below n)
  identifiers : lexicon.identifiers.All (Recognizer.Below n)
  keywords : lexicon.keywords.All (KeywordRecognizer.Below n)

namespace Registry

variable {α : Type} {P : α → Prop} {r : Registry α}

theorem All.toList (all : r.All P) : ∀ entry ∈ r.toList, P entry.2 := by
  intro entry member
  rcases List.mem_append.mp member with own | default
  · exact all.2 entry own
  · exact all.1 entry (List.mem_filter.mp default).1

theorem mem_insert {t : Table α} {name : String} {a : α} {entry : String × α}
    (member : entry ∈ t.insert name a) : entry ∈ t ∨ entry.2 = a := by
  induction t with
  | nil =>
    obtain rfl := List.mem_singleton.mp member
    exact .inr rfl
  | cons first rest ih =>
    obtain ⟨k, b⟩ := first
    by_cases same : k = name
    · rw [Table.insert, if_pos same] at member
      rcases List.mem_cons.mp member with equal | later
      · exact .inr (congrArg Prod.snd equal)
      · exact .inl (List.mem_cons_of_mem _ later)
    · rw [Table.insert, if_neg same] at member
      rcases List.mem_cons.mp member with equal | later
      · exact .inl (equal ▸ List.mem_cons_self)
      · exact (ih later).imp_left (List.mem_cons_of_mem _)

theorem mem_of_mem_erase {t : Table α} {name : String} {entry : String × α}
    (member : entry ∈ t.erase name) : entry ∈ t := by
  induction t with
  | nil => exact member
  | cons first rest ih =>
    obtain ⟨k, b⟩ := first
    by_cases same : k = name
    · rw [Table.erase, if_pos same] at member
      exact List.mem_cons_of_mem _ member
    · rw [Table.erase, if_neg same] at member
      rcases List.mem_cons.mp member with equal | later
      · exact equal ▸ List.mem_cons_self
      · exact List.mem_cons_of_mem _ (ih later)

theorem All.insert (all : r.All P) (name : String) {a : α} (holds : P a) :
    (r.insert name a).2.All P := by
  refine ⟨all.1, fun entry member => ?_⟩
  rcases mem_insert member with old | new
  · exact all.2 entry old
  · exact new ▸ holds

theorem All.remove (all : r.All P) (name : String) : (r.remove name).2.All P :=
  ⟨all.1, fun entry member => all.2 entry (mem_of_mem_erase member)⟩

theorem All.imp {Q : α → Prop} (all : r.All P) (imp : ∀ a, P a → Q a) : r.All Q :=
  ⟨fun entry member => imp _ (all.1 entry member), fun entry member => imp _ (all.2 entry member)⟩

end Registry

theorem Token.Below.mono {n m : Nat} {t : Token} (below : t.Below n) (le : n ≤ m) : t.Below m :=
  fun l same => (below l same).mono le

namespace Lexicon

variable {n : Nat} {lexicon : Lexicon}

theorem Below.mono {m : Nat} (below : lexicon.Below n) (le : n ≤ m) : lexicon.Below m where
  nests := below.nests.imp fun _ below cs t claimed => (below cs t claimed).mono le
  primitives := below.primitives.imp fun _ below cs t claimed => (below cs t claimed).mono le
  identifiers := below.identifiers.imp fun _ below cs t claimed => (below cs t claimed).mono le
  keywords := below.keywords.imp fun _ below t t' taken later le' =>
    below t t' taken later (Nat.le_trans le le')

theorem firstClaim_below {tier : List (String × Recognizer)}
    (below : ∀ entry ∈ tier, Recognizer.Below n entry.2) {cs : List Char} {t : Token}
    (claimed : firstClaim tier cs = .ok (some t)) : t.Below n := by
  induction tier with
  | nil => cases claimed
  | cons entry rest ih =>
    unfold firstClaim at claimed
    split at claimed
    · cases claimed
    · next found =>
      rw [← Option.some.inj (Except.ok.inj claimed)]
      exact below _ List.mem_cons_self cs _ found
    · exact ih (fun other member => below other (List.mem_cons_of_mem _ member)) claimed

theorem Below.resolve (below : lexicon.Below n) {t : Token} (token : t.Below n) :
    (lexicon.resolve t).Below n := by
  unfold Lexicon.resolve
  cases found : lexicon.keywords.toList.findSome? fun entry => entry.2 t with
  | none => exact token
  | some t' =>
    obtain ⟨entry, member, taken⟩ := List.exists_of_findSome?_eq_some found
    exact below.keywords.toList entry member t t' taken n (Nat.le_refl n) token

theorem Below.recognize (below : lexicon.Below n) {cs : List Char} {t : Token}
    (claimed : lexicon.recognize cs = .ok (some t)) : t.Below n := by
  unfold Lexicon.recognize at claimed
  split at claimed
  · cases claimed
  · next nest =>
    obtain rfl := Option.some.inj (Except.ok.inj claimed)
    exact firstClaim_below below.nests.toList nest
  · split at claimed
    · cases claimed
    · next primitive =>
      obtain rfl := Option.some.inj (Except.ok.inj claimed)
      exact firstClaim_below below.primitives.toList primitive
    · split at claimed
      · cases claimed
      · next found named =>
        cases found with
        | none => cases claimed
        | some name =>
          obtain rfl := Option.some.inj (Except.ok.inj claimed)
          exact below.resolve (firstClaim_below below.identifiers.toList named)

theorem Below.scan (below : lexicon.Below n) {offset : Nat} {cs : List Char} :
    ∀ t ∈ (lexicon.scan offset cs).1, t.Below n := by
  fun_induction lexicon.scan offset cs with
  | case1 | case2 | case3 | case4 => simp
  | case5 offset c rest t claimed some tail failure behind ih =>
    rw [behind] at ih
    intro t' member
    rcases List.mem_cons.mp member with equal | later
    · subst equal
      exact fun l same => below.recognize claimed l same
    · exact ih t' later

/-- The tokens of a text lie below what the recognizers make tokens of. -/
theorem Below.tokenize (below : lexicon.Below n) {text : String} {tokens : List Token}
    (tokenized : lexicon.tokenize text = .ok tokens) : ∀ t ∈ tokens, t.Below n := by
  have scanned : ∀ t ∈ (lexicon.scan 0 text.toList).1, t.Below n := below.scan
  unfold Lexicon.tokenize at tokenized
  split at tokenized
  · next same =>
    obtain rfl := Except.ok.inj tokenized
    rw [same] at scanned
    exact scanned
  · cases tokenized

end Lexicon

namespace Node

variable {n : Nat}

/-- Trees lie below what their tokens stand for. -/
theorem Derives.nodes_below {tokens : List Token} {phrase : Phrase}
    (derives : Derives tokens phrase)
    (below : ∀ t ∈ tokens, t.Below n) : ∀ node ∈ phrase.nodes, node.Below n := by
  induction derives with
  | empty => simp [Phrase.nodes]
  | delimiter _ _ ih => exact ih fun t member => below t (List.mem_append_left _ member)
  | snoc _ _ ih last =>
    intro node member
    rcases List.mem_append.mp member with early | late
    · exact ih (fun t member => below t (List.mem_append_left _ member)) node early
    · exact last (fun t member => below t (List.mem_append_right _ member)) node late
  | @leaf t l stands =>
    intro node member ρ fixes
    obtain rfl := List.mem_singleton.mp member
    rw [Node.rename, below t List.mem_cons_self l stands ρ fixes]
  | @call o c ts ns _ _ _ ih =>
    intro node member ρ fixes
    obtain rfl := List.mem_singleton.mp member
    have inside := ih fun t member => below t (by simp [member])
    have same : ns.map (Node.rename ρ) = ns :=
      (List.map_congr_left fun node member => inside node member ρ fixes).trans (List.map_id' ns)
    rw [Node.rename, Node.renameAll_eq_map, same]
  | @function o c ts ns _ _ _ ih =>
    intro node member ρ fixes
    obtain rfl := List.mem_singleton.mp member
    have inside := ih fun t member => below t (by simp [member])
    have same : ns.map (Node.rename ρ) = ns :=
      (List.map_congr_left fun node member => inside node member ρ fixes).trans (List.map_id' ns)
    rw [Node.rename, Node.renameAll_eq_map, same]
  | member _ _ _ _ ih =>
    intro node member ρ fixes
    obtain rfl := List.mem_singleton.mp member
    have target := ih (fun t member => below t (by simp [member])) _ List.mem_cons_self
    rw [Node.rename, target ρ fixes]

theorem ofTokens_below {limit : Nat} {tokens : List Token} {nodes : List Node}
    (parsed : ofTokens limit tokens = .ok nodes) (below : ∀ t ∈ tokens, t.Below n) :
    ∀ node ∈ nodes, node.Below n :=
  (derives_of_ofTokens parsed).1.nodes_below below

end Node

/-! ### The standard lexicon and library hold no scope -/

/-- A token that is no keyword of the host holds no scope. -/
theorem Token.below_of_kind {n : Nat} {t : Token} (plain : ∀ v, t.kind ≠ .literal (.keyword v)) :
    t.Below n := by
  intro l same ρ _
  cases l with
  | keyword v => exact absurd same (plain v)
  | _ => rfl

namespace Lexicon

variable {n : Nat}

theorem single_below {kinds : List (Char × Token.Kind)}
    (plain : ∀ entry ∈ kinds, ∀ v, entry.2 ≠ .literal (.keyword v)) :
    Recognizer.Below n (single kinds) := by
  intro cs t claimed
  cases cs with
  | nil => cases claimed
  | cons c rest =>
    obtain ⟨entry, found, rfl⟩ := Option.map_eq_some_iff.mp (Except.ok.inj claimed)
    exact Token.below_of_kind (plain entry (List.mem_of_find?_eq_some found))

theorem run?_below {kind : Token.Kind} {run : List Char} {t : Token}
    (plain : ∀ v, kind ≠ .literal (.keyword v)) (claimed : run? kind run = some t) : t.Below n :=
  Token.below_of_kind (run?_kind claimed ▸ plain)

theorem quoted_below (quote : Char) : Recognizer.Below n (quoted quote) := by
  intro cs t claimed
  unfold quoted at claimed
  split at claimed
  · cases claimed
  · split at claimed
    · dsimp only at claimed
      split at claimed
      · rw [← Option.some.inj (Except.ok.inj claimed)]
        exact Token.below_of_kind (by simp)
      · cases claimed
    · cases claimed

theorem number_below : Recognizer.Below n number := by
  intro cs t claimed
  unfold number at claimed
  split at claimed
  · next word found =>
    rw [← Option.some.inj (Except.ok.inj claimed)]
    obtain ⟨⟨word, m⟩, _, taken⟩ := List.exists_of_findSome?_eq_some found
    simp only [Option.ite_none_right_eq_some, Option.some.injEq] at taken
    rw [← taken.2]
    exact Token.below_of_kind (by simp [Token.exact])
  · obtain ⟨m, _, run⟩ := Option.bind_eq_some_iff.mp (Except.ok.inj claimed)
    exact run?_below (by simp) run

theorem identifier_below : Recognizer.Below n identifier := by
  intro cs t claimed
  obtain ⟨p, run⟩ := identifier_run claimed
  exact run?_below (by simp) run

theorem keyword_below (word : String) {kind : Token.Kind}
    (plain : ∀ v, kind ≠ .literal (.keyword v)) :
    KeywordRecognizer.Below n (keyword word kind) := by
  intro t t' taken m _ _
  simp only [keyword, Option.ite_none_right_eq_some, Option.some.injEq] at taken
  rw [← taken.2]
  exact Token.below_of_kind plain

theorem boolean_below : KeywordRecognizer.Below n boolean := by
  intro t t' taken m _ _
  unfold boolean at taken
  split at taken
  · rw [← Option.some.inj taken]
    exact Token.below_of_kind (by simp [Token.reclassify])
  · simp only [Option.ite_none_right_eq_some, Option.some.injEq] at taken
    rw [← taken.2]
    exact Token.below_of_kind (by simp [Token.reclassify])

/-- The standard recognizers and keywords hold no scope. -/
theorem standard_below : standard.Below n where
  nests := by
    refine ⟨?_, List.forall_mem_nil _⟩
    simp only [standard, standardNests, List.forall_mem_cons]
    refine ⟨single_below ?_, single_below ?_, single_below ?_, List.forall_mem_nil _⟩
    all_goals simp
  primitives := by
    refine ⟨?_, List.forall_mem_nil _⟩
    simp only [standard, standardPrimitives, List.forall_mem_cons]
    refine ⟨?_, quoted_below _, quoted_below _, number_below, List.forall_mem_nil _⟩
    exact fun cs t claimed => run?_below (by simp) (Except.ok.inj claimed)
  identifiers := by
    refine ⟨?_, List.forall_mem_nil _⟩
    simp only [standard, standardIdentifiers, List.forall_mem_cons]
    exact ⟨identifier_below, List.forall_mem_nil _⟩
  keywords := by
    refine ⟨?_, List.forall_mem_nil _⟩
    simp only [standard, standardKeywords, List.forall_mem_cons]
    exact ⟨boolean_below, keyword_below _ (by simp), keyword_below _ (by simp),
      List.forall_mem_nil _⟩

end Lexicon

/-- The functions of the library hold no scope. -/
theorem Builtin.library_below {n : Nat} : Table.Below n Builtin.library := by
  intro entry member ρ _
  obtain ⟨b, _, rfl⟩ := List.mem_map.mp member
  cases b <;> rfl

end Bracket
