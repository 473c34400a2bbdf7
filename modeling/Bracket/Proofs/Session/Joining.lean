import Bracket.Proofs.Parallel.Sequence
import Bracket.Proofs.Printing.Reading
import Bracket.Proofs.Session.Caches
import Bracket.Proofs.Session.Trees

/-!
Texts behind one another. Where delimiters stand between two texts, the tokens of both are read off
as if each stood alone, but for delimiters that meet; and the trees of the second stand as many
characters further on.
Main statement: the trees of two texts with delimiters between them are those of the one and then
those of the other.
-/

namespace Bracket

open Lexeme

/-! ### Tokens -/

/-- Where nothing prolongs a token, delimiters further on do not, unless they stand directly behind
a delimiter. -/
theorem Spelling.Stops.append {x : Spelling} {cs rest : List Char} (stops : x.Stops cs)
    (sound : x.Sound) (neutral : Neutral rest) (apart : x.token.kind = .delimiter → cs ≠ []) :
    x.Stops (cs ++ rest) := by
  have ends {p : Char → Bool} (first : Ends p cs) (second : Ends p rest) : Ends p (cs ++ rest) := by
    cases cs with
    | nil => exact second
    | cons c cs => exact ends_cons.mpr (ends_cons.mp first)
  have passes {run : List Char} (before : Lexicon.number (run ++ cs) = .ok none) :
      Lexicon.number (run ++ (cs ++ rest)) = .ok none := by
    rw [Lexicon.number_eq_none_iff, ← List.append_assoc,
      takeWhile_append_ends neutral.numeric] at *
    exact ⟨Lexicon.specialNumber?_append neutral.name neutral.operator before.1, before.2⟩
  cases x with
  | mark | quoted | word => trivial
  | blank run =>
    cases cs with
    | nil => exact absurd rfl (apart rfl)
    | cons c cs => exact ends_cons.mpr (ends_cons.mp stops)
  | numeral run n =>
    refine ⟨ends stops.1 neutral.numeric, ?_⟩
    rw [← List.append_assoc]
    exact Lexicon.specialNumber?_append neutral.name neutral.operator stops.2
  | operator run => exact ⟨ends stops.1 neutral.operator, passes stops.2⟩
  | name run => exact ⟨ends stops.1 neutral.name, passes stops.2⟩

namespace Node

/-- A delimiter before a sequence makes no difference. -/
theorem Derives.of_leading {d : Token} {ts : List Token} {ns : List Node}
    (derives : Derives (d :: ts) (.sequence ns)) (separates : d.kind = .delimiter) :
    Derives ts (.sequence ns) := by
  have fits : Bounded (tallest ns) ns := fun n member => height_le_tallest member
  have parsed := derives.ofTokens_eq fits
  have skipped : ofTokens (tallest ns) (d :: ts) = ofTokens (tallest ns) ts := by
    rw [ofTokens, ofTokens, build.eq_def]
    simp only [separates]
  rw [skipped] at parsed
  exact (derives_of_ofTokens parsed).1

/-- The leaves of trees are tokens. -/
theorem Derives.token_of_leaf {ts : List Token} {phrase : Phrase} (derives : Derives ts phrase)
    {n : Node} (member : n ∈ phrase.nodes) {mark : Mark} {l : Literal}
    (leaf : (mark, l) ∈ n.leaves) : ∃ t ∈ ts, t.kind = .literal l := by
  have grow {ts us : List Token} (inside : ∃ t ∈ ts, t.kind = .literal l) (subset : ts ⊆ us) :
      ∃ t ∈ us, t.kind = .literal l := by
    obtain ⟨t, member, kind⟩ := inside
    exact ⟨t, subset member, kind⟩
  induction derives generalizing n with
  | empty => cases member
  | delimiter _ _ ih => exact grow (ih member leaf) (List.subset_append_left _ _)
  | snoc _ _ ihBefore ihLast =>
    rcases List.mem_append.mp member with before | last
    · exact grow (ihBefore before leaf) (List.subset_append_left _ _)
    · exact grow (ihLast last leaf) (List.subset_append_right _ _)
  | leaf stands =>
    obtain rfl := List.mem_singleton.mp member
    obtain ⟨-, rfl⟩ := Prod.mk.inj (List.mem_singleton.mp leaf)
    exact ⟨_, List.mem_cons_self, stands⟩
  | @call o c ts ns _ _ _ ih | @function o c ts ns _ _ _ ih =>
    obtain rfl := List.mem_singleton.mp member
    rw [leaves, leavesAll_eq_flatMap] at leaf
    obtain ⟨child, inside, leaf⟩ := List.mem_flatMap.mp leaf
    refine grow (ih inside leaf) fun t old => ?_
    simp [old]
  | member _ _ _ _ ih =>
    obtain rfl := List.mem_singleton.mp member
    rw [leaves] at leaf
    refine grow (ih List.mem_cons_self leaf) fun t old => ?_
    simp [old]

end Node

namespace Lexicon

open Spelling

theorem sum_length_of_reads {cs : List Char} {ts : List Token} (reads : standard.Reads cs ts) :
    (ts.map Token.length).sum = cs.length := by
  induction ts generalizing cs with
  | nil =>
    cases reads
    rfl
  | cons t ts ih =>
    obtain ⟨x, rest, rfl, -, -, rfl, later⟩ := exists_source_of_reads reads
    rw [List.map_cons, List.sum_cons, ih later, length_token, List.length_append]

/-- The tokens of a text that does not end in a delimiter are the same before delimiters. -/
theorem Reads.append {cs ds : List Char} {ts us : List Token} (first : standard.Reads cs ts)
    (second : standard.Reads ds us) (neutral : Neutral ds)
    (apart : ∀ c ∈ cs.getLast?, isDelimiter c = false) :
    standard.Reads (cs ++ ds) (ts ++ us) := by
  induction ts generalizing cs with
  | nil =>
    cases first
    exact second
  | cons t ts ih =>
    obtain ⟨x, rest, rfl, sound, stops, rfl, later⟩ := exists_source_of_reads first
    have goesOn : x.token.kind = .delimiter → rest ≠ [] := by
      rintro kind rfl
      obtain ⟨run, rfl⟩ := eq_blank_of_kind sound kind
      rw [List.append_nil] at apart
      have last := List.getLast_mem sound.1
      have blank := apart _ (List.getLast?_eq_some_getLast sound.1)
      rw [sound.2 _ last] at blank
      cases blank
    have apart' : ∀ c ∈ rest.getLast?, isDelimiter c = false := by
      intro c last
      refine apart c ?_
      rw [List.getLast?_append, Option.mem_def.mp last]
      rfl
    rw [List.append_assoc, List.cons_append]
    exact reads_source sound (stops.append sound neutral goesOn) (ih later apart')

/-- The delimiters that a text starts with make no difference to its trees. -/
theorem Reads.leading {cs : List Char} {ts : List Token} (reads : standard.Reads cs ts) :
    ∃ blank rest us, cs = blank ++ rest ∧ (∀ c ∈ blank, isDelimiter c = true) ∧
      Ends isDelimiter rest ∧ standard.Reads rest us ∧
      ∀ nodes, Node.Derives (Token.layOut 0 ts) (.sequence nodes) →
        Node.Derives (Token.layOut blank.length us) (.sequence nodes) := by
  cases cs with
  | nil => exact ⟨[], [], ts, rfl, List.forall_mem_nil _, ends_nil, reads, fun _ => id⟩
  | cons c cs =>
    by_cases blank : isDelimiter c = true
    · cases ts with
      | nil => cases reads
      | cons t ts =>
        obtain ⟨x, rest, split, sound, stops, rfl, later⟩ := exists_source_of_reads reads
        have claimed := recognize_source sound stops
        rw [← split, recognize_delimiter blank] at claimed
        have kind := congrArg Token.kind (run?_eq_some (Except.ok.inj claimed)).2
        obtain ⟨run, rfl⟩ := eq_blank_of_kind sound kind
        refine ⟨run, rest, ts, split, sound.2, stops, later, fun nodes derives => ?_⟩
        rw [Token.layOut, Nat.zero_add] at derives
        exact derives.of_leading rfl
    · rw [Bool.not_eq_true] at blank
      exact ⟨[], _, ts, rfl, List.forall_mem_nil _, ends_cons.mpr blank, reads, fun _ => id⟩

/-- Delimiters between two texts are one token, together with those that the second starts with, and
the tokens of both texts stand before and behind it. -/
theorem Reads.join {cs gap ds : List Char} {ts us : List Token} (first : standard.Reads cs ts)
    (second : standard.Reads ds us) (apart : ∀ c ∈ cs.getLast?, isDelimiter c = false)
    (blank : ∀ c ∈ gap, isDelimiter c = true) (nonempty : gap ≠ []) :
    ∃ (d : Token) (further : Nat) (vs : List Token), d.kind = .delimiter ∧
      d.length = gap.length + further ∧ standard.Reads (cs ++ gap ++ ds) (ts ++ d :: vs) ∧
      ∀ nodes, Node.Derives (Token.layOut 0 us) (.sequence nodes) →
        Node.Derives (Token.layOut further vs) (.sequence nodes) := by
  obtain ⟨leading, rest, vs, rfl, blank', ends, later, onward⟩ := second.leading
  have sound : (Spelling.blank (gap ++ leading)).Sound := by
    refine ⟨fun empty => nonempty (List.append_eq_nil_iff.mp empty).1, fun c member => ?_⟩
    exact (List.mem_append.mp member).elim (blank c) (blank' c)
  have behind := reads_source sound ends later
  have neutral : Neutral ((Spelling.blank (gap ++ leading)).source ++ rest) := by
    obtain ⟨c, gap, rfl⟩ := List.exists_cons_of_ne_nil nonempty
    exact neutral_cons (.inl (blank c List.mem_cons_self)) _
  refine ⟨(Spelling.blank (gap ++ leading)).token, leading.length, vs, rfl, List.length_append, ?_,
    onward⟩
  simpa [Spelling.source] using first.append behind neutral apart

end Lexicon

/-! ### Trees -/

namespace Session

variable {s : Session} {text gap text' : String} {nodes nodes' : List Node}

/-- The trees of two texts with delimiters between them are those of the first text and those of the
second one, as many characters further on. The first text does not end in a delimiter, which could
be the name of a member. -/
theorem treesOf_join (lexicon : s.lexicon = .standard) (parsed : s.treesOf text = .ok nodes)
    (parsed' : s.treesOf text' = .ok nodes')
    (apart : ∀ c ∈ text.toList.getLast?, isDelimiter c = false)
    (blank : ∀ c ∈ gap.toList, isDelimiter c = true) (nonempty : gap ≠ "") :
    s.treesOf (text ++ gap ++ text') =
      .ok (nodes ++ nodes'.map (Node.shift (text ++ gap).length)) := by
  obtain ⟨ts, reads, derives, fits⟩ := treesOf_eq_ok_iff.mp parsed
  obtain ⟨us, reads', derives', fits'⟩ := treesOf_eq_ok_iff.mp parsed'
  rw [lexicon] at reads reads'
  obtain ⟨d, further, vs, kind, length, whole, onward⟩ := reads.join reads' apart blank
    fun empty => nonempty (String.toList_eq_nil_iff.mp empty)
  have distance : (text ++ gap).length = text.toList.length + gap.toList.length := by
    rw [← String.length_toList, String.toList_append, List.length_append]
  refine treesOf_eq_ok_iff.mpr ⟨ts ++ d :: vs, ?_, ?_, ?_⟩
  · rw [lexicon, String.toList_append, String.toList_append]
    exact whole
  · have moved := (onward _ derives').place (· + (text ++ gap).length)
    rw [← Token.layOut_shift] at moved
    have joined := (derives.delimiter (d := { d with offset := text.toList.length }) kind).append
      moved
    have next : text.toList.length + d.length = further + (text ++ gap).length := by omega
    rw [Token.layOut_append, Lexicon.sum_length_of_reads reads, Nat.zero_add, Token.layOut, next,
      ← List.singleton_append, ← List.append_assoc]
    exact joined
  · refine fits.append fun n member => ?_
    obtain ⟨n, inside, rfl⟩ := List.mem_map.mp member
    rw [Node.shift, Node.height_place]
    exact fits' n inside

/-- Trees of the standard lexicon hold no values. -/
theorem present_of_treesOf (lexicon : s.lexicon = .standard) (parsed : s.treesOf text = .ok nodes)
    (st : Store) : ∀ n ∈ nodes, n.Present st := by
  obtain ⟨ts, reads, derives, -⟩ := treesOf_eq_ok_iff.mp parsed
  rw [lexicon] at reads
  intro n member mark v leaf
  obtain ⟨t, inside, kind⟩ := derives.token_of_leaf member leaf
  obtain ⟨x, possible, same⟩ := (Node.claimed_of_reads reads).layOut 0 t inside
  have kinds : x.token.kind = t.kind := (congrArg Token.kind same).symm
  exact absurd (kinds.trans kind) (Spelling.kind_ne_keyword possible.1 v)

/-! ### Evaluation -/

open Evaluator Parallel

/-- A session of the standard lexicon and library alone, in a world without functions of the host,
whose store holds only values that were made in it. -/
structure IsStandard (s : Session) (w : World) : Prop where
  reachable : Reachable (s, w)
  lexicon : s.lexicon = .standard
  functions : s.functions = standard.functions
  hosts : w.hosts = []
  sound : w.store.Sound
  taken : Builtin.all.length ≤ w.store.nextId

/-- A new level of values that may stand in the store keeps the store sound. -/
theorem sound_extended {st : Store} (sound : st.Sound) (outer : Option Scope)
    {entries : List (String × Value)} (present : ∀ entry ∈ entries, entry.2.Present st) :
    (st.extended outer entries).Sound := by
  have written : ∀ entry ∈ Table.ofEntries entries, entry.2.Present st := by
    have added (t : Table Value) (own : ∀ entry ∈ t, entry.2.Present st) :
        ∀ entry ∈ t.insertAll entries, entry.2.Present st := by
      induction entries generalizing t with
      | nil => exact own
      | cons first rest ih =>
        refine ih (fun entry member => present entry (List.mem_cons_of_mem first member)) _ ?_
        intro entry member
        rcases Registry.mem_insert member with old | new
        · exact own entry old
        · exact new ▸ present first List.mem_cons_self
    exact added [] (List.forall_mem_nil _)
  have grown : st.Grown (st.extended outer entries) := ⟨by simp, by simp⟩
  intro level entry member
  rw [Store.locals_extended] at member
  split at member
  · exact (written entry member).grown grown
  · exact (sound level entry member).grown grown

namespace IsStandard

variable {w : World} {bindings : Table Value}

theorem setting_eq (standard : IsStandard s w) : setting (s, w) = .standard s.limit w.now := by
  rw [setting, standard.hosts]

/-- The store with the library is sound, and holds what was there. -/
theorem library_sound (standard : IsStandard s w) :
    (libraryIn s w).2.store.Sound ∧ w.store.Grown (libraryIn s w).2.store := by
  unfold libraryIn
  split
  · exact ⟨standard.sound, .refl _⟩
  · refine ⟨sound_extended standard.sound none ?_, by simp, by simp⟩
    rw [standard.functions]
    exact Builtin.library_present standard.taken

/-- So is the store with the variables of the host. -/
theorem inner_sound (standard : IsStandard s w)
    (given : ∀ entry ∈ bindings, entry.2.Present w.store) :
    (innerStore s w bindings).Sound ∧ w.store.Grown (innerStore s w bindings) := by
  obtain ⟨sound, grown⟩ := standard.library_sound
  have opened : (libraryIn s w).2.store.Grown (innerStore s w bindings) := by
    constructor <;> simp [innerStore]
  exact ⟨sound_extended sound _ fun entry member => (given entry member).grown grown,
    grown.trans opened⟩

theorem inner_below (standard : IsStandard s w) :
    (innerScope s w).Below (innerStore s w bindings).levels.size := by
  obtain ⟨made, outer, -⟩ : (libraryIn s w).1.level < (libraryIn s w).2.store.levels.size ∧
      (libraryIn s w).1.outer = [] ∧ _ := standard.reachable.coherent.libraryIn.library _ rfl
  intro l member
  rw [size_innerStore]
  change l ∈ _ :: (libraryIn s w).1.level :: (libraryIn s w).1.outer at member
  rw [outer] at member
  rcases List.mem_pair.mp member with rfl | rfl
  · exact Nat.lt_succ_self _
  · exact Nat.lt_succ_of_lt made

/-- A text that is evaluated with success has trees, whose values are its answers. -/
theorem evaluateNodes_eq_ok (standard : IsStandard s w) {fuel elapsed : Nat}
    {answers : List (Node × Value)}
    (evaluated : (evaluateNodes fuel elapsed text bindings (s, w)).1 = .ok answers) :
    ∃ nodes values after, s.treesOf text = .ok nodes ∧ answers = nodes.zip values ∧
      evaluateAll (.standard s.limit w.now) fuel (innerScope s w) nodes
        { store := innerStore s w bindings } = (.ok values, after) ∧
      (evaluateNodes fuel elapsed text bindings (s, w)).2.2.store = after.store := by
  obtain ⟨_, _, -, computed⟩ := standard.reachable.coherent.compute_eq fuel text bindings
  obtain ⟨stats, kept⟩ := evaluateNodes_snd fuel elapsed text bindings (s, w)
  rw [evaluateNodes_fst, computed] at evaluated
  rw [kept, computed]
  cases parsed : s.treesOf text with
  | error e => simp [parsed] at evaluated
  | ok nodes =>
    simp only [parsed, standard.setting_eq] at evaluated ⊢
    cases outcome : evaluateAll (.standard s.limit w.now) fuel (innerScope s w) nodes
        { store := innerStore s w bindings } with
    | mk result after =>
      rw [outcome] at evaluated
      cases result with
      | error stop => cases evaluated
      | ok values => exact ⟨nodes, values, after, rfl, (Except.ok.inj evaluated).symm, outcome, rfl⟩

/-- A text whose trees have values has these for its answers. -/
theorem evaluateNodes_of (standard : IsStandard s w) {fuel : Nat} {values : List Value}
    {after : State} (parsed : s.treesOf text = .ok nodes)
    (evaluated : evaluateAll (.standard s.limit w.now) fuel (innerScope s w) nodes
      { store := innerStore s w bindings } = (.ok values, after)) (elapsed : Nat) :
    (evaluateNodes fuel elapsed text bindings (s, w)).1 = .ok (nodes.zip values) ∧
      (evaluateNodes fuel elapsed text bindings (s, w)).2.2.store = after.store := by
  obtain ⟨_, _, -, computed⟩ := standard.reachable.coherent.compute_eq fuel text bindings
  obtain ⟨stats, kept⟩ := evaluateNodes_snd fuel elapsed text bindings (s, w)
  rw [evaluateNodes_fst, kept, computed, parsed]
  dsimp only
  rw [standard.setting_eq, evaluated]
  exact ⟨rfl, rfl⟩

end IsStandard

/-- Values that are alike one by one go on so beside trees that are moved. -/
theorem forall₂_zip_map {C : Likeness} {values values' : List Value} (f : Node → Node)
    (alike : Value.LikeAll C values values') (nodes : List Node) :
    List.Forall₂ (fun a a' : Node × Value => a'.1 = f a.1 ∧ a.2.Like C a'.2)
      (nodes.zip values) ((nodes.map f).zip values') := by
  induction alike generalizing nodes with
  | nil =>
    rw [List.zip_nil_right, List.zip_nil_right]
    exact .nil
  | cons first _ ih =>
    cases nodes with
    | nil => exact .nil
    | cons n rest => exact .cons ⟨rfl, first⟩ (ih rest)

/-- Texts behind one another are evaluated as each of them alone. Where two texts are evaluated with
success in a standard session, the first of them not ending in a delimiter, so are both with any
delimiters between them: first come the answers of the first text, and then the trees of the second,
as many characters further on, with the values that they have alone. These are the same up to the
numbers of what is new and to the places of its closures. -/
theorem evaluateNodes_join {w : World} (standard : IsStandard s w) {bindings : Table Value}
    (given : ∀ entry ∈ bindings, entry.2.Present w.store)
    (apart : ∀ c ∈ text.toList.getLast?, isDelimiter c = false)
    (blank : ∀ c ∈ gap.toList, isDelimiter c = true) (nonempty : gap ≠ "")
    {fuel fuel' elapsed elapsed' : Nat} {answers answers' : List (Node × Value)}
    (first : (evaluateNodes fuel elapsed text bindings (s, w)).1 = .ok answers)
    (second : (evaluateNodes fuel' elapsed' text' bindings (s, w)).1 = .ok answers')
    (elapsedTogether : Nat) :
    ∃ moved C,
      (evaluateNodes (max fuel fuel') elapsedTogether (text ++ gap ++ text') bindings (s, w)).1 =
        .ok (answers ++ moved) ∧
      List.Forall₂ (fun alone together =>
        together.1 = alone.1.shift (text ++ gap).length ∧ alone.2.Like C together.2)
        answers' moved ∧
      Repeats w.store (· + (text ++ gap).length) C
        (evaluateNodes fuel' elapsed' text' bindings (s, w)).2.2.store
        (evaluateNodes (max fuel fuel') elapsedTogether (text ++ gap ++ text') bindings
          (s, w)).2.2.store := by
  obtain ⟨nodes, values, mid, parsed, rfl, evaluated, -⟩ := standard.evaluateNodes_eq_ok first
  obtain ⟨nodes', values', after, parsed', rfl, evaluated', left⟩ :=
    standard.evaluateNodes_eq_ok second
  obtain ⟨sound, grown⟩ := standard.inner_sound given
  have joined := treesOf_join standard.lexicon parsed parsed' apart blank nonempty
  obtain ⟨moved, final, C, together, repeats, alike⟩ :=
    evaluateAll_behind s.limit w.now sound standard.inner_below
      (present_of_treesOf standard.lexicon parsed' _) (· + (text ++ gap).length)
      (evaluateAll_mono (Nat.le_max_left fuel fuel') evaluated)
      (evaluateAll_mono (Nat.le_max_right fuel fuel') evaluated')
  obtain ⟨answered, kept⟩ := standard.evaluateNodes_of joined together elapsedTogether
  obtain ⟨stage, stages, -⟩ := exists_stages evaluated
  rw [List.zip_append stages.size.symm] at answered
  refine ⟨_, C, answered, forall₂_zip_map _ alike nodes', ?_⟩
  rw [left, kept]
  exact { repeats with present := Likeness.le_trans (Likeness.present_mono grown) repeats.present }

/-- The first text makes an array, so the array and the closure of the second text have later
numbers behind it than alone, and the closure has another place. -/
theorem evaluateNodes_join_arrays :
    ∃ answers answers' moved C,
      (evaluateNodes 10 0 "(array 1)" [("a", .null)] (standard, { now := ⟨0, 0, 0⟩ })).1 =
        .ok answers ∧
      (evaluateNodes 9 0 "(array a \x7bx x\x7d)" [("a", .null)]
        (standard, { now := ⟨0, 0, 0⟩ })).1 = .ok answers' ∧
      answers.length = 1 ∧ answers'.length = 1 ∧
      (evaluateNodes 10 0 "(array 1), (array a \x7bx x\x7d)" [("a", .null)]
        (standard, { now := ⟨0, 0, 0⟩ })).1 = .ok (answers ++ moved) ∧
      List.Forall₂ (fun alone together =>
        together.1 = alone.1.shift 11 ∧ alone.2.Like C together.2) answers' moved := by
  have sound : ({} : Store).Sound := by
    intro level entry member
    rw [Store.locals_of_size_le _ (Nat.zero_le level)] at member
    cases member
  have started : IsStandard standard { now := ⟨0, 0, 0⟩ } :=
    { reachable := .start (closed_empty _) ⟨Lexicon.standard_below, Builtin.library_below⟩
      lexicon := rfl
      functions := rfl
      hosts := rfl
      sound := sound
      taken := Nat.le_refl _ }
  have given : ∀ entry ∈ [("a", Value.null)], entry.2.Present {} :=
    List.forall_mem_singleton.mpr .null
  have ends : (evaluateNodes 10 0 "(array 1)" [("a", .null)]
      (standard, { now := ⟨0, 0, 0⟩ })).1.toOption.map List.length = some 1 := by decide +kernel
  have ends' : (evaluateNodes 9 0 "(array a \x7bx x\x7d)" [("a", .null)]
      (standard, { now := ⟨0, 0, 0⟩ })).1.toOption.map List.length = some 1 := by decide +kernel
  have apart : ∀ c ∈ "(array 1)".toList.getLast?, isDelimiter c = false := by
    rintro c ⟨⟩
    decide
  have blank : ∀ c ∈ ", ".toList, isDelimiter c = true := List.all_eq_true.mp (by decide)
  have texts : "(array 1)" ++ ", " ++ "(array a \x7bx x\x7d)" =
      "(array 1), (array a \x7bx x\x7d)" := by decide
  have distance : ("(array 1)" ++ ", ").length = 11 := by decide
  cases first : (evaluateNodes 10 0 "(array 1)" [("a", .null)]
      (standard, { now := ⟨0, 0, 0⟩ })).1 with
  | error stop =>
    rw [first] at ends
    cases ends
  | ok answers =>
    cases second : (evaluateNodes 9 0 "(array a \x7bx x\x7d)" [("a", .null)]
        (standard, { now := ⟨0, 0, 0⟩ })).1 with
    | error stop =>
      rw [second] at ends'
      cases ends'
    | ok answers' =>
      rw [first] at ends
      rw [second] at ends'
      obtain ⟨moved, C, together, alike, -⟩ :=
        evaluateNodes_join started given apart blank (by decide) first second 0
      rw [texts] at together
      rw [distance] at alike
      exact ⟨answers, answers', moved, C, rfl, rfl, Option.some.inj ends, Option.some.inj ends',
        together, alike⟩

end Session

end Bracket
