import Bracket.Proofs.Grammar
import Bracket.Proofs.Parallel.Pairing
import Mathlib.Data.List.Chain

/-!
Delimiters among tokens. They only separate what stands around them, on either side of a bracket and
before a period; but a period takes the very next token as its name, and that may be a delimiter.
Main statement: leaving the delimiters out keeps the trees exactly if no period stands directly
before a delimiter, or if there are no trees.
-/

namespace Bracket

namespace Token

def isDelimiter (t : Token) : Bool :=
  match t.kind with
  | .delimiter => true
  | _ => false

def isPeriod (t : Token) : Bool :=
  match t.kind with
  | .period => true
  | _ => false

def isLiteral (t : Token) : Bool :=
  match t.kind with
  | .literal _ => true
  | _ => false

/-- The tokens that do more than separate. -/
def withoutDelimiters (ts : List Token) : List Token := ts.filter fun t => !t.isDelimiter

/-- The second token does not become the name of a member by standing directly behind a period. -/
def Apart (t u : Token) : Prop := ¬ (t.kind = .period ∧ u.kind = .delimiter)

theorem isDelimiter_iff {t : Token} : t.isDelimiter = true ↔ t.kind = .delimiter := by
  unfold isDelimiter
  cases t.kind <;> simp

theorem withoutDelimiters_cons_of_kind {t : Token} {rest : List Token}
    (other : t.kind ≠ .delimiter) :
    withoutDelimiters (t :: rest) = t :: withoutDelimiters rest := by
  apply List.filter_cons_of_pos
  rwa [Bool.not_eq_true', ← Bool.not_eq_true, isDelimiter_iff]

theorem withoutDelimiters_cons_delimiter {d : Token} {rest : List Token}
    (separates : d.kind = .delimiter) :
    withoutDelimiters (d :: rest) = withoutDelimiters rest := by
  apply List.filter_cons_of_neg
  simpa [isDelimiter_iff] using separates

theorem kind_ne_of_mem_withoutDelimiters {t : Token} {ts : List Token}
    (member : t ∈ withoutDelimiters ts) : t.kind ≠ .delimiter := by
  intro separates
  have kept := (List.mem_filter.mp member).2
  rw [isDelimiter_iff.mpr separates] at kept
  cases kept

theorem withoutDelimiters_eq_nil_iff {ts : List Token} :
    withoutDelimiters ts = [] ↔ ∀ d ∈ ts, d.kind = .delimiter := by
  simp [withoutDelimiters, isDelimiter_iff]

/-- Delimiters stand before the first of the other tokens. -/
theorem exists_gap_of_cons {t : Token} {ts us : List Token}
    (kept : withoutDelimiters ts = t :: us) :
    ∃ gap rest, ts = gap ++ t :: rest ∧ (∀ d ∈ gap, d.kind = .delimiter) ∧
      withoutDelimiters rest = us := by
  obtain ⟨gap, rest, rfl, blank, -, behind⟩ := List.filter_eq_cons_iff.mp kept
  refine ⟨gap, rest, rfl, ?_, behind⟩
  intro d member
  simpa [isDelimiter_iff] using blank d member

/-- Delimiters stand on both sides of a token that is the only other one. -/
theorem exists_gaps_of_singleton {t : Token} {ts : List Token}
    (kept : withoutDelimiters ts = [t]) :
    ∃ before after, ts = before ++ [t] ++ after ∧ (∀ d ∈ before, d.kind = .delimiter) ∧
      ∀ d ∈ after, d.kind = .delimiter := by
  obtain ⟨before, after, rfl, blank, behind⟩ := exists_gap_of_cons kept
  exact ⟨before, after, by simp, blank, withoutDelimiters_eq_nil_iff.mp behind⟩

/-- Delimiters stand on both sides of a bracket, and before the closing one. -/
theorem exists_gaps_of_bracket {o c : Token} {ts us : List Token}
    (kept : withoutDelimiters ts = o :: us ++ [c]) :
    ∃ before inner gap after, ts = before ++ (o :: (inner ++ gap) ++ [c]) ++ after ∧
      (∀ d ∈ before, d.kind = .delimiter) ∧ (∀ d ∈ gap, d.kind = .delimiter) ∧
      (∀ d ∈ after, d.kind = .delimiter) ∧ withoutDelimiters inner = us := by
  obtain ⟨before, rest, rfl, leading, keptRest⟩ := exists_gap_of_cons kept
  obtain ⟨inner, back, rfl, keptInner, keptBack⟩ := List.filter_eq_append_iff.mp keptRest
  obtain ⟨gap, after, rfl, blank, trailing⟩ := exists_gaps_of_singleton keptBack
  exact ⟨before, inner, gap, after, by simp, leading, blank, trailing, keptInner⟩

theorem exists_literal_of_kind {t : Token} (names : t.isStructural = false)
    (other : t.kind ≠ .delimiter) : ∃ l, t.kind = .literal l := by
  cases kind : t.kind with
  | literal l => exact ⟨l, rfl⟩
  | delimiter => exact absurd kind other
  | _ => simp [isStructural, kind] at names

end Token

namespace Node

open Token

/-! ### Tokens whose periods are followed by names -/

/-- Where no period stands directly before a delimiter, leaving the delimiters out makes no
difference, not even to how it fails. -/
theorem build_withoutDelimiters (limit : Nat) (nest : Nest) (ts : List Token)
    (apart : ts.IsChain Apart) :
    build limit nest (withoutDelimiters ts) = build limit nest ts := by
  fun_induction build limit nest ts with
  | case1 => rfl
  | case2 nest d rest separates ih =>
    rw [withoutDelimiters_cons_delimiter separates, ih apart.tail]
  | case3 nest o rest opens ih | case4 nest o rest opens ih =>
    rw [withoutDelimiters_cons_of_kind (by simp [opens]), ← ih apart.tail, build.eq_def]
    simp only [opens]
  | case5 nest c rest closes _ stuck | case7 nest c rest closes _ stuck =>
    rw [withoutDelimiters_cons_of_kind (by simp [closes]), build.eq_def]
    simp only [closes, stuck]
  | case6 nest c rest closes _ closed ih | case8 nest c rest closes _ closed ih =>
    rw [withoutDelimiters_cons_of_kind (by simp [closes]), ← ih apart.tail, build.eq_def]
    simp only [closes, closed]
  | case9 nest p divides =>
    rw [withoutDelimiters_cons_of_kind (by simp [divides]), build.eq_def]
    simp only [divides, withoutDelimiters, List.filter_nil]
  | case10 nest p divides name rest _ stuck =>
    have named : name.kind ≠ .delimiter := fun blank => apart.rel ⟨divides, blank⟩
    rw [withoutDelimiters_cons_of_kind (by simp [divides]), withoutDelimiters_cons_of_kind named,
      build.eq_def]
    simp only [divides, stuck]
  | case11 nest p divides name rest _ joined ih =>
    have named : name.kind ≠ .delimiter := fun blank => apart.rel ⟨divides, blank⟩
    rw [withoutDelimiters_cons_of_kind (by simp [divides]), withoutDelimiters_cons_of_kind named,
      ← ih apart.tail.tail, build.eq_def]
    simp only [divides, joined]
  | case12 nest t rest l stands _ stuck =>
    rw [withoutDelimiters_cons_of_kind (by simp [stands]), build.eq_def]
    simp only [stands, stuck]
  | case13 nest t rest l stands _ pushed ih =>
    rw [withoutDelimiters_cons_of_kind (by simp [stands]), ← ih apart.tail, build.eq_def]
    simp only [stands, pushed]

/-! ### Delimiters put back -/

theorem Derives.blanks {ts gap : List Token} {ns : List Node} (before : Derives ts (.sequence ns))
    (blank : ∀ d ∈ gap, d.kind = .delimiter) : Derives (ts ++ gap) (.sequence ns) := by
  induction gap generalizing ts with
  | nil => simpa using before
  | cons d gap ih =>
    rw [List.append_cons]
    apply ih (before.delimiter (blank d List.mem_cons_self))
    intro d' member
    exact blank d' (List.mem_cons_of_mem d member)

/-- A tree with delimiters on both sides is a sequence. -/
theorem Derives.surrounded {before us after : List Token} {n : Node}
    (item : Derives us (.item n)) (leading : ∀ d ∈ before, d.kind = .delimiter)
    (trailing : ∀ d ∈ after, d.kind = .delimiter) :
    Derives (before ++ us ++ after) (.sequence [n]) := by
  have start : Derives before (.sequence []) := by simpa using Derives.empty.blanks leading
  exact (start.snoc item).blanks trailing

/-- A bracket with delimiters on both sides, and before the closing one, is a sequence. -/
theorem surrounded_bracket {o c : Token} {us ts : List Token} {ns : List Node}
    {wrap : List Node → Node}
    (wraps : ∀ {vs ms}, Derives vs (.sequence ms) → Derives (o :: vs ++ [c]) (.item (wrap ms)))
    (tall : ∀ ms, (wrap ms).height = tallest ms + 1)
    (separated : ∀ {inner}, withoutDelimiters inner = us → ∃ ms, Derives inner (.sequence ms) ∧
      (ns ≠ [] → ms ≠ []) ∧ tallest ms ≤ tallest ns)
    (kept : withoutDelimiters ts = o :: us ++ [c]) :
    ∃ n, Derives ts (.sequence [n]) ∧ n.height ≤ (wrap ns).height := by
  obtain ⟨before, inner, gap, after, rfl, leading, blank, trailing, keptInner⟩ :=
    exists_gaps_of_bracket kept
  obtain ⟨ms, inside, -, low⟩ := separated keptInner
  refine ⟨wrap ms, (wraps (inside.blanks blank)).surrounded leading trailing, ?_⟩
  rw [tall, tall]
  omega

/-- A period behind a sequence takes its last tree as the target. -/
theorem Derives.access {ts gap : List Token} {ns : List Node} {p name : Token}
    (before : Derives ts (.sequence ns)) (nonempty : ns ≠ [])
    (blank : ∀ d ∈ gap, d.kind = .delimiter) (divides : p.kind = .period)
    (names : name.isStructural = false) :
    ∃ ms, Derives (ts ++ gap ++ [p, name]) (.sequence ms) ∧ ms ≠ [] ∧
      tallest ms ≤ tallest ns + 1 := by
  obtain ⟨ns, target, rfl⟩ := List.eq_nil_or_concat ns |>.resolve_left nonempty
  rw [List.concat_eq_append] at before
  obtain ⟨us, vs, gap', rfl, front, item, blank'⟩ := before.last
  have between : ∀ d ∈ gap' ++ gap, d.kind = .delimiter := by
    intro d member
    rcases List.mem_append.mp member with old | new
    · exact blank' d old
    · exact blank d new
  have joined := item.member between divides names
  refine ⟨ns ++ [.member p.mark target name.mark], ?_, by simp, ?_⟩
  · simpa using front.snoc joined
  · simp only [List.concat_eq_append, tallest_append, tallest, height]
    omega

/-- Delimiters may be put anywhere, and there are still trees, none of them taller than before.
A delimiter that comes to stand behind a period becomes the name, and the name a tree of its own. -/
theorem Derives.separated {us ts : List Token} {phrase : Phrase} (derives : Derives us phrase)
    (kept : withoutDelimiters ts = us) :
    ∃ ns, Derives ts (.sequence ns) ∧ (phrase.nodes ≠ [] → ns ≠ []) ∧
      tallest ns ≤ tallest phrase.nodes := by
  induction derives generalizing ts with
  | empty =>
    have blank := withoutDelimiters_eq_nil_iff.mp kept
    exact ⟨[], by simpa using Derives.empty.blanks blank, by simp [Phrase.nodes], Nat.zero_le _⟩
  | delimiter _ separates _ =>
    have member := kind_ne_of_mem_withoutDelimiters (kept ▸ List.mem_concat_self)
    exact absurd separates member
  | snoc _ _ ihBefore ihLast =>
    obtain ⟨front, back, rfl, keptFront, keptBack⟩ := List.filter_eq_append_iff.mp kept
    obtain ⟨ns, first, -, low⟩ := ihBefore keptFront
    obtain ⟨ms, second, filled, low'⟩ := ihLast keptBack
    refine ⟨ns ++ ms, first.append second, ?_, ?_⟩
    · intro _
      simp [filled (by simp [Phrase.nodes])]
    · simp only [Phrase.nodes, tallest_append] at low low' ⊢
      omega
  | leaf stands =>
    obtain ⟨before, after, rfl, leading, trailing⟩ := exists_gaps_of_singleton kept
    exact ⟨_, (Derives.leaf stands).surrounded leading trailing, by simp, Nat.le_refl _⟩
  | @call o c us ns opens _ closes ih =>
    obtain ⟨n, item, low⟩ := surrounded_bracket (fun inside => .call opens inside closes)
      (fun ms => height.eq_def (.call o.mark ms)) ih kept
    exact ⟨[n], item, by simp, by simpa [Phrase.nodes, tallest] using low⟩
  | @function o c us ns opens _ closes ih =>
    obtain ⟨n, item, low⟩ := surrounded_bracket (fun inside => .function opens inside closes)
      (fun ms => height.eq_def (.function o.mark ms)) ih kept
    exact ⟨[n], item, by simp, by simpa [Phrase.nodes, tallest] using low⟩
  | @member us gap p name target _ blank divides names ih =>
    have inside (t : Token) (member : t ∈ us ++ gap ++ [p, name]) : t.kind ≠ .delimiter :=
      kind_ne_of_mem_withoutDelimiters (kept ▸ member)
    obtain rfl : gap = [] := by
      apply List.eq_nil_iff_forall_not_mem.mpr
      intro d member
      exact inside d (by simp [member]) (blank d member)
    rw [List.append_nil] at kept inside
    obtain ⟨l, stands⟩ := exists_literal_of_kind names (inside name (by simp))
    obtain ⟨front, back, rfl, keptFront, keptBack⟩ := List.filter_eq_append_iff.mp kept
    obtain ⟨gap, rest, rfl, blank, keptRest⟩ := exists_gap_of_cons keptBack
    obtain ⟨between, after, rfl, blank', trailing⟩ := exists_gaps_of_singleton keptRest
    obtain ⟨ns, before, filled, low⟩ := ih keptFront
    have nonempty := filled (by simp [Phrase.nodes])
    simp only [Phrase.nodes, tallest, height] at low ⊢
    cases between with
    | nil =>
      obtain ⟨ms, access, more, low'⟩ := before.access nonempty blank divides names
      exact ⟨ms, by simpa using access.blanks trailing, fun _ => more, by omega⟩
    | cons d between =>
      have separates := blank' d List.mem_cons_self
      have named : d.isStructural = false := by simp [isStructural, separates]
      obtain ⟨ms, access, -, low'⟩ := before.access nonempty blank divides named
      have behind := access.blanks fun d' member => blank' d' (List.mem_cons_of_mem d member)
      refine ⟨ms ++ [.leaf name.mark l], ?_, by simp, ?_⟩
      · simpa using (behind.snoc (.leaf stands)).blanks trailing
      · simp only [tallest_append, tallest, height]
        omega

/-! ### Names that are delimiters -/

/-- The tokens of a phrase do not end in a period, which has its name behind it. -/
theorem Derives.getLast_ne_period {ts : List Token} {phrase : Phrase}
    (derives : Derives ts phrase) : ∀ t ∈ ts.getLast?, t.kind ≠ .period := by
  induction derives with
  | empty => simp
  | delimiter _ separates _ => simp [separates]
  | snoc _ _ ihBefore ihLast =>
    intro t last
    rw [List.getLast?_append, Option.mem_def, Option.or_eq_some_iff] at last
    rcases last with later | ⟨-, earlier⟩
    · exact ihLast t later
    · exact ihBefore t earlier
  | leaf stands => simp [stands]
  | call _ _ closes _ | function _ _ closes _ =>
    rw [List.getLast?_concat]
    simp [closes]
  | @member ts gap p name _ _ _ _ names _ =>
    rw [List.append_cons, List.getLast?_concat]
    rintro t ⟨⟩ divides
    simp [isStructural, divides] at names

theorem isChain_append_iff {ts us : List Token} (last : ∀ t ∈ ts.getLast?, t.kind ≠ .period) :
    (ts ++ us).IsChain Apart ↔ ts.IsChain Apart ∧ us.IsChain Apart := by
  rw [List.isChain_append, and_congr_right_iff]
  intro _
  exact and_iff_left fun t member u _ together => last t member together.1

theorem isChain_bracket_iff {o c : Token} {ts : List Token} (opens : o.kind ≠ .period)
    (closes : c.kind ≠ .delimiter) : (o :: ts ++ [c]).IsChain Apart ↔ ts.IsChain Apart := by
  rw [List.cons_append, List.isChain_cons, List.isChain_append]
  constructor
  · rintro ⟨-, inside, -⟩
    exact inside
  · intro inside
    refine ⟨fun t _ together => opens together.1, inside, .singleton c, ?_⟩
    rintro t - u ⟨⟩ together
    exact closes together.2

theorem isChain_member_iff {ts gap : List Token} {p name : Token}
    (last : ∀ t ∈ ts.getLast?, t.kind ≠ .period) (blank : ∀ d ∈ gap, d.kind = .delimiter)
    (divides : p.kind = .period) :
    (ts ++ gap ++ [p, name]).IsChain Apart ↔ ts.IsChain Apart ∧ name.kind ≠ .delimiter := by
  have between : ∀ t ∈ gap.getLast?, t.kind ≠ .period := by
    intro d member
    simp [blank d (List.mem_of_getLast? member)]
  have blanks : gap.IsChain Apart := by
    apply List.Pairwise.isChain
    apply List.pairwise_of_forall_mem_list
    rintro d member - - ⟨period, -⟩
    simp [blank d member] at period
  rw [List.append_assoc, isChain_append_iff last, isChain_append_iff between]
  simp [blanks, Apart, divides]

/-- A literal is a leaf of the trees or the name behind a period. So there are at most as many
literals as there are leaves and periods, and exactly as many if no name is a delimiter. -/
theorem Derives.countP_isLiteral {ts : List Token} {phrase : Phrase} (derives : Derives ts phrase) :
    ts.countP isLiteral ≤ (leavesAll phrase.nodes).length + ts.countP isPeriod ∧
      (ts.countP isLiteral = (leavesAll phrase.nodes).length + ts.countP isPeriod ↔
        ts.IsChain Apart) := by
  induction derives with
  | empty => simp [Phrase.nodes, leavesAll]
  | delimiter before separates ih =>
    rw [isChain_append_iff before.getLast_ne_period]
    simpa [isLiteral, isPeriod, separates] using ih
  | @snoc ts us ns n before last ihBefore ihLast =>
    rw [isChain_append_iff before.getLast_ne_period, ← ihBefore.2, ← ihLast.2]
    simp only [Phrase.nodes, leavesAll_eq_flatMap, List.flatMap_append, List.length_append,
      List.countP_append] at ihBefore ihLast ⊢
    omega
  | leaf stands => simp [Phrase.nodes, leavesAll, leaves, isLiteral, isPeriod, stands]
  | call opens _ closes ih | function opens _ closes ih =>
    rw [isChain_bracket_iff (by simp [opens]) (by simp [closes])]
    simpa [Phrase.nodes, leavesAll, leaves, isLiteral, isPeriod, opens, closes] using ih
  | @member ts gap p name target before blank divides names ih =>
    have literals : gap.countP isLiteral = 0 := by
      rw [List.countP_eq_zero]
      intro d member
      simp [isLiteral, blank d member]
    have periods : gap.countP isPeriod = 0 := by
      rw [List.countP_eq_zero]
      intro d member
      simp [isPeriod, blank d member]
    rw [isChain_member_iff before.getLast_ne_period blank divides, ← ih.2]
    cases kind : name.kind with
    | delimiter | literal =>
      simp [Phrase.nodes, leavesAll, leaves, isLiteral, isPeriod, divides, kind, literals,
        periods] at ih ⊢
      omega
    | _ => simp [isStructural, kind] at names

theorem isChain_withoutDelimiters (ts : List Token) : (withoutDelimiters ts).IsChain Apart := by
  apply List.Pairwise.isChain
  apply List.pairwise_of_forall_mem_list
  rintro t - u member ⟨-, separates⟩
  exact kind_ne_of_mem_withoutDelimiters member separates

/-- Trees that the tokens have with their delimiters and without them tell that no name is one. -/
theorem isChain_of_derives {ts : List Token} {ns : List Node} (whole : Derives ts (.sequence ns))
    (kept : Derives (withoutDelimiters ts) (.sequence ns)) : ts.IsChain Apart := by
  have literals : (withoutDelimiters ts).countP isLiteral = ts.countP isLiteral := by
    rw [withoutDelimiters, List.countP_filter]
    apply List.countP_congr
    intro t _
    unfold isLiteral isDelimiter
    cases t.kind <;> simp
  have periods : (withoutDelimiters ts).countP isPeriod = ts.countP isPeriod := by
    rw [withoutDelimiters, List.countP_filter]
    apply List.countP_congr
    intro t _
    unfold isPeriod isDelimiter
    cases t.kind <;> simp
  have exact := kept.countP_isLiteral.2.mpr (isChain_withoutDelimiters ts)
  rw [literals, periods] at exact
  exact whole.countP_isLiteral.2.mp exact

/-! ### Trees of tokens without delimiters -/

theorem ofTokens_withoutDelimiters {limit : Nat} {ts : List Token} (apart : ts.IsChain Apart) :
    ofTokens limit (withoutDelimiters ts) = ofTokens limit ts := by
  rw [ofTokens, ofTokens, build_withoutDelimiters limit {} ts apart]

theorem Bounded.tallest_le {limit : Nat} {ns : List Node} (fits : Bounded limit ns) :
    tallest ns ≤ limit := by
  induction ns with
  | nil => exact Nat.zero_le limit
  | cons n rest ih =>
    obtain ⟨first, later⟩ := List.forall_mem_cons.mp fits
    exact Nat.max_le.mpr ⟨first, ih later⟩

/-- Whatever has trees without its delimiters has trees with them. -/
theorem exists_ofTokens_of_withoutDelimiters {limit : Nat} {ts : List Token} {ns : List Node}
    (parsed : ofTokens limit (withoutDelimiters ts) = .ok ns) :
    ∃ ms, ofTokens limit ts = .ok ms := by
  obtain ⟨derives, fits⟩ := derives_of_ofTokens parsed
  obtain ⟨ms, whole, -, low⟩ := derives.separated rfl
  refine ⟨ms, whole.ofTokens_eq ?_⟩
  intro n member
  calc
    n.height ≤ tallest ms := height_le_tallest member
    _ ≤ tallest ns := low
    _ ≤ limit := fits.tallest_le

/-- Delimiters are dropped if no period stands directly before one. The trees are then those of the
other tokens, and so is a failure. If one does, and there are trees, then those of the other tokens
are different, or there are none: the period has taken the delimiter as its name. -/
theorem ofTokens_withoutDelimiters_iff (limit : Nat) (ts : List Token) :
    ((ofTokens limit (withoutDelimiters ts)).toOption = (ofTokens limit ts).toOption ↔
      (∃ e, ofTokens limit ts = .error e) ∨ ts.IsChain Apart) ∧
    (ts.IsChain Apart → ofTokens limit (withoutDelimiters ts) = ofTokens limit ts) := by
  refine ⟨⟨?_, ?_⟩, ofTokens_withoutDelimiters⟩
  · intro same
    cases whole : ofTokens limit ts with
    | error e => exact .inl ⟨e, rfl⟩
    | ok ns =>
      cases kept : ofTokens limit (withoutDelimiters ts) with
      | error e => simp [whole, kept, Except.toOption] at same
      | ok ms =>
        obtain rfl : ms = ns := by simpa [whole, kept, Except.toOption] using same
        exact .inr (isChain_of_derives (derives_of_ofTokens whole).1 (derives_of_ofTokens kept).1)
  · rintro (⟨e, failed⟩ | apart)
    · cases kept : ofTokens limit (withoutDelimiters ts) with
      | error e' => rw [failed]; rfl
      | ok ns =>
        obtain ⟨ms, parsed⟩ := exists_ofTokens_of_withoutDelimiters kept
        rw [failed] at parsed
        cases parsed
    · rw [ofTokens_withoutDelimiters apart]

/-- Delimiters are not always dropped: in `a. b` the blank is the name of the member, and without it
`b` is. -/
theorem ofTokens_blank_name :
    let a : Token := ⟨.literal .identifier, "a", 1, 0⟩
    let p : Token := ⟨.period, ".", 1, 1⟩
    let d : Token := ⟨.delimiter, " ", 1, 2⟩
    let b : Token := ⟨.literal .identifier, "b", 1, 3⟩
    let target : Node := .leaf ⟨"a", 0⟩ .identifier
    ofTokens 256 [a, p, d, b] =
        .ok [.member ⟨".", 1⟩ target ⟨" ", 2⟩, .leaf ⟨"b", 3⟩ .identifier] ∧
      ofTokens 256 (withoutDelimiters [a, p, d, b]) = .ok [.member ⟨".", 1⟩ target ⟨"b", 3⟩] ∧
      ¬ ∀ (limit : Nat) (ts : List Token),
        (ofTokens limit (withoutDelimiters ts)).toOption = (ofTokens limit ts).toOption := by
  intro a p d b target
  have whole : ofTokens 256 [a, p, d, b] =
      .ok [.member ⟨".", 1⟩ target ⟨" ", 2⟩, .leaf ⟨"b", 3⟩ .identifier] := rfl
  have kept : ofTokens 256 (withoutDelimiters [a, p, d, b]) =
      .ok [.member ⟨".", 1⟩ target ⟨"b", 3⟩] := rfl
  refine ⟨whole, kept, ?_⟩
  intro dropped
  have same := dropped 256 [a, p, d, b]
  simp [whole, kept, Except.toOption] at same

end Node

end Bracket
