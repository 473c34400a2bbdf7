import Bracket.Token.Lexicon
import Mathlib.Algebra.GroupWithZero.Nat

/-!
How tokens are written. A token is written as its text, but the quotes inside a quoted text are
written with a backslash before them. Main statement: the tokens of a text stand one behind the
other and are together written as the text, so that nothing of it is lost.
-/

namespace Bracket

/-- Puts a backslash before every quote. -/
def Lexeme.escape (quote : Char) (content : List Char) : List Char :=
  content.flatMap fun c => if c = quote then ['\\', c] else [c]

namespace Token

/-- How a token is written: a quoted text with its quotes, the first character of its text, and
with those inside it escaped; any other token as its text. -/
def source (t : Token) : List Char :=
  match t.kind, t.text.toList with
  | .literal (.string content), quote :: _ =>
    quote :: Lexeme.escape quote content.toList ++ [quote]
  | _, text => text

/-- The content of a quoted text stands between two quotes of one of the two kinds. -/
def Quoted (t : Token) : Prop :=
  ∀ content, t.kind = .literal (.string content) →
    ∃ quote, (quote = '"' ∨ quote = '\'') ∧ t.text.toList = quote :: content.toList ++ [quote]

/-- The tokens stand one behind the other from an offset on. -/
def Contiguous : Nat → List Token → Prop
  | _, [] => True
  | offset, t :: rest => t.offset = offset ∧ Contiguous (offset + t.length) rest

/-- The token is what a text starts with. -/
structure Starts (t : Token) (cs : List Char) : Prop where
  written : ∃ rest, cs = t.source ++ rest
  length_source : t.source.length = t.length
  quoted : t.Quoted

/-- A token of this kind is no quoted text. -/
def Kind.Plain (kind : Kind) : Prop := ∀ s, kind ≠ .literal (.string s)

theorem source_of_plain {t : Token} (plain : t.kind.Plain) : t.source = t.text.toList := by
  unfold source
  split
  · next s _ _ same _ => exact absurd same (plain s)
  · rfl

/-- A token that is not quoted starts a text if its text does. -/
theorem starts_of_plain {t : Token} {cs : List Char} (rest : List Char) (plain : t.kind.Plain)
    (split : cs = t.text.toList ++ rest) (length : t.text.toList.length = t.length) :
    t.Starts cs := by
  refine ⟨⟨rest, ?_⟩, ?_, ?_⟩
  · rw [source_of_plain plain, split]
  · rw [source_of_plain plain, length]
  · intro content same
    exact absurd same (plain content)

end Token

namespace Lexicon

/-- The recognizer claims only what a text starts with. -/
def Honest (r : Recognizer) : Prop := ∀ cs t, r cs = .ok (some t) → t.Starts cs

/-! ### The standard recognizers are honest -/

theorem single_honest {kinds : List (Char × Token.Kind)}
    (plain : ∀ entry ∈ kinds, entry.2.Plain) : Honest (single kinds) := by
  intro cs t claimed
  cases cs with
  | nil => cases claimed
  | cons c rest =>
    obtain ⟨entry, found, rfl⟩ := Option.map_eq_some_iff.mp (Except.ok.inj claimed)
    have member := List.mem_of_find?_eq_some found
    exact Token.starts_of_plain rest (plain entry member) (by simp) (by simp)

/-- A run of characters that a text starts with is a token that the text starts with. -/
theorem starts_of_run? {kind : Token.Kind} {run cs rest : List Char} {t : Token}
    (plain : kind.Plain) (split : cs = run ++ rest) (claimed : run? kind run = some t) :
    t.Starts cs := by
  unfold run? at claimed
  split at claimed
  · cases claimed
  · rw [← Option.some.inj claimed]
    exact Token.starts_of_plain rest plain (by simpa using split) (by simp)

theorem split_takeWhile (p : Char → Bool) (cs : List Char) :
    cs = cs.takeWhile p ++ cs.dropWhile p := List.takeWhile_append_dropWhile.symm

theorem delimiter_honest : Honest delimiter := by
  intro cs t claimed
  exact starts_of_run? (by simp [Token.Kind.Plain]) (split_takeWhile _ cs) (Except.ok.inj claimed)

theorem run?_kind {kind : Token.Kind} {run : List Char} {t : Token}
    (claimed : run? kind run = some t) : t.kind = kind := by
  unfold run? at claimed
  split at claimed
  · cases claimed
  · rw [← Option.some.inj claimed]

/-- A name is a run of characters of one class. -/
theorem identifier_run {cs : List Char} {t : Token} (claimed : identifier cs = .ok (some t)) :
    ∃ p : Char → Bool, run? (.literal .identifier) (cs.takeWhile p) = some t := by
  by_cases none : (cs.takeWhile Lexeme.isOperator).isEmpty = true
  · simp only [identifier, none, if_true] at claimed
    split at claimed
    · split at claimed
      · exact ⟨_, Except.ok.inj claimed⟩
      · cases claimed
    · cases claimed
  · simp only [identifier, none] at claimed
    exact ⟨_, Except.ok.inj claimed⟩

theorem identifier_honest : Honest identifier := by
  intro cs t claimed
  obtain ⟨p, run⟩ := identifier_run claimed
  exact starts_of_run? (by simp [Token.Kind.Plain]) (split_takeWhile p cs) run

theorem specialNumber?_starts {cs : List Char} {t : Token} (claimed : specialNumber? cs = some t) :
    t.Starts cs := by
  obtain ⟨⟨word, n⟩, _, found⟩ := List.exists_of_findSome?_eq_some claimed
  simp only [Option.ite_none_right_eq_some, Option.some.injEq, List.isPrefixOf_iff_prefix] at found
  obtain ⟨⟨rest, split⟩, rfl⟩ := found
  exact Token.starts_of_plain rest (by simp [Token.exact, Token.Kind.Plain]) split.symm
    String.length_toList

theorem number_honest : Honest number := by
  intro cs t claimed
  unfold number at claimed
  split at claimed
  · next word found =>
    rw [← Option.some.inj (Except.ok.inj claimed)]
    exact specialNumber?_starts found
  · obtain ⟨n, _, run⟩ := Option.bind_eq_some_iff.mp (Except.ok.inj claimed)
    exact starts_of_run? (by simp [Token.Kind.Plain]) (split_takeWhile _ cs) run

/-- A quoted text that is closed is written as its content with the quotes escaped. -/
theorem readQuoted_terminated {quote : Char} {cs : List Char}
    (closed : (Lexeme.readQuoted quote cs).terminated = true) :
    ∃ rest, cs = Lexeme.escape quote (Lexeme.readQuoted quote cs).content ++ quote :: rest ∧
      (Lexeme.readQuoted quote cs).consumed =
        (Lexeme.escape quote (Lexeme.readQuoted quote cs).content).length + 1 := by
  fun_induction Lexeme.readQuoted quote cs with
  | case1 => cases closed
  | case2 => exact ⟨[], rfl, rfl⟩
  | case3 => cases closed
  | case4 c d rest escaped ih =>
    obtain ⟨rfl, rfl⟩ := escaped
    obtain ⟨behind, split, consumed⟩ := ih closed
    refine ⟨behind, ?_, ?_⟩
    · simp only [Lexeme.Quoted.cons, Lexeme.escape, List.flatMap_cons, if_true, List.cons_append,
        List.nil_append, List.cons.injEq, true_and]
      exact split
    · simp only [Lexeme.Quoted.cons, Lexeme.escape, List.flatMap_cons, if_true, List.length_append,
        List.length_cons, List.length_nil] at consumed ⊢
      omega
  | case5 d rest _ => exact ⟨d :: rest, rfl, rfl⟩
  | case6 c d rest _ ordinary ih =>
    obtain ⟨behind, split, consumed⟩ := ih closed
    refine ⟨behind, ?_, ?_⟩
    · simp only [Lexeme.Quoted.cons, Lexeme.escape, List.flatMap_cons, ordinary, if_false,
        List.cons_append, List.nil_append, List.cons.injEq, true_and]
      exact split
    · simp only [Lexeme.Quoted.cons, Lexeme.escape, List.flatMap_cons, ordinary, if_false,
        List.length_append, List.length_cons, List.length_nil] at consumed ⊢
      omega

theorem quoted_honest {quote : Char} (standard : quote = '"' ∨ quote = '\'') :
    Honest (quoted quote) := by
  intro cs t claimed
  cases cs with
  | nil => cases claimed
  | cons c cs =>
    simp only [quoted] at claimed
    split at claimed
    · next same =>
      subst same
      split at claimed
      · next closed =>
        obtain ⟨rest, split, consumed⟩ := readQuoted_terminated closed
        rw [← Option.some.inj (Except.ok.inj claimed)]
        refine ⟨⟨rest, ?_⟩, ?_, ?_⟩
        · simpa [Token.source] using split
        · simp [Token.source, consumed]
        · intro content kind
          obtain rfl : String.ofList _ = content := by simpa using kind
          exact ⟨c, standard, by simp⟩
      · cases claimed
    · cases claimed

/-! ### The standard lexicon is honest -/

theorem firstClaim_starts {tier : List (String × Recognizer)}
    (honest : ∀ entry ∈ tier, Honest entry.2) {cs : List Char} {t : Token}
    (claimed : firstClaim tier cs = .ok (some t)) : t.Starts cs := by
  induction tier with
  | nil => cases claimed
  | cons entry rest ih =>
    unfold firstClaim at claimed
    split at claimed
    · cases claimed
    · next found =>
      rw [← Option.some.inj (Except.ok.inj claimed)]
      exact honest _ List.mem_cons_self cs _ found
    · exact ih (fun other member => honest other (List.mem_cons_of_mem _ member)) claimed

theorem standard_nests_honest : ∀ entry ∈ standardNests, Honest entry.2 := by
  intro entry member
  simp only [standardNests, List.mem_cons, List.not_mem_nil, or_false] at member
  rcases member with rfl | rfl | rfl <;> exact single_honest (by simp [Token.Kind.Plain])

theorem standard_primitives_honest : ∀ entry ∈ standardPrimitives, Honest entry.2 := by
  intro entry member
  simp only [standardPrimitives, List.mem_cons, List.not_mem_nil, or_false] at member
  rcases member with rfl | rfl | rfl | rfl
  · exact delimiter_honest
  · exact quoted_honest (.inl rfl)
  · exact quoted_honest (.inr rfl)
  · exact number_honest

/-- Resolving a keyword keeps the text, and no keyword of the standard lexicon stands for a quoted
text. -/
theorem standard_keywords_keep {t t' : Token} :
    ∀ entry ∈ standardKeywords, entry.2 t = some t' →
      ∃ kind : Token.Kind, kind.Plain ∧ t' = t.reclassify kind := by
  intro entry member found
  simp only [standardKeywords, List.mem_cons, List.not_mem_nil, or_false] at member
  rcases member with rfl | rfl | rfl
  · simp only [boolean] at found
    split at found
    · exact ⟨_, by simp [Token.Kind.Plain], (Option.some.inj found).symm⟩
    · split at found
      · exact ⟨_, by simp [Token.Kind.Plain], (Option.some.inj found).symm⟩
      · cases found
  · simp only [keyword, Option.ite_none_right_eq_some] at found
    exact ⟨_, by simp [Token.Kind.Plain], (Option.some.inj found.2).symm⟩
  · simp only [keyword, Option.ite_none_right_eq_some] at found
    exact ⟨_, by simp [Token.Kind.Plain], (Option.some.inj found.2).symm⟩

/-- A registry without local entries holds its defaults. -/
theorem toList_defaults {α : Type} (defaults : List (String × α)) :
    (⟨defaults, []⟩ : Registry α).toList = defaults := by
  simp [Registry.toList, Table.contains, Table.get?]

theorem standard_resolve_starts {cs : List Char} {t : Token} (plain : t.kind.Plain)
    (starts : t.Starts cs) : (standard.resolve t).Starts cs := by
  unfold resolve
  cases found : standard.keywords.toList.findSome? fun entry => entry.2 t with
  | none => exact starts
  | some t' =>
    obtain ⟨entry, member, resolved⟩ := List.exists_of_findSome?_eq_some found
    rw [standard, toList_defaults] at member
    obtain ⟨kind, plain', rfl⟩ := standard_keywords_keep entry member resolved
    obtain ⟨⟨rest, split⟩, length, _⟩ := starts
    rw [Token.source_of_plain plain] at split length
    exact Token.starts_of_plain rest plain' split length

theorem standard_recognize_starts {cs : List Char} {t : Token}
    (claimed : standard.recognize cs = .ok (some t)) : t.Starts cs := by
  unfold recognize at claimed
  simp only [standard, toList_defaults] at claimed
  split at claimed
  · cases claimed
  · next found =>
    rw [← Option.some.inj (Except.ok.inj claimed)]
    exact firstClaim_starts standard_nests_honest found
  · split at claimed
    · cases claimed
    · next found =>
      rw [← Option.some.inj (Except.ok.inj claimed)]
      exact firstClaim_starts standard_primitives_honest found
    · split at claimed
      · cases claimed
      · next claim found =>
        obtain ⟨name, rfl, rfl⟩ := Option.map_eq_some_iff.mp (Except.ok.inj claimed)
        have named : identifier cs = .ok (some name) := by
          simp only [standardIdentifiers, firstClaim] at found
          split at found
          · cases found
          · next same => rw [same, found]
          · cases found
        obtain ⟨p, run⟩ := identifier_run named
        have plain : name.kind.Plain := by simp [run?_kind run, Token.Kind.Plain]
        exact standard_resolve_starts plain (identifier_honest cs name named)

/-! ### Nothing of a text is lost -/

/-- The tokens of a scan stand one behind the other, none of them is empty, and together they are
written as the text. -/
theorem scan_written {offset : Nat} {cs : List Char} {tokens : List Token}
    (scanned : standard.scan offset cs = (tokens, none)) :
    Token.Contiguous offset tokens ∧ tokens.flatMap Token.source = cs ∧
      ∀ t ∈ tokens, 0 < t.length ∧ t.source.length = t.length ∧ t.Quoted := by
  fun_induction standard.scan offset cs generalizing tokens with
  | case1 =>
    obtain rfl : [] = tokens := congrArg Prod.fst scanned
    simp [Token.Contiguous]
  | case2 | case3 | case4 => simp at scanned
  | case5 offset c rest t claimed some tail failure behind ih =>
    obtain ⟨rfl, rfl⟩ : { t with offset } :: tail = tokens ∧ failure = none := by
      simpa using scanned
    obtain ⟨⟨remaining, split⟩, length, quoted⟩ := standard_recognize_starts claimed
    obtain ⟨contiguous, written, sound⟩ := ih behind
    have cut : (c :: rest).drop t.length = remaining := by
      rw [split, ← length, List.drop_left]
    refine ⟨⟨rfl, contiguous⟩, ?_, ?_⟩
    · rw [List.flatMap_cons, written, cut]
      exact split.symm
    · intro t' member
      rcases List.mem_cons.mp member with equal | later
      · subst equal
        exact ⟨Nat.pos_of_ne_zero some, length, quoted⟩
      · exact sound t' later

end Lexicon

namespace Token

/-- Where tokens stand one behind the other, each is written in its own place. -/
theorem Contiguous.slice {offset : Nat} {tokens : List Token}
    (contiguous : Contiguous offset tokens) (exact : ∀ t ∈ tokens, t.source.length = t.length) :
    ∀ t ∈ tokens, offset ≤ t.offset ∧
      ((tokens.flatMap source).drop (t.offset - offset)).take t.length = t.source := by
  induction tokens generalizing offset with
  | nil => simp
  | cons first rest ih =>
    obtain ⟨start, behind⟩ := contiguous
    have length := exact first List.mem_cons_self
    intro t member
    rcases List.mem_cons.mp member with equal | later
    · subst equal
      refine ⟨Nat.le_of_eq start.symm, ?_⟩
      rw [start, Nat.sub_self, List.drop_zero, List.flatMap_cons, ← length, List.take_left]
    · obtain ⟨after, place⟩ := ih behind (fun t m => exact t (List.mem_cons_of_mem _ m)) t later
      refine ⟨by omega, ?_⟩
      have shift : t.offset - offset =
          first.source.length + (t.offset - (offset + first.length)) := by
        omega
      rw [List.flatMap_cons, shift, ← List.drop_drop, List.drop_left]
      exact place

theorem sum_length {tokens : List Token} (exact : ∀ t ∈ tokens, t.source.length = t.length) :
    (tokens.map length).sum = (tokens.flatMap source).length := by
  induction tokens with
  | nil => rfl
  | cons first rest ih =>
    rw [List.map_cons, List.sum_cons, List.flatMap_cons, List.length_append,
      ih fun t member => exact t (List.mem_cons_of_mem _ member), exact first List.mem_cons_self]

end Token

/-- Tokenizing loses nothing: the tokens stand one behind the other from the start on, none is
empty, their lengths add up to that of the text, each is written in its place as its text or, if
it is quoted, with its quotes escaped, and together they are written as the text. -/
theorem tokenize_lossless {text : String} {tokens : List Token}
    (tokenized : Lexicon.standard.tokenize text = .ok tokens) :
    Token.Contiguous 0 tokens ∧ (∀ t ∈ tokens, 0 < t.length) ∧
      (tokens.map Token.length).sum = text.length ∧
      (∀ t ∈ tokens, (text.toList.drop t.offset).take t.length = t.source ∧ t.Quoted) ∧
      tokens.flatMap Token.source = text.toList := by
  have scanned : Lexicon.standard.scan 0 text.toList = (tokens, none) := by
    unfold Lexicon.tokenize at tokenized
    split at tokenized
    · next same => rw [same, Except.ok.inj tokenized]
    · cases tokenized
  obtain ⟨contiguous, written, sound⟩ := Lexicon.scan_written scanned
  have exact : ∀ t ∈ tokens, t.source.length = t.length := fun t member => (sound t member).2.1
  refine ⟨contiguous, fun t member => (sound t member).1, ?_, ?_, written⟩
  · rw [Token.sum_length exact, written, String.length_toList]
  · intro t member
    have place := (contiguous.slice exact t member).2
    rw [written, Nat.sub_zero] at place
    exact ⟨place, (sound t member).2.2⟩

theorem tokenize_lossless_escaped :
    ∃ tokens, Lexicon.standard.tokenize "('it\\'s' -NaN)" = .ok tokens ∧
      tokens.map (fun t => (t.text, t.length, t.offset)) =
        [("(", 1, 0), ("'it's'", 7, 1), (" ", 1, 8), ("-NaN", 4, 9), (")", 1, 13)] ∧
      tokens.flatMap Token.source = "('it\\'s' -NaN)".toList := by
  have found : (Lexicon.standard.tokenize "('it\\'s' -NaN)").toOption.map
      (fun tokens => tokens.map fun t => (t.text, t.length, t.offset)) =
        some [("(", 1, 0), ("'it's'", 7, 1), (" ", 1, 8), ("-NaN", 4, 9), (")", 1, 13)] := by
    decide +kernel
  cases tokenized : Lexicon.standard.tokenize "('it\\'s' -NaN)" with
  | error e => simp [tokenized, Except.toOption] at found
  | ok tokens =>
    rw [tokenized] at found
    exact ⟨tokens, rfl, Option.some.inj found, (tokenize_lossless tokenized).2.2.2.2⟩

end Bracket
