import Bracket.Proofs.Placement

/-!
Progress through a text, whatever the recognizers of a lexicon claim. A scan tries for a token at
the start of the text and behind every token that it got; each token takes it further on, even one
that claims more than is left, and an empty claim ends it. So tokens are laid out without gaps
inside the text, and an error names a place where a token was tried for.
-/

namespace Bracket

/-- The errors of recognizers: a text without its closing quote, and complaints of a host's own. -/
def Error.IsLexical : Error → Prop
  | .unclosedString _ _ | .type _ => True
  | _ => False

namespace Token

theorem map_length_layOut (offset : Nat) (ts : List Token) :
    (layOut offset ts).map length = ts.map length := by
  induction ts generalizing offset with
  | nil => rfl
  | cons t rest ih => rw [layOut, List.map_cons, List.map_cons, ih]

theorem getElem?_layOut (offset : Nat) (ts : List Token) (i : Nat) :
    (layOut offset ts)[i]? =
      ts[i]?.map fun t => { t with offset := offset + ((ts.take i).map length).sum } := by
  induction ts generalizing offset i with
  | nil => rfl
  | cons t rest ih =>
    cases i with
    | zero => rfl
    | succ i => simp [layOut, ih, Nat.add_assoc]

end Token

namespace Lexicon

/-! ### Recognizers that keep to their errors -/

/-- Whatever the recognizer claims, it fails with errors of recognizers only. -/
def FailsTamely (recognizer : Recognizer) : Prop :=
  ∀ cs e, recognizer cs = .error e → e.IsLexical

structure Tame (lexicon : Lexicon) : Prop where
  nests : ∀ entry ∈ lexicon.nests.toList, FailsTamely entry.2
  primitives : ∀ entry ∈ lexicon.primitives.toList, FailsTamely entry.2
  identifiers : ∀ entry ∈ lexicon.identifiers.toList, FailsTamely entry.2

theorem failsTamely_identifier : FailsTamely identifier := by
  intro cs e failed
  simp only [identifier] at failed
  split at failed
  · split at failed
    · split at failed <;> cases failed
    · cases failed
  · cases failed

theorem isLexical_of_firstClaim {tier : List (String × Recognizer)}
    (tame : ∀ entry ∈ tier, FailsTamely entry.2) {cs : List Char} {e : Error}
    (failed : firstClaim tier cs = .error e) : e.IsLexical := by
  induction tier with
  | nil => cases failed
  | cons entry rest ih =>
    rw [firstClaim] at failed
    split at failed
    next e' fails =>
      cases failed
      exact tame entry List.mem_cons_self cs e fails
    next => cases failed
    next => exact ih (fun later member => tame later (List.mem_cons_of_mem _ member)) failed

theorem Tame.isLexical {lexicon : Lexicon} (tame : lexicon.Tame) {cs : List Char} {e : Error}
    (failed : lexicon.recognize cs = .error e) : e.IsLexical := by
  rw [recognize] at failed
  split at failed
  next e' fails =>
    cases failed
    exact isLexical_of_firstClaim tame.nests fails
  next => cases failed
  next =>
    split at failed
    next e' fails =>
      cases failed
      exact isLexical_of_firstClaim tame.primitives fails
    next => cases failed
    next =>
      split at failed
      next e' fails =>
        cases failed
        exact isLexical_of_firstClaim tame.identifiers fails
      next => cases failed

/-! ### Places where a token is tried for -/

/-- A scan of the text tries for a token at the place: at the start, or behind a token claimed at
such a place, as long as there is text left. -/
inductive Tries (lexicon : Lexicon) (cs : List Char) : Nat → Prop
  | start (nonempty : cs ≠ []) : Tries lexicon cs 0
  | next {p : Nat} {t : Token} (tried : Tries lexicon cs p)
      (claimed : lexicon.recognize (cs.drop p) = .ok (some t)) (nonempty : t.length ≠ 0)
      (left : p + t.length < cs.length) : Tries lexicon cs (p + t.length)

theorem Tries.lt {lexicon : Lexicon} {cs : List Char} {p : Nat} (tried : lexicon.Tries cs p) :
    p < cs.length := by
  cases tried with
  | start nonempty => exact List.length_pos_iff.mpr nonempty
  | next _ _ _ left => exact left

/-- Behind the first token the places are those of the rest of the text. -/
theorem tries_iff {lexicon : Lexicon} {cs : List Char} {q : Nat} :
    lexicon.Tries cs q ↔ cs ≠ [] ∧ (q = 0 ∨ ∃ t p, lexicon.recognize cs = .ok (some t) ∧
      t.length ≠ 0 ∧ lexicon.Tries (cs.drop t.length) p ∧ q = t.length + p) := by
  constructor
  · intro tried
    induction tried with
    | start nonempty => exact ⟨nonempty, .inl rfl⟩
    | @next p t _ claimed nonempty left ih =>
      refine ⟨ih.1, .inr ?_⟩
      obtain rfl | ⟨first, p, starts, advances, tried, rfl⟩ := ih.2
      · refine ⟨t, 0, claimed, nonempty, .start ?_, by omega⟩
        rw [Ne, List.drop_eq_nil_iff]
        omega
      · rw [← List.drop_drop] at claimed
        have left' : p + t.length < (cs.drop first.length).length := by
          rw [List.length_drop]
          omega
        exact ⟨first, p + t.length, starts, advances, .next tried claimed nonempty left',
          Nat.add_assoc ..⟩
  · rintro ⟨nonempty, rfl | ⟨first, p, starts, advances, tried, rfl⟩⟩
    · exact .start nonempty
    · induction tried with
      | start rest =>
        have left := List.length_pos_iff.mpr rest
        rw [List.length_drop] at left
        have tried := Tries.next (.start nonempty) (p := 0) starts advances (by omega)
        rwa [Nat.zero_add] at tried
      | @next p t _ claimed lengthened left ih =>
        rw [List.drop_drop] at claimed
        rw [List.length_drop] at left
        rw [← Nat.add_assoc]
        exact .next ih claimed lengthened (by omega)

/-- Where no token is claimed at the start, the scan comes to no other place. -/
theorem exists_tries_iff_of_unclaimed {lexicon : Lexicon} {c : Char} {cs : List Char}
    {P : Nat → Prop}
    (unclaimed : ∀ t, lexicon.recognize (c :: cs) = .ok (some t) → t.length = 0) :
    (∃ p, lexicon.Tries (c :: cs) p ∧ P p) ↔ P 0 := by
  constructor
  · rintro ⟨p, tried, holds⟩
    obtain rfl | ⟨t, _, claimed, nonempty, -⟩ := (tries_iff.mp tried).2
    · exact holds
    · exact absurd (unclaimed t claimed) nonempty
  · intro holds
    exact ⟨0, .start (List.cons_ne_nil c cs), holds⟩

/-- Where a token is claimed, the scan comes to the start and to the places behind the token. -/
theorem exists_tries_iff_of_claimed {lexicon : Lexicon} {c : Char} {cs : List Char} {t : Token}
    {P : Nat → Prop} (claimed : lexicon.recognize (c :: cs) = .ok (some t))
    (nonempty : t.length ≠ 0) :
    (∃ p, lexicon.Tries (c :: cs) p ∧ P p) ↔
      P 0 ∨ ∃ p, lexicon.Tries ((c :: cs).drop t.length) p ∧ P (t.length + p) := by
  constructor
  · rintro ⟨q, reached, holds⟩
    obtain rfl | ⟨t', p, claimed', -, tried, rfl⟩ := (tries_iff.mp reached).2
    · exact .inl holds
    · obtain rfl : t = t' := by simpa [claimed] using claimed'
      exact .inr ⟨p, tried, holds⟩
  · rintro (holds | ⟨p, tried, holds⟩)
    · exact ⟨0, .start (List.cons_ne_nil c cs), holds⟩
    · refine ⟨t.length + p, tries_iff.mpr ⟨List.cons_ne_nil c cs, .inr ?_⟩, holds⟩
      exact ⟨t, p, claimed, nonempty, tried, rfl⟩

/-! ### What ends a scan -/

/-- No recognizer fails at the text, and none claims any of its characters. -/
def Passes (lexicon : Lexicon) (cs : List Char) : Prop :=
  ∃ found, lexicon.recognize cs = .ok found ∧ ∀ t, found = some t → t.length = 0

/-- The error that ends a scan at a text, which starts at the offset. -/
inductive Stops (lexicon : Lexicon) (offset : Nat) (cs : List Char) : Error → Prop
  | failed {e : Error} (fails : lexicon.recognize cs = .error e) :
      Stops lexicon offset cs (locate offset e)
  | unparseable (passes : lexicon.Passes cs) :
      Stops lexicon offset cs (.unparseableToken offset (String.ofList cs))

/-- Where a token is claimed the scan goes on. -/
theorem not_stops_of_claimed {lexicon : Lexicon} {offset : Nat} {cs : List Char} {t : Token}
    (claimed : lexicon.recognize cs = .ok (some t)) (nonempty : t.length ≠ 0) (e : Error) :
    ¬lexicon.Stops offset cs e := by
  rintro (fails | ⟨found, passed, empty⟩)
  · rw [claimed] at fails
    cases fails
  · obtain rfl : some t = found := by simpa [claimed] using passed
    exact nonempty (empty t rfl)

theorem stops_iff_of_failed {lexicon : Lexicon} {offset : Nat} {cs : List Char} {e e' : Error}
    (fails : lexicon.recognize cs = .error e') :
    lexicon.Stops offset cs e ↔ e = locate offset e' := by
  constructor
  · rintro (fails' | ⟨found, passed, -⟩)
    · rw [Except.error.inj (fails'.symm.trans fails)]
    · cases fails.symm.trans passed
  · rintro rfl
    exact .failed fails

theorem stops_iff_of_passes {lexicon : Lexicon} {offset : Nat} {cs : List Char} {e : Error}
    (passes : lexicon.Passes cs) :
    lexicon.Stops offset cs e ↔ e = .unparseableToken offset (String.ofList cs) := by
  constructor
  · rintro (fails | -)
    · obtain ⟨found, passed, -⟩ := passes
      cases fails.symm.trans passed
    · rfl
  · rintro rfl
    exact .unparseable passes

/-- A scan fails at the one place where it tries for a token and cannot go on. -/
theorem scan_failure_iff {lexicon : Lexicon} {offset : Nat} {cs : List Char} {e : Error} :
    (lexicon.scan offset cs).2 = some e ↔
      ∃ p, lexicon.Tries cs p ∧ lexicon.Stops (offset + p) (cs.drop p) e := by
  fun_induction lexicon.scan offset cs with
  | case1 =>
    constructor
    · intro failed
      cases failed
    · rintro ⟨p, tried, -⟩
      exact absurd tried.lt (Nat.not_lt_zero p)
  | case2 offset c rest e' fails =>
    rw [exists_tries_iff_of_unclaimed (by simp [fails]), List.drop_zero, stops_iff_of_failed fails]
    simp [eq_comm]
  | case3 offset c rest passed =>
    rw [exists_tries_iff_of_unclaimed (by simp [passed]), List.drop_zero,
      stops_iff_of_passes ⟨none, passed, by simp⟩]
    simp [eq_comm]
  | case4 offset c rest t claimed empty =>
    rw [exists_tries_iff_of_unclaimed (by simp [claimed, empty]), List.drop_zero,
      stops_iff_of_passes ⟨some t, claimed, by simp [empty]⟩]
    simp [eq_comm]
  | case5 offset c rest t claimed nonempty tail failure behind ih =>
    rw [behind] at ih
    rw [ih, exists_tries_iff_of_claimed claimed nonempty, List.drop_zero,
      or_iff_right (not_stops_of_claimed claimed nonempty e)]
    simp only [List.drop_drop, Nat.add_assoc]

theorem tokenize_eq_error_iff {lexicon : Lexicon} {text : String} {e : Error} :
    lexicon.tokenize text = .error e ↔
      ∃ p, lexicon.Tries text.toList p ∧ lexicon.Stops p (text.toList.drop p) e := by
  have fails := @scan_failure_iff lexicon 0 text.toList e
  simp only [Nat.zero_add] at fails
  rw [← fails, tokenize]
  rcases lexicon.scan 0 text.toList with ⟨found, failure⟩
  cases failure <;> simp

/-! ### Where the tokens of a text stand -/

/-- Every token takes at least one character. -/
theorem Reads.length_le {lexicon : Lexicon} {cs : List Char} {ts : List Token}
    (reads : lexicon.Reads cs ts) : ts.length ≤ cs.length := by
  induction reads with
  | nil => exact Nat.le_refl 0
  | cons _ nonempty _ ih =>
    simp only [List.length_drop, List.length_cons] at ih ⊢
    omega

/-- A token is what the lexicon claims behind the tokens before it. -/
theorem Reads.getElem? {lexicon : Lexicon} {cs : List Char} {ts : List Token}
    (reads : lexicon.Reads cs ts) {i : Nat} {t : Token} (at_i : ts[i]? = some t) :
    0 < t.length ∧ ((ts.take i).map Token.length).sum < cs.length ∧
      lexicon.recognize (cs.drop ((ts.take i).map Token.length).sum) = .ok (some t) := by
  induction reads generalizing i with
  | nil => simp at at_i
  | @cons c cs first ts claimed nonempty _ ih =>
    cases i with
    | zero =>
      obtain rfl : first = t := by simpa using at_i
      exact ⟨Nat.pos_of_ne_zero nonempty, Nat.zero_lt_succ _, claimed⟩
    | succ i =>
      obtain ⟨positive, inside, later⟩ := ih (by simpa using at_i)
      rw [List.length_drop] at inside
      rw [List.drop_drop] at later
      simp only [List.take_succ_cons, List.map_cons, List.sum_cons]
      exact ⟨positive, by omega, later⟩

/-- A token that was laid out stands behind the lengths before it, and is claimed there. -/
theorem Reads.getElem?_layOut {lexicon : Lexicon} {cs : List Char} {ts : List Token}
    (reads : lexicon.Reads cs ts) {i : Nat} {t : Token} (at_i : (Token.layOut 0 ts)[i]? = some t) :
    0 < t.length ∧ t.offset = (((Token.layOut 0 ts).take i).map Token.length).sum ∧
      t.offset < cs.length ∧
      ∃ reported, lexicon.recognize (cs.drop t.offset) =
        .ok (some { t with offset := reported }) := by
  rw [Token.getElem?_layOut] at at_i
  obtain ⟨read, found, rfl⟩ := Option.map_eq_some_iff.mp at_i
  obtain ⟨positive, inside, claimed⟩ := reads.getElem? found
  have before : ((Token.layOut 0 ts).take i).map Token.length = (ts.take i).map Token.length := by
    rw [List.map_take, Token.map_length_layOut, List.map_take]
  simp only [before, Nat.zero_add]
  exact ⟨positive, trivial, inside, read.offset, claimed⟩

theorem Reads.recognize_of_mem {lexicon : Lexicon} {cs : List Char} {ts : List Token}
    (reads : lexicon.Reads cs ts) {t : Token} (member : t ∈ Token.layOut 0 ts) :
    ∃ reported, lexicon.recognize (cs.drop t.offset) =
      .ok (some { t with offset := reported }) := by
  obtain ⟨i, found⟩ := List.mem_iff_getElem?.mp member
  exact (reads.getElem?_layOut found).2.2.2

/-! ### Errors of a text -/

theorem isLexical_locate {e : Error} (lexical : e.IsLexical) (offset : Nat) :
    (locate offset e).IsLexical := by
  cases e <;> exact lexical

theorem locate_eq_unclosedString_iff {e : Error} {offset place : Nat} {quote : Char} :
    locate offset e = .unclosedString quote place ↔
      place = offset ∧ ∃ reported, e = .unclosedString quote reported := by
  cases e <;> simp [locate, and_comm, eq_comm]

theorem tokenize_eq_unparseable_iff {lexicon : Lexicon} (tame : lexicon.Tame) {text : String}
    {offset : Nat} {remainder : String} :
    lexicon.tokenize text = .error (.unparseableToken offset remainder) ↔
      lexicon.Tries text.toList offset ∧ lexicon.Passes (text.toList.drop offset) ∧
        remainder ≠ "" ∧ remainder.toList = text.toList.drop offset := by
  rw [tokenize_eq_error_iff]
  constructor
  · rintro ⟨p, tried, stops⟩
    generalize ended : Error.unparseableToken offset remainder = e at stops
    cases stops with
    | failed fails =>
      have lexical := isLexical_locate (tame.isLexical fails) p
      rw [← ended] at lexical
      exact lexical.elim
    | unparseable passes =>
      obtain ⟨rfl, rfl⟩ := Error.unparseableToken.inj ended
      refine ⟨tried, passes, ?_, String.toList_ofList⟩
      intro empty
      have left := congrArg String.length empty
      rw [String.length_ofList, List.length_drop] at left
      exact absurd tried.lt (by simp at left; omega)
  · rintro ⟨tried, passes, -, rest⟩
    refine ⟨offset, tried, (stops_iff_of_passes passes).mpr ?_⟩
    rw [← rest, String.ofList_toList]

theorem tokenize_eq_unclosedString_iff {lexicon : Lexicon} {text : String} {quote : Char}
    {offset : Nat} :
    lexicon.tokenize text = .error (.unclosedString quote offset) ↔
      lexicon.Tries text.toList offset ∧
        ∃ reported, lexicon.recognize (text.toList.drop offset) =
          .error (.unclosedString quote reported) := by
  rw [tokenize_eq_error_iff]
  constructor
  · rintro ⟨p, tried, stops⟩
    generalize ended : Error.unclosedString quote offset = e at stops
    cases stops with
    | failed fails =>
      obtain ⟨rfl, reported, rfl⟩ := locate_eq_unclosedString_iff.mp ended.symm
      exact ⟨tried, reported, fails⟩
    | unparseable => cases ended
  · rintro ⟨tried, reported, fails⟩
    exact ⟨offset, tried, .failed fails⟩

end Lexicon

end Bracket
