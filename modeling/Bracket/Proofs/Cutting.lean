import Bracket.Proofs.Printing.Pieces
import Bracket.Proofs.Progress

/-!
Texts that are cut between two tokens. A token may be claimed because of what stands further on: a
minus sign is one where the run of numeral characters from there on is no numeral as a whole. Cut
off inside such a run, what is left of it could be a numeral after all; but a cut between two tokens
does not come to that, since a token that starts with a digit goes on to the end of the run.
Main statement: where a scan fails, the text before that place has exactly the tokens found so far.
-/

namespace Bracket

open Lexeme

namespace Lexeme

theorem ends_of_append {p : Char → Bool} {cs rest : List Char} (stop : Ends p (cs ++ rest)) :
    Ends p cs := by
  cases cs with
  | nil => exact ends_nil
  | cons c cs => exact ends_cons.mpr (ends_cons.mp stop)

theorem ends_takeWhile {p q : Char → Bool} {cs : List Char} (stop : Ends p cs) :
    Ends p (cs.takeWhile q) := by
  cases cs with
  | nil => exact ends_nil
  | cons c cs =>
    rw [List.takeWhile_cons]
    split
    · exact ends_cons.mpr (ends_cons.mp stop)
    · exact ends_nil

end Lexeme

/-- A number word that is not there is not there either when the text is cut. -/
theorem Lexicon.specialNumber?_cut {run cs rest : List Char}
    (special : specialNumber? (run ++ (cs ++ rest)) = none) :
    specialNumber? (run ++ cs) = none := by
  rw [← List.append_assoc] at special
  exact specialNumber?_of_append special

namespace Spelling

variable {rest : List Char} {x : Spelling} {xs : List Spelling}

/-- The text of tokens that stand one behind the other. -/
def sources (xs : List Spelling) : List Char := xs.flatMap source

theorem sources_cons (x : Spelling) (xs : List Spelling) :
    sources (x :: xs) = x.source ++ sources xs := List.flatMap_cons

/-- The tokens are claimed one after the other in their text, if it goes on with the rest. -/
def Claims (rest : List Char) : List Spelling → Prop
  | [] => True
  | x :: xs => x.Sound ∧ x.Stops (sources xs ++ rest) ∧ Claims rest xs

theorem head_source (sound : x.Sound) :
    ∃ c cs, x.source = c :: cs ∧ x.Shows c ∧
      (Decimal.isDigit c = true → ∃ run n, x = .numeral run n) := by
  obtain ⟨c, cs, text, shows⟩ := head_text sound
  have digit := exists_numeral sound text
  rw [text_token] at text
  cases x with
  | quoted quote content =>
    obtain ⟨rfl, -⟩ := List.cons.inj text
    exact ⟨quote, _, rfl, shows, digit⟩
  | _ => exact ⟨c, cs, text, shows, digit⟩

/-- A token that starts with a digit is a numeral, with which the run of numeral characters ends. -/
theorem Claims.digit (claims : Claims rest xs) :
    Ends Decimal.isDigit (sources xs) ∨ ∀ cs,
      (cs ++ (sources xs ++ rest)).takeWhile isNumeric =
        (cs ++ sources xs).takeWhile isNumeric := by
  cases xs with
  | nil => exact .inl ends_nil
  | cons x xs =>
    obtain ⟨sound, stops, -⟩ := claims
    obtain ⟨c, behind, source, -, digit⟩ := head_source sound
    by_cases first : Decimal.isDigit c = true
    · right
      intro cs
      obtain ⟨run, n, rfl⟩ := digit first
      rw [sources_cons, Spelling.source, List.append_assoc, ← List.append_assoc,
        ← List.append_assoc cs, takeWhile_append_ends stops.1,
        takeWhile_append_ends (ends_of_append stops.1)]
    · left
      rw [sources_cons, source]
      exact ends_cons.mpr (by simpa using first)

theorem Claims.point (claims : Claims rest xs) (point : (sources xs).head? = some '.') :
    ∃ ys, sources xs = '.' :: sources ys ∧ Claims rest ys := by
  cases xs with
  | nil => cases point
  | cons x xs =>
    obtain ⟨sound, -, later⟩ := claims
    obtain ⟨c, behind, source, shows, -⟩ := head_source sound
    obtain rfl : c = '.' := by simpa [sources_cons, source] using point
    have structural : x.token.isStructural = true := by
      simp [Token.isStructural, shows.period.mp rfl]
    obtain ⟨d, kind, rfl⟩ := eq_mark_of_isStructural sound structural
    obtain ⟨rfl, rfl⟩ := List.cons.inj source
    exact ⟨xs, sources_cons _ xs, later⟩

/-- An operator is no part of a numeral, also without the rest of the text. -/
theorem Claims.number_operator (claims : Claims rest xs) {run : List Char}
    (sound : (operator run).Sound)
    (passes : Lexicon.number (run ++ (sources xs ++ rest)) = .ok none) :
    Lexicon.number (run ++ sources xs) = .ok none := by
  rw [Lexicon.number_eq_none_iff] at passes ⊢
  refine ⟨Lexicon.specialNumber?_cut passes.1, ?_⟩
  rcases claims.digit with letter | numeral
  · by_cases minus : run = ['-'] ∧ (sources xs).head? = some '.'
    · obtain ⟨rfl, first⟩ := minus
      obtain ⟨ys, split, behind⟩ := claims.point first
      rw [split] at passes ⊢
      -- the point is a token as well, so the question is put again behind it
      rcases behind.digit with letter' | numeral'
      · rw [List.singleton_append, List.takeWhile_cons_of_pos (by decide),
          List.takeWhile_cons_of_pos (by decide)]
        exact read?_minus_point (ends_takeWhile letter')
      · have same := numeral' ['-', '.']
        simp only [List.cons_append, List.nil_append] at same passes ⊢
        rw [← same]
        exact passes.2
    · apply read?_operator sound.2 sound.1 letter
      intro same first
      exact minus ⟨same, first⟩
  · rw [← numeral run]
    exact passes.2

/-- What does not prolong a token does not do so either when the text is cut further on. -/
theorem Claims.stops (claims : Claims rest xs) (sound : x.Sound)
    (stops : x.Stops (sources xs ++ rest)) : x.Stops (sources xs) := by
  cases x with
  | mark | quoted | word => trivial
  | blank run => exact ends_of_append stops
  | numeral run n => exact ⟨ends_of_append stops.1, Lexicon.specialNumber?_cut stops.2⟩
  | operator run => exact ⟨ends_of_append stops.1, claims.number_operator sound stops.2⟩
  | name run =>
    refine ⟨ends_of_append stops.1, ?_⟩
    have special := (Lexicon.number_eq_none_iff.mp stops.2).1
    exact Lexicon.number_eq_none_iff.mpr
      ⟨Lexicon.specialNumber?_cut special, read?_name sound.1 _⟩

/-- Tokens are claimed in their text as they are where the text goes on. -/
theorem Claims.reads (claims : Claims rest xs) :
    Lexicon.standard.Reads (sources xs) (xs.map token) := by
  induction xs with
  | nil => exact .nil
  | cons x xs ih =>
    obtain ⟨sound, stops, later⟩ := claims
    rw [sources_cons]
    exact reads_source sound (later.stops sound stops) (ih later)

end Spelling

namespace Lexicon

/-! ### The standard recognizers keep to their errors -/

theorem failsTamely_quoted (quote : Char) : FailsTamely (quoted quote) := by
  intro cs e failed
  unfold quoted at failed
  split at failed
  · cases failed
  · split at failed
    · dsimp only at failed
      split at failed <;> cases failed
      trivial
    · cases failed

theorem standard_tame : standard.Tame where
  nests := by
    intro entry member cs e failed
    simp only [standard_toLists, standardNests, List.mem_cons, List.not_mem_nil, or_false] at member
    rcases member with rfl | rfl | rfl <;> cases cs <;> cases failed
  primitives := by
    intro entry member
    simp only [standard_toLists, standardPrimitives, List.mem_cons, List.not_mem_nil,
      or_false] at member
    rcases member with rfl | rfl | rfl | rfl
    · intro cs e failed
      cases failed
    · exact failsTamely_quoted '"'
    · exact failsTamely_quoted '\''
    · intro cs e failed
      exact absurd failed (number_ne_error cs e)
  identifiers := by
    rw [standard_toLists.2.2]
    exact List.forall_mem_singleton.mpr failsTamely_identifier

/-! ### The text before a failure -/

open Spelling

/-- A scan claims tokens one after the other, up to the end or to a place where it cannot go on. -/
theorem exists_claims_of_scan (offset : Nat) (cs : List Char) :
    ∃ xs rest, cs = sources xs ++ rest ∧ Claims rest xs ∧
      (standard.scan offset cs).1 = Token.layOut offset (xs.map token) ∧
      ∀ e, (standard.scan offset cs).2 = some e →
        rest ≠ [] ∧ standard.Stops (offset + (sources xs).length) rest e := by
  -- where no token is claimed, nothing is before the failure
  have nothing {offset : Nat} {c : Char} {cs : List Char} {e : Error}
      (stops : standard.Stops offset (c :: cs) e) : ∃ xs rest, c :: cs = sources xs ++ rest ∧
        Claims rest xs ∧ [] = Token.layOut offset (xs.map token) ∧
        ∀ e', some e = some e' → rest ≠ [] ∧
          standard.Stops (offset + (sources xs).length) rest e' := by
    refine ⟨[], c :: cs, rfl, trivial, rfl, ?_⟩
    rintro _ ⟨⟩
    exact ⟨List.cons_ne_nil c cs, stops⟩
  fun_induction standard.scan offset cs with
  | case1 offset => exact ⟨[], [], rfl, trivial, rfl, by simp⟩
  | case2 offset c rest e fails => exact nothing (.failed fails)
  | case3 offset c rest passed => exact nothing (.unparseable ⟨none, passed, by simp⟩)
  | case4 offset c rest t claimed empty =>
    exact nothing (.unparseable ⟨some t, claimed, by simp [empty]⟩)
  | case5 offset c rest t claimed nonempty tail failure behind ih =>
    obtain ⟨x, after, split, sound, stops, rfl⟩ := recognize_eq_some_iff.mp claimed
    rw [behind] at ih
    rw [split, length_token, List.drop_left] at ih
    obtain ⟨xs, rest', rfl, claims, rfl, ended⟩ := ih
    refine ⟨x :: xs, rest', ?_, ⟨sound, stops, claims⟩, ?_, ?_⟩
    · rw [split, sources_cons, List.append_assoc]
    · rw [List.map_cons, Token.layOut, length_token]
    · rwa [sources_cons, List.length_append, ← Nat.add_assoc]

/-- Both kinds of errors that name a place name the one where the scan stops. -/
theorem Stops.place_eq {lexicon : Lexicon} (tame : lexicon.Tame) {offset : Nat} {cs : List Char}
    {e : Error} (stops : lexicon.Stops offset cs e) {place : Nat}
    (named : (∃ remainder, e = .unparseableToken place remainder) ∨
      ∃ quote, e = .unclosedString quote place) : place = offset := by
  cases stops with
  | failed fails =>
    rcases named with ⟨remainder, same⟩ | ⟨quote, same⟩
    · have lexical := isLexical_locate (tame.isLexical fails) offset
      rw [same] at lexical
      exact lexical.elim
    · exact (locate_eq_unclosedString_iff.mp same).1
  | unparseable passes =>
    rcases named with ⟨remainder, same⟩ | ⟨quote, same⟩
    · exact (Error.unparseableToken.inj same).1.symm
    · cases same

theorem scan_failure_of_tokenize {lexicon : Lexicon} {text : String} {e : Error}
    (failed : lexicon.tokenize text = .error e) : (lexicon.scan 0 text.toList).2 = some e := by
  rw [tokenize] at failed
  split at failed
  next => cases failed
  next scanned =>
    rw [scanned, Except.error.inj failed]

/-- A text that fails stops somewhere, and up to there it has exactly the tokens that were found. -/
theorem exists_stops_and_tokenize_take {text : String} {e : Error}
    (failed : standard.tokenize text = .error e) :
    ∃ k, k < text.length ∧ standard.Stops k (text.toList.drop k) e ∧
      standard.tokenize (String.ofList (text.toList.take k)) =
        .ok (standard.scan 0 text.toList).1 := by
  obtain ⟨xs, rest, split, claims, found, ended⟩ := exists_claims_of_scan 0 text.toList
  obtain ⟨nonempty, stops⟩ := ended e (scan_failure_of_tokenize failed)
  rw [Nat.zero_add] at stops
  refine ⟨(sources xs).length, ?_, ?_, ?_⟩
  · rw [← String.length_toList, split, List.length_append]
    exact Nat.lt_add_of_pos_right (List.length_pos_iff.mpr nonempty)
  · rwa [split, List.drop_left]
  · rw [found, split, List.take_left]
    apply tokenize_eq_ok_iff.mpr
    rw [String.toList_ofList]
    exact ⟨_, claims.reads, rfl⟩

/-- Where a text fails at a place, the text before that place has exactly the tokens that were found
before the failure. -/
theorem tokenize_take_of_error {text : String} {k : Nat}
    (failed : (∃ remainder, standard.tokenize text = .error (.unparseableToken k remainder)) ∨
      ∃ quote, standard.tokenize text = .error (.unclosedString quote k)) :
    k < text.length ∧
      standard.tokenize (String.ofList (text.toList.take k)) =
        .ok (standard.scan 0 text.toList).1 := by
  obtain ⟨e, error, named⟩ : ∃ e, standard.tokenize text = .error e ∧
      ((∃ remainder, e = .unparseableToken k remainder) ∨
        ∃ quote, e = .unclosedString quote k) := by
    rcases failed with ⟨remainder, error⟩ | ⟨quote, error⟩
    · exact ⟨_, error, .inl ⟨remainder, rfl⟩⟩
    · exact ⟨_, error, .inr ⟨quote, rfl⟩⟩
  obtain ⟨p, inside, stops, before⟩ := exists_stops_and_tokenize_take error
  obtain rfl := stops.place_eq standard_tame named
  exact ⟨inside, before⟩

/-- The minus sign and the point stand at the start of a run that is no numeral as a whole, while
the run without its last two characters would be one. -/
theorem tokenize_take_of_error_cut :
    standard.tokenize "-.5-2" = .error (.unparseableToken 2 "5-2") ∧
    standard.tokenize "-." = .ok (standard.scan 0 "-.5-2".toList).1 ∧
    standard.tokenize "a 'b" = .error (.unclosedString '\'' 2) ∧
    standard.tokenize "a " = .ok (standard.scan 0 "a 'b".toList).1 := by
  have numeric : standard.tokenize "-.5-2" = .error (.unparseableToken 2 "5-2") := by
    have minus : standard.Tries "-.5-2".toList 1 :=
      .next (t := ⟨.literal .identifier, "-", 1, 0⟩) (.start (by simp)) rfl (by simp) (by decide)
    have point : standard.Tries "-.5-2".toList 2 :=
      .next (t := ⟨.period, ".", 1, 0⟩) minus rfl (by simp) (by decide)
    exact (tokenize_eq_unparseable_iff standard_tame).mpr
      ⟨point, ⟨none, rfl, by simp⟩, by simp, by rfl⟩
  have quoted : standard.tokenize "a 'b" = .error (.unclosedString '\'' 2) := by
    have name : standard.Tries "a 'b".toList 1 :=
      .next (t := ⟨.literal .identifier, "a", 1, 0⟩) (.start (by simp)) rfl (by simp) (by decide)
    have blank : standard.Tries "a 'b".toList 2 :=
      .next (t := ⟨.delimiter, " ", 1, 0⟩) name rfl (by simp) (by decide)
    exact tokenize_eq_unclosedString_iff.mpr ⟨blank, 0, rfl⟩
  exact ⟨numeric, (tokenize_take_of_error (.inl ⟨"5-2", numeric⟩)).2, quoted,
    (tokenize_take_of_error (.inr ⟨'\'', quoted⟩)).2⟩

end Lexicon

end Bracket
