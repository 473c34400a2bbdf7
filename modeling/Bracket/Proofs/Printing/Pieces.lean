import Bracket.Proofs.Printing.Reading

/-!
The pieces of a printed tree. A tree is printed as the texts of its tokens, with one blank between
neighbours and none around a period. Main statements: tokens in this arrangement are read off their
texts if and only if the texts run apart; and whatever else is read off these texts is not the same
tree.
-/

namespace Bracket

/-- A piece of a printed tree: the blank between neighbours, a token, or a member access with the
name close behind its period. -/
inductive Piece where
  | gap
  | text (s : String)
  | access (name : String)

namespace Piece

def texts : Piece → List String
  | .gap => [" "]
  | .text s => [s]
  | .access name => [".", name]

/-- What may stand behind an item: nothing, a blank, a closing bracket or a member access. -/
def Closing : List Piece → Prop
  | [] | .gap :: _ | .access _ :: _ => True
  | .text s :: _ => s = ")" ∨ s = "\x7d"

end Piece

open Lexeme

namespace Spelling

/-- The blank between neighbours. -/
def space : Spelling := .blank [' ']

def dot : Spelling := .mark '.' .period

theorem text_space : space.token.text = " " := rfl

theorem text_dot : dot.token.text = "." := rfl

def texts (xs : List Spelling) : List String := xs.map fun x => x.token.text

/-- The characters that show the tokens. -/
def chars (xs : List Spelling) : List Char := (texts xs).flatMap String.toList

theorem texts_cons (x : Spelling) (xs : List Spelling) :
    texts (x :: xs) = x.token.text :: texts xs := rfl

theorem chars_cons (x : Spelling) (xs : List Spelling) :
    chars (x :: xs) = x.token.text.toList ++ chars xs := rfl

/-- The tokens in the arrangement of a printed tree, as these pieces. -/
inductive Laid : List Spelling → List Piece → Prop
  | nil : Laid [] []
  | gap {xs : List Spelling} {s : String} {ps : List Piece} (rest : Laid xs (.text s :: ps)) :
      Laid (space :: xs) (.gap :: .text s :: ps)
  | text {x : Spelling} {xs : List Spelling} {ps : List Piece} (possible : x.Possible)
      (blank : x.token.kind ≠ .delimiter) (period : x.token.kind ≠ .period)
      (ends : x.token.isStructural = true ∨ Piece.Closing ps) (rest : Laid xs ps) :
      Laid (x :: xs) (.text x.token.text :: ps)
  | access {x : Spelling} {xs : List Spelling} {ps : List Piece} (possible : x.Possible)
      (names : x.token.isStructural = false) (ends : Piece.Closing ps) (rest : Laid xs ps) :
      Laid (dot :: x :: xs) (.access x.token.text :: ps)

theorem sound_space : space.Sound := by simp [space, Sound, isDelimiter, Text.isBlank]

theorem sound_dot : dot.Sound := by simp [dot, Sound, marks]

theorem Laid.texts_eq {xs : List Spelling} {ps : List Piece} (laid : Laid xs ps) :
    texts xs = ps.flatMap Piece.texts := by
  induction laid with
  | nil => rfl
  | gap _ ih | text _ _ _ _ _ ih | access _ _ _ _ ih =>
    simp only [texts, List.map_cons, List.flatMap_cons, Piece.texts] at ih ⊢
    rw [ih]
    rfl

/-! ### One token -/

/-- At their texts, a token and what is behind it are read off if the token is. -/
theorem reads_text_iff {x : Spelling} (sound : x.Sound) {cs : List Char} {ts : List Token} :
    Lexicon.standard.Reads (x.token.text.toList ++ cs) (x.token :: ts) ↔
      x.Plain ∧ x.Stops cs ∧ Lexicon.standard.Reads cs ts := by
  constructor
  · intro reads
    obtain ⟨y, rest, split, soundY, stops, same, later⟩ := exists_source_of_reads reads
    obtain rfl := token_injective sound soundY same
    have claimed := Lexicon.recognize_source sound stops
    rw [← split] at claimed
    obtain ⟨plain, stops'⟩ := (recognize_text_iff sound).mp claimed
    rw [← plain.source sound] at split
    rw [List.append_cancel_left split]
    exact ⟨plain, stops, later⟩
  · rintro ⟨plain, stops, later⟩
    rw [← plain.source sound]
    exact reads_source sound stops later

theorem all_isDelimiter {x : Spelling} (sound : x.Sound) (blank : x.token.kind ≠ .delimiter) :
    x.token.text.toList.all isDelimiter = false := by
  obtain ⟨c, cs, text, delimiter, -⟩ := head_text sound
  have other : isDelimiter c = false := by simpa [blank] using delimiter
  simp [text, other]

/-! ### What may follow a token -/

theorem possible_minus : (operator ['-']).Possible := by
  refine ⟨⟨by simp, by simp [isOperator, operators]⟩, [], ends_nil, ?_⟩
  refine Lexicon.number_eq_none_iff.mpr ⟨?_, ?_⟩
  · decide
  · exact read?_minus ends_nil (by simp)

theorem eq_minus_iff {x : Spelling} (possible : x.Possible) :
    x = .operator ['-'] ↔ x.token.text = "-" := by
  have minus : (operator ['-']).token.text = "-" := by
    obtain ⟨l, same, -⟩ := identifier_eq ['-']
    rw [token, same]
  constructor
  · rintro rfl
    exact minus
  · intro text
    exact token_injective possible.1 possible_minus.1
      (token_eq_of_text possible possible_minus (text.trans minus.symm))

/-- The text of a token is a numeral if and only if the token is one. -/
theorem isNumeral_text_iff {x : Spelling} (possible : x.Possible)
    (period : x.token.kind ≠ .period) :
    isNumeral x.token.text.toList = true ↔ ∃ run n, x = .numeral run n := by
  obtain ⟨c, cs, text, -, -, point⟩ := head_text possible.1
  rw [isNumeral, Bool.and_eq_true, List.all_eq_true, Option.isSome_iff_exists]
  constructor
  · rintro ⟨all, n, read⟩
    -- the numeral of the same text may be claimed as well, so it is the token
    have head : x.token.text.toList.head? ≠ some '.' := by
      simpa [text, period] using point
    have special : Lexicon.specialNumber? x.token.text.toList = none := by
      rw [Lexicon.specialNumber?_eq_none_iff]
      rintro ⟨w, m⟩ entry starts
      obtain ⟨d, member, other⟩ := word_not_numeric entry
      rw [all d (starts.subset member)] at other
      cases other
    have possible' : (numeral x.token.text.toList n).Possible :=
      ⟨⟨all, head, read⟩, [], ends_nil, by rwa [List.append_nil]⟩
    have same : x.token.text = (numeral x.token.text.toList n).token.text := by
      simp [token]
    exact ⟨_, n, token_injective possible.1 possible'.1 (token_eq_of_text possible possible' same)⟩
  · rintro ⟨run, n, rfl⟩
    rw [text_token]
    exact ⟨possible.1.1, n, possible.1.2.2⟩

/-- Only numerals start with a digit. -/
theorem exists_numeral {x : Spelling} (sound : x.Sound) {c : Char} {cs : List Char}
    (text : x.token.text.toList = c :: cs) (digit : Decimal.isDigit c = true) :
    ∃ run n, x = .numeral run n := by
  rw [isDigit_iff] at digit
  rw [text_token] at text
  cases x with
  | numeral run n => exact ⟨run, n, rfl⟩
  | mark d kind =>
    obtain ⟨rfl, -⟩ := List.cons.inj text
    have mark : isMark d = true := List.any_eq_true.mpr ⟨_, sound, beq_self_eq_true d⟩
    rw [isMark_iff] at mark
    omega
  | blank run =>
    subst text
    have blank := isDelimiter_iff.mp (sound.2 c List.mem_cons_self)
    omega
  | quoted quote content =>
    obtain ⟨rfl, -⟩ := List.cons.inj text
    have quote := isQuote_iff.mp sound.1
    omega
  | word w n =>
    exfalso
    revert digit
    simp only [Sound, specialNumbers, List.mem_cons, List.not_mem_nil, or_false] at sound
    rcases sound with ⟨⟨⟩⟩ | ⟨⟨⟩⟩ | ⟨⟨⟩⟩ | ⟨⟨⟩⟩ <;> obtain ⟨rfl, -⟩ := List.cons.inj text <;> decide
  | operator run =>
    subst text
    have operator := isOperator_iff.mp (sound.2 c List.mem_cons_self)
    omega
  | name run =>
    subst text
    obtain ⟨d, first, start⟩ := sound.1
    obtain rfl : c = d := by simpa using first
    rw [isIdentifierStart_iff] at start
    omega

/-- Whether a minus sign, a point and a token make a numeral does not depend on what follows. -/
theorem read?_minus_point_iff {x : Spelling} (sound : x.Sound) {cs : List Char}
    (stops : x.Stops cs) :
    Number.read? ('-' :: '.' :: (x.token.text.toList ++ cs).takeWhile isNumeric) = none ↔
      isNumeral ('-' :: '.' :: x.token.text.toList) = false := by
  by_cases numeral : ∃ run n, x = .numeral run n
  · obtain ⟨run, n, rfl⟩ := numeral
    have all : (run.all isNumeric) = true := List.all_eq_true.mpr sound.1
    have text : (numeral run n).token.text.toList = run := text_token _
    rw [text, takeWhile_run sound.1 stops.1]
    simp [isNumeral, all, show isNumeric '-' = true by decide,
      show isNumeric '.' = true by decide]
  · obtain ⟨c, rest, text, -⟩ := head_text sound
    have letter : Decimal.isDigit c = false := by
      by_contra digit
      rw [Bool.not_eq_false] at digit
      exact numeral (exists_numeral sound text digit)
    have first : Ends Decimal.isDigit ((x.token.text.toList ++ cs).takeWhile isNumeric) := by
      rw [text, List.cons_append, List.takeWhile_cons]
      split
      · exact ends_cons.mpr letter
      · exact ends_nil
    have second : Ends Decimal.isDigit x.token.text.toList := by
      rw [text]
      exact ends_cons.mpr letter
    simp [isNumeral, read?_minus_point first, read?_minus_point second]

/-- Behind a bracket anything may stand. -/
theorem staysApart_bracket {x : Spelling} (sound : x.Sound)
    (structural : x.token.isStructural = true) (period : x.token.kind ≠ .period) (cs : List Char)
    (ws : List String) : x.Stops cs ∧ staysApart x.token.text ws = true := by
  obtain ⟨c, kind, rfl⟩ := eq_mark_of_isStructural sound structural
  refine ⟨trivial, ?_⟩
  cases ws with
  | nil => rfl
  | cons next rest =>
    simp only [Sound, marks, List.mem_cons, List.not_mem_nil, or_false] at sound
    rcases sound with ⟨⟨⟩⟩ | ⟨⟨⟩⟩ | ⟨⟨⟩⟩ | ⟨⟨⟩⟩ | ⟨⟨⟩⟩
    case inr.inr.inr.inr => exact absurd rfl period
    all_goals
      simp [staysApart, token, isNumeral, show isDelimiter '(' = false by decide,
        show isDelimiter ')' = false by decide, show isDelimiter '\x7b' = false by decide,
        show isDelimiter '\x7d' = false by decide, show isNumeric '(' = false by decide,
        show isNumeric ')' = false by decide, show isNumeric '\x7b' = false by decide,
        show isNumeric '\x7d' = false by decide]

section Behind

variable {x : Spelling} {xs : List Spelling}

/-- A closing bracket stands apart from whatever is before it. -/
theorem staysApart_closing (possible : x.Possible) {c : Char} (closing : c = ')' ∨ c = '\x7d')
    (cs : List Char) (ws : List String) :
    x.Stops (c :: cs) ∧ staysApart x.token.text (String.singleton c :: ws) = true := by
  constructor
  · refine stops_of_neutral possible (neutral_cons (.inr closing) cs) fun _ => ?_
    rcases closing with rfl | rfl <;> exact ends_cons.mpr (by decide)
  · rcases closing with rfl | rfl <;>
      simp [staysApart, show isDelimiter ')' = false by decide,
        show isDelimiter '\x7d' = false by decide]

/-- A blank stands apart from everything but delimiters. -/
theorem staysApart_space_iff (possible : x.Possible) (cs : List Char) (ws : List String) :
    x.Stops (' ' :: cs) ↔ staysApart x.token.text (" " :: ws) = true := by
  by_cases blank : x.token.kind = .delimiter
  · obtain ⟨run, rfl⟩ := eq_blank_of_kind possible.1 blank
    have all : run.all isDelimiter = true := List.all_eq_true.mpr possible.1.2
    simp [Stops, ends_cons, staysApart, token, all, show isDelimiter ' ' = true by decide]
  · refine iff_of_true (stops_of_neutral possible (neutral_cons (.inl (by decide)) cs)
      fun kind => absurd kind blank) ?_
    simp [staysApart, all_isDelimiter possible.1 blank]

/-- A period stands apart from everything but numerals, and minus signs if the name behind it makes
a numeral with them. -/
theorem staysApart_period_iff (possible : x.Possible) (period : x.token.kind ≠ .period)
    {name : Spelling} (sound : name.Sound) {cs : List Char} (stops : name.Stops cs)
    (ws : List String) :
    x.Stops ('.' :: (name.token.text.toList ++ cs)) ↔
      staysApart x.token.text ("." :: name.token.text :: ws) = true := by
  rw [stops_point_iff possible, read?_minus_point_iff sound stops, eq_minus_iff possible]
  simp only [staysApart, show ".".toList.all isDelimiter = false by decide, Bool.and_false,
    Bool.not_false, Bool.true_and, beq_self_eq_true, List.headD_cons, Bool.not_or, Bool.not_and,
    Bool.and_eq_true, Bool.not_eq_true', Bool.or_eq_true, beq_eq_false_iff_ne]
  refine and_congr ?_ imp_iff_not_or
  rw [← Bool.not_eq_true, isNumeral_text_iff possible period]
  simp only [not_exists, ne_eq]

/-- Behind an item, a token is not prolonged if and only if its text stays apart. -/
theorem stops_iff_staysApart {ps : List Piece} (possible : x.Possible)
    (period : x.token.kind ≠ .period) (laid : Laid xs ps) (closing : Piece.Closing ps)
    (reads : Lexicon.standard.Reads (chars xs) (xs.map token)) :
    x.Stops (chars xs) ↔ staysApart x.token.text (texts xs) = true := by
  cases laid with
  | nil => exact iff_of_true (stops_of_neutral possible neutral_nil fun _ => ends_nil) rfl
  | gap rest => exact staysApart_space_iff possible _ _
  | @text y ys ps _ _ _ _ rest =>
    have bracket (c : Char) (kind : c = ')' ∨ c = '\x7d')
        (shown : y.token.text = String.singleton c) :
        x.Stops (chars (y :: ys)) ↔ staysApart x.token.text (texts (y :: ys)) = true := by
      have apart := staysApart_closing possible kind (chars ys) (texts ys)
      rw [chars_cons, texts_cons, shown, String.toList_singleton]
      exact iff_of_true apart.1 apart.2
    rcases closing with round | curly
    · exact bracket ')' (.inl rfl) round
    · exact bracket '\x7d' (.inr rfl) curly
  | @access y ys ps possible' _ _ rest =>
    rw [List.map_cons, List.map_cons, chars_cons, chars_cons, reads_text_iff sound_dot,
      reads_text_iff possible'.1] at reads
    obtain ⟨-, -, -, stops, -⟩ := reads
    exact staysApart_period_iff possible period possible'.1 stops (texts ys)

end Behind

/-! ### All tokens -/

theorem Laid.first {xs : List Spelling} {s : String} {ps : List Piece}
    (laid : Laid xs (.text s :: ps)) :
    ∃ x ys, xs = x :: ys ∧ x.Possible ∧ x.token.kind ≠ .delimiter := by
  cases laid with
  | text possible blank _ _ _ => exact ⟨_, _, rfl, possible, blank⟩

/-- No delimiter follows the blank between neighbours. -/
theorem Laid.stops_space {xs : List Spelling} {s : String} {ps : List Piece}
    (laid : Laid xs (.text s :: ps)) : space.Stops (chars xs) := by
  obtain ⟨x, ys, rfl, possible, blank⟩ := laid.first
  obtain ⟨c, cs, text, delimiter, -⟩ := head_text possible.1
  rw [chars_cons, text, List.cons_append]
  exact ends_cons.mpr (by simpa [blank] using delimiter)

/-- Tokens in the arrangement of a printed tree are read off their texts if and only if these run
apart. -/
theorem Laid.reads_iff {xs : List Spelling} {ps : List Piece} (laid : Laid xs ps) :
    Lexicon.standard.Reads (chars xs) (xs.map token) ↔ runsApart (texts xs) = true := by
  -- a token and what follows, if this is read off exactly where it runs apart
  have step {x : Spelling} {xs : List Spelling} (sound : x.Sound)
      (ih : Lexicon.standard.Reads (chars xs) (xs.map token) ↔ runsApart (texts xs) = true)
      (apart : Lexicon.standard.Reads (chars xs) (xs.map token) →
        (x.Stops (chars xs) ↔ staysApart x.token.text (texts xs) = true)) :
      Lexicon.standard.Reads (chars (x :: xs)) ((x :: xs).map token) ↔
        runsApart (texts (x :: xs)) = true := by
    rw [List.map_cons, chars_cons, reads_text_iff sound,
      texts_cons, runsApart, Bool.and_eq_true,
      Bool.and_eq_true, and_assoc, ← ih, Plain, Bool.not_eq_true']
    exact and_congr_right fun _ => and_congr_left apart
  induction laid with
  | nil => exact iff_of_true .nil rfl
  | gap rest ih =>
    refine step sound_space ih fun _ => iff_of_true rest.stops_space ?_
    obtain ⟨x, ys, rfl, possible, blank⟩ := rest.first
    simp [staysApart, texts, text_space, isNumeral, all_isDelimiter possible.1 blank,
      show isNumeric ' ' = false by decide]
  | text possible _ period ends rest ih =>
    refine step possible.1 ih fun reads => ?_
    rcases ends with structural | closing
    · have bracket := staysApart_bracket possible.1 structural period
      exact iff_of_true (bracket _ []).1 (bracket [] _).2
    · exact stops_iff_staysApart possible period rest closing reads
  | @access x xs ps possible names ends rest ih =>
    have period : x.token.kind ≠ .period := by
      intro kind
      simp [Token.isStructural, kind] at names
    have named := step possible.1 ih (stops_iff_staysApart possible period rest ends)
    refine step sound_dot named fun _ => iff_of_true trivial ?_
    have other : x.token.text ≠ "." := by
      intro same
      obtain ⟨c, cs, text, -, -, point⟩ := head_text possible.1
      rw [same] at text
      obtain ⟨rfl, -⟩ := List.cons.inj text
      exact period (point.mp rfl)
    simp [staysApart, texts, text_dot, other, show isDelimiter '.' = false by decide]

/-! ### What else can be read -/

/-- Tokens that stand for the pieces, with blanks wherever the grammar lets them pass. -/
inductive Spread : List Token → List Piece → Prop
  | nil : Spread [] []
  | blank {d : Token} {ts : List Token} {ps : List Piece} (separates : d.kind = .delimiter)
      (rest : Spread ts ps) : Spread (d :: ts) ps
  | gap {ts : List Token} {ps : List Piece} (rest : Spread ts ps) : Spread ts (.gap :: ps)
  | text {t : Token} {s : String} {ts : List Token} {ps : List Piece}
      (stands : t.kind ≠ .delimiter) (shown : t.text = s) (rest : Spread ts ps) :
      Spread (t :: ts) (.text s :: ps)
  | access {p name : Token} {s : String} {ts : List Token} {ps : List Piece}
      (divides : p.kind = .period) (shown : name.text = s) (rest : Spread ts ps) :
      Spread (p :: name :: ts) (.access s :: ps)

theorem Spread.of_blank {d : Token} {ts : List Token} {ps : List Piece}
    (spread : Spread (d :: ts) ps) (separates : d.kind = .delimiter) : Spread ts ps := by
  generalize same : d :: ts = us at spread
  induction spread with
  | nil => cases same
  | blank _ rest =>
    obtain ⟨-, rfl⟩ := List.cons.inj same
    exact rest
  | gap _ ih => exact .gap (ih same)
  | text stands =>
    obtain ⟨rfl, -⟩ := List.cons.inj same
    exact absurd separates stands
  | access divides =>
    obtain ⟨rfl, -⟩ := List.cons.inj same
    rw [separates] at divides
    cases divides

theorem Spread.of_gap {ts : List Token} {ps : List Piece} (spread : Spread ts (.gap :: ps)) :
    Spread ts ps := by
  generalize same : Piece.gap :: ps = qs at spread
  induction spread with
  | nil | text | access => cases same
  | blank separates _ ih => exact .blank separates (ih same)
  | gap rest =>
    obtain ⟨-, rfl⟩ := List.cons.inj same
    exact rest

/-- Where a token is read off, no other one is. -/
theorem reads_of_stops {x : Spelling} (sound : x.Sound) (plain : x.Plain) {xs : List Spelling}
    (stops : x.Stops (chars xs)) {ts : List Token}
    (reads : Lexicon.standard.Reads (chars (x :: xs)) ts) :
    ∃ us, ts = x.token :: us ∧ Lexicon.standard.Reads (chars xs) us := by
  have claimed := (recognize_text_iff sound).mpr ⟨plain, stops⟩
  obtain ⟨c, cs, text, -⟩ := head_text sound
  rw [chars_cons] at reads
  rw [text, List.cons_append] at claimed reads
  cases reads with
  | @cons _ _ t us claimed' nonempty rest =>
    rw [claimed] at claimed'
    obtain rfl := Option.some.inj (Except.ok.inj claimed')
    have whole := Lexicon.Reads.cons claimed nonempty rest
    rw [← List.cons_append, ← text, reads_text_iff sound] at whole
    exact ⟨us, rfl, whole.2.2⟩

/-- A token that is read off its own text is read off it by its text alone. -/
theorem token_of_reads {x : Spelling} (possible : x.Possible) {cs : List Char} {t : Token}
    {ts : List Token} (reads : Lexicon.standard.Reads (x.token.text.toList ++ cs) (t :: ts))
    (text : t.text = x.token.text) : t = x.token ∧ Lexicon.standard.Reads cs ts := by
  obtain ⟨y, possible', rfl⟩ := possible_of_reads reads t List.mem_cons_self
  have same := token_eq_of_text possible' possible text
  rw [same, reads_text_iff possible.1] at reads
  exact ⟨same, reads.2.2⟩

/-- Tokens for the pieces that are read off the texts are those that these texts show. -/
theorem Laid.eq_of_reads {xs : List Spelling} {ps : List Piece} {ts : List Token}
    (laid : Laid xs ps) (spread : Spread ts ps) (reads : Lexicon.standard.Reads (chars xs) ts) :
    ts = xs.map token := by
  induction laid generalizing ts with
  | nil =>
    cases reads
    rfl
  | gap rest ih =>
    obtain ⟨us, rfl, later⟩ := reads_of_stops sound_space rfl rest.stops_space reads
    rw [List.map_cons, ih (spread.of_gap.of_blank rfl) later]
  | text possible blank _ _ _ ih =>
    rw [chars_cons] at reads
    obtain ⟨c, cs, text, delimiter, -⟩ := head_text possible.1
    cases spread with
    | blank separates rest =>
      rw [text, List.cons_append] at reads
      exact absurd (delimiter.mp (isDelimiter_of_reads reads separates)) blank
    | text _ shown rest =>
      obtain ⟨rfl, later⟩ := token_of_reads possible reads shown
      rw [List.map_cons, ih rest later]
  | access possible _ _ _ ih =>
    obtain ⟨us, rfl, later⟩ := reads_of_stops sound_dot rfl trivial reads
    cases spread with
    | blank separates rest => cases separates
    | access divides shown rest =>
      obtain ⟨rfl, last⟩ := token_of_reads possible later shown
      rw [List.map_cons, List.map_cons, ih rest last]

end Spelling

end Bracket
