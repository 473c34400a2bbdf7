import Bracket.Proofs.Placement
import Bracket.Proofs.Spelling
import Mathlib.Data.List.TakeDrop

/-!
Texts of tokens that are read back. A token keeps its text as it is shown, which is how it was
written but for the backslashes before quotes. At its text it is read again if it is written as it
is shown, and if what follows neither prolongs it nor makes it a part of something else.
Main statement: what is neutral never does this, and a period does it to numerals, and to a minus
sign with digits behind the period.
-/

namespace Bracket

namespace Lexeme

/-! ### Conditions on texts -/

/-- A quoted text that has its own quote inside. -/
def hasInnerQuote : List Char → Bool
  | [] => false
  | c :: cs => isQuote c && cs.dropLast.contains c

/-- The text as a whole is a numeral. -/
def isNumeral (cs : List Char) : Bool := cs.all isNumeric && (Number.read? cs).isSome

/-- The piece does not run together with those behind it: delimiters do with delimiters, a numeral
does with a period, and a minus sign does with a period and digits. -/
def staysApart (piece : String) : List String → Bool
  | [] => true
  | next :: rest =>
    !(piece.toList.all isDelimiter && next.toList.all isDelimiter) &&
      !(next == "." && (isNumeral piece.toList ||
        (piece == "-" && isNumeral ('-' :: '.' :: (rest.headD "").toList))))

/-- No quoted text has its own quote inside, and no two neighbours run together. -/
def runsApart : List String → Bool
  | [] => true
  | piece :: rest => !hasInnerQuote piece.toList && staysApart piece rest && runsApart rest

/-! ### Numerals -/

theorem valueEmpty : Digits.value? 10 [] = none := rfl

/-- A numeral has a digit behind its sign, or behind a point that stands there. -/
theorem digit_of_read? {cs : List Char} (read : Number.read? cs ≠ none) :
    ∃ d rest, Decimal.isDigit d = true ∧
      ((Decimal.takeSign cs).2 = d :: rest ∨ (Decimal.takeSign cs).2 = '.' :: d :: rest) := by
  rw [Number.read?, ne_eq, Option.map_eq_none_iff, Decimal.read?] at read
  generalize Decimal.takeSign cs = signed at read ⊢
  obtain ⟨negative, unsigned⟩ := signed
  simp only [List.span_eq_takeWhile_dropWhile] at read ⊢
  cases unsigned with
  | nil => simp [Decimal.takeFraction, valueEmpty] at read
  | cons d rest =>
    by_cases digit : Decimal.isDigit d = true
    · exact ⟨d, rest, digit, .inl rfl⟩
    · rw [List.takeWhile_cons_of_neg digit, List.dropWhile_cons_of_neg digit] at read
      by_cases point : d = '.'
      · subst point
        cases rest with
        | nil => simp [Decimal.takeFraction, valueEmpty] at read
        | cons e rest =>
          by_cases digit' : Decimal.isDigit e = true
          · exact ⟨e, rest, digit', .inr rfl⟩
          · simp only [Decimal.takeFraction, List.span_eq_takeWhile_dropWhile, List.nil_append,
              List.takeWhile_cons_of_neg digit', valueEmpty, not_true] at read
      · have whole : Decimal.takeFraction (d :: rest) = ([], d :: rest) := by
          rw [Decimal.takeFraction]
          rintro tail ⟨⟩
          exact point rfl
        simp only [whole, List.nil_append, valueEmpty, not_true] at read

/-- No numeral starts with a letter. -/
theorem read?_letter {c : Char} (start : isIdentifierStart c = true) (cs : List Char) :
    Number.read? (c :: cs) = none := by
  by_contra read
  obtain ⟨d, rest, digit, behind⟩ := digit_of_read? read
  have unsigned : (Decimal.takeSign (c :: cs)).2 = c :: cs := by
    unfold Decimal.takeSign
    split
    · next same =>
      obtain ⟨rfl, -⟩ := List.cons.inj same
      cases start
    · next same =>
      obtain ⟨rfl, -⟩ := List.cons.inj same
      cases start
    · rfl
  rw [unsigned] at behind
  rw [isIdentifierStart_iff] at start
  rw [isDigit_iff] at digit
  rcases behind with same | same
  · obtain ⟨rfl, -⟩ := List.cons.inj same
    omega
  · obtain ⟨rfl, -⟩ := List.cons.inj same
    have period : '.'.toNat = 46 := rfl
    omega

/-- A minus sign alone, or before anything but a digit or a point, is no numeral. -/
theorem read?_minus {cs : List Char} (stop : Ends Decimal.isDigit cs)
    (point : cs.head? ≠ some '.') : Number.read? ('-' :: cs) = none := by
  by_contra read
  obtain ⟨d, rest, digit, behind⟩ := digit_of_read? read
  rw [show (Decimal.takeSign ('-' :: cs)).2 = cs from rfl] at behind
  rcases behind with rfl | rfl
  · rw [ends_cons.mp stop] at digit
    cases digit
  · exact point rfl

/-- Neither is one before a point without digits behind it. -/
theorem read?_minus_point {cs : List Char} (stop : Ends Decimal.isDigit cs) :
    Number.read? ('-' :: '.' :: cs) = none := by
  by_contra read
  obtain ⟨d, rest, digit, behind⟩ := digit_of_read? read
  rw [show (Decimal.takeSign ('-' :: '.' :: cs)).2 = '.' :: cs from rfl] at behind
  rcases behind with same | same
  · obtain ⟨rfl, -⟩ := List.cons.inj same
    cases digit
  · obtain ⟨-, rfl⟩ := List.cons.inj same
    rw [ends_cons.mp stop] at digit
    cases digit

/-! ### What may follow -/

/-- The text does not go on with a character of a number or an identifier. -/
structure Neutral (rest : List Char) : Prop where
  numeric : Ends isNumeric rest
  operator : Ends isOperator rest
  name : Ends isIdentifierChar rest

theorem neutral_nil : Neutral [] := ⟨ends_nil, ends_nil, ends_nil⟩

/-- Delimiters and closing brackets are neutral. -/
theorem neutral_cons {c : Char}
    (neutral : isDelimiter c = true ∨ c = ')' ∨ c = '\x7d') (cs : List Char) :
    Neutral (c :: cs) := by
  have codes : ¬ isNumeric c = true ∧ ¬ isOperator c = true ∧ ¬ isIdentifierChar c = true := by
    rw [isNumeric_iff, isOperator_iff, isIdentifierChar_iff]
    rcases neutral with blank | rfl | rfl
    · rw [isDelimiter_iff] at blank
      omega
    · decide
    · decide
  simp only [Bool.not_eq_true] at codes
  exact ⟨ends_cons.mpr codes.1, ends_cons.mpr codes.2.1, ends_cons.mpr codes.2.2⟩

theorem takeWhile_append_ends {p : Char → Bool} {rest : List Char} (stop : Ends p rest)
    (cs : List Char) : (cs ++ rest).takeWhile p = cs.takeWhile p := by
  induction cs with
  | nil => exact takeWhile_of_ends stop
  | cons c cs ih =>
    rw [List.cons_append, List.takeWhile_cons, List.takeWhile_cons, ih]

/-- What a text starts with does not reach into what follows, if that goes on differently. -/
theorem prefix_of_ends {p : Char → Bool} {w cs rest : List Char} (each : ∀ c ∈ w, p c = true)
    (stop : Ends p rest) (starts : w <+: cs ++ rest) : w <+: cs := by
  induction cs generalizing w with
  | nil =>
    cases w with
    | nil => exact List.nil_prefix
    | cons c w =>
      obtain ⟨behind, same⟩ := starts
      rw [List.nil_append] at same
      rw [← same, List.cons_append, ends_cons, each c List.mem_cons_self] at stop
      cases stop
  | cons d cs ih =>
    cases w with
    | nil => exact List.nil_prefix
    | cons c w =>
      obtain ⟨rfl, inner⟩ := List.cons_prefix_cons.mp starts
      exact List.cons_prefix_cons.mpr
        ⟨rfl, ih (fun c' member => each c' (List.mem_cons_of_mem c member)) inner⟩

end Lexeme

open Lexeme

namespace Lexicon

theorem word_chars : ∀ entry ∈ specialNumbers, ∀ c ∈ entry.1.toList,
    (isIdentifierChar c || isOperator c) = true := by
  intro entry member
  rw [← List.all_eq_true]
  simp only [specialNumbers, List.mem_cons, List.not_mem_nil, or_false] at member
  rcases member with rfl | rfl | rfl | rfl <;> decide

theorem specialNumber?_eq_none_iff {cs : List Char} :
    specialNumber? cs = none ↔ ∀ entry ∈ specialNumbers, ¬ entry.1.toList <+: cs := by
  rw [specialNumber?, List.findSome?_eq_none_iff]
  simp only [ite_eq_right_iff, reduceCtorEq, imp_false, List.isPrefixOf_iff_prefix]

/-- A number word does not reach into what follows, if that does not go on with a letter. -/
theorem specialNumber?_append {cs rest : List Char} (stop : Ends isIdentifierChar rest)
    (operator : Ends isOperator rest) (special : specialNumber? cs = none) :
    specialNumber? (cs ++ rest) = none := by
  rw [specialNumber?_eq_none_iff] at special ⊢
  intro entry member starts
  have ends : Ends (fun c => isIdentifierChar c || isOperator c) rest := by
    intro c first
    simp only [stop c first, operator c first, Bool.or_self]
  exact special entry member (prefix_of_ends (word_chars entry member) ends starts)

theorem specialNumber?_of_append {cs rest : List Char}
    (special : specialNumber? (cs ++ rest) = none) : specialNumber? cs = none := by
  rw [specialNumber?_eq_none_iff] at special ⊢
  intro entry member starts
  exact special entry member (starts.trans (List.prefix_append cs rest))

theorem number_eq_none_iff {cs : List Char} :
    number cs = .ok none ↔
      specialNumber? cs = none ∧ Number.read? (cs.takeWhile isNumeric) = none := by
  unfold number
  cases special : specialNumber? cs with
  | some t => simp
  | none =>
    dsimp only
    cases read : Number.read? (cs.takeWhile isNumeric) with
    | none => simp only [Option.bind_none, true_and]
    | some n =>
      simp only [Option.bind_some, run?_of_ne_nil _ (read?_ne_nil read), reduceCtorEq, and_false,
        Except.ok.injEq]

end Lexicon

namespace Spelling

/-- The token is one that the lexicon may claim somewhere. -/
def Possible (x : Spelling) : Prop := x.Sound ∧ ∃ rest, x.Stops rest

/-- An operator that a numeral could start with is a minus sign, and a point follows. -/
theorem read?_operator {run rest : List Char} (all : ∀ c ∈ run, isOperator c = true)
    (nonempty : run ≠ []) (stop : Ends Decimal.isDigit rest)
    (point : run = ['-'] → rest.head? ≠ some '.') :
    Number.read? ((run ++ rest).takeWhile isNumeric) = none := by
  cases run with
  | nil => exact absurd rfl nonempty
  | cons c run =>
    have operator := isOperator_iff.mp (all c List.mem_cons_self)
    by_cases numeric : isNumeric c = true
    · rw [isNumeric_iff] at numeric
      obtain rfl : c = '-' := by
        apply Char.toNat_inj.mp
        have minus : '-'.toNat = 45 := rfl
        omega
      rw [List.cons_append, List.takeWhile_cons_of_pos (by decide)]
      have second : ∀ d ∈ (run ++ rest).head?, Decimal.isDigit d = false ∧ d ≠ '.' := by
        intro d first
        cases run with
        | nil => exact ⟨stop d first, fun same => point rfl (same ▸ first)⟩
        | cons e run =>
          obtain rfl : e = d := by simpa using first
          have next := isOperator_iff.mp (all e (by simp))
          constructor
          · rw [← Bool.not_eq_true, isDigit_iff]
            omega
          · rintro rfl
            revert next
            decide
      have ends : ∀ d ∈ ((run ++ rest).takeWhile isNumeric).head?,
          Decimal.isDigit d = false ∧ d ≠ '.' := by
        intro d first
        refine second d ?_
        cases split : run ++ rest with
        | nil => simp [split] at first
        | cons e others =>
          rw [split, List.takeWhile_cons] at first
          split at first
          · exact first
          · simp at first
      refine read?_minus (fun d first => (ends d first).1) ?_
      intro first
      exact (ends '.' first).2 rfl
    · rw [List.cons_append, List.takeWhile_cons_of_neg numeric]
      rfl

theorem read?_name {run : List Char} (start : ∃ c ∈ run.head?, isIdentifierStart c = true)
    (rest : List Char) : Number.read? ((run ++ rest).takeWhile isNumeric) = none := by
  obtain ⟨c, first, start⟩ := start
  cases run with
  | nil => cases first
  | cons d run =>
    obtain rfl : d = c := by simpa using first
    rw [List.cons_append, List.takeWhile_cons]
    split
    · exact read?_letter start _
    · rfl

/-- Behind a token that may be claimed somewhere, what is neutral stops it. -/
theorem stops_of_neutral {x : Spelling} (possible : x.Possible) {rest : List Char}
    (neutral : Neutral rest) (blank : x.token.kind = .delimiter → Ends isDelimiter rest) :
    x.Stops rest := by
  obtain ⟨sound, behind, stops⟩ := possible
  have digits : Ends Decimal.isDigit rest := by
    intro c first
    have numeric := neutral.numeric c first
    rw [← Bool.not_eq_true, isNumeric_iff] at numeric
    rw [← Bool.not_eq_true, isDigit_iff]
    omega
  have point : rest.head? ≠ some '.' := by
    intro first
    have numeric := neutral.numeric '.' first
    cases numeric
  cases x with
  | mark | quoted | word => trivial
  | blank run => exact blank rfl
  | numeral run n =>
    exact ⟨neutral.numeric, Lexicon.specialNumber?_append neutral.name neutral.operator
      (Lexicon.specialNumber?_of_append stops.2)⟩
  | operator run =>
    have special := (Lexicon.number_eq_none_iff.mp stops.2).1
    refine ⟨neutral.operator, Lexicon.number_eq_none_iff.mpr ⟨?_, ?_⟩⟩
    · exact Lexicon.specialNumber?_append neutral.name neutral.operator
        (Lexicon.specialNumber?_of_append special)
    · exact read?_operator sound.2 sound.1 digits fun _ => point
  | name run =>
    have special := (Lexicon.number_eq_none_iff.mp stops.2).1
    refine ⟨neutral.name, Lexicon.number_eq_none_iff.mpr ⟨?_, read?_name sound.1 rest⟩⟩
    exact Lexicon.specialNumber?_append neutral.name neutral.operator
      (Lexicon.specialNumber?_of_append special)

/-- Behind a token that may be claimed somewhere, a period stops it unless it is a numeral, or a
minus sign that it makes one. -/
theorem stops_point_iff {x : Spelling} (possible : x.Possible) {rest : List Char} :
    x.Stops ('.' :: rest) ↔ (∀ run n, x ≠ .numeral run n) ∧
      (x = .operator ['-'] → Number.read? ('-' :: '.' :: rest.takeWhile isNumeric) = none) := by
  obtain ⟨sound, behind, stops⟩ := possible
  have letter : Ends isIdentifierChar ('.' :: rest) := ends_cons.mpr (by decide)
  have symbol : Ends isOperator ('.' :: rest) := ends_cons.mpr (by decide)
  have digit : Ends Decimal.isDigit ('.' :: rest) := ends_cons.mpr (by decide)
  have passes {run : List Char} (before : Lexicon.specialNumber? (run ++ behind) = none) :
      Lexicon.specialNumber? (run ++ '.' :: rest) = none :=
    Lexicon.specialNumber?_append letter symbol (Lexicon.specialNumber?_of_append before)
  cases x with
  | mark | quoted | word => simp [Stops]
  | blank run => simp [Stops, ends_cons, show isDelimiter '.' = false by decide]
  | numeral run n => simp [Stops, ends_cons, show isNumeric '.' = true by decide]
  | name run =>
    have special := passes (Lexicon.number_eq_none_iff.mp stops.2).1
    simp [Stops, ends_cons, show isIdentifierChar '.' = false by decide,
      Lexicon.number_eq_none_iff, special, read?_name sound.1]
  | operator run =>
    have special := passes (Lexicon.number_eq_none_iff.mp stops.2).1
    simp only [Stops, ends_cons, show isOperator '.' = false by decide,
      Lexicon.number_eq_none_iff, special, true_and, ne_eq, reduceCtorEq, not_false_eq_true,
      implies_true, operator.injEq]
    by_cases minus : run = ['-']
    · subst minus
      simp [show isNumeric '-' = true by decide, show isNumeric '.' = true by decide]
    · have other := read?_operator sound.2 sound.1 digit fun same => absurd same minus
      simp [other, minus]

/-! ### The texts of tokens -/

/-- The text of the token is how it is written. -/
def Plain (x : Spelling) : Prop := hasInnerQuote x.token.text.toList = false

/-- The first character of a token tells delimiters, quoted texts and periods from the others. -/
structure Shows (x : Spelling) (c : Char) : Prop where
  delimiter : isDelimiter c = true ↔ x.token.kind = .delimiter
  quote : isQuote c = true ↔ x.rank = 2
  period : c = '.' ↔ x.token.kind = .period

/-- Numbers and identifiers start with a character of no other class. -/
theorem shows_of_isPlain {x : Spelling} (sound : x.Sound) {c : Char} (given : IsPlain c)
    (ranked : 2 < x.rank) : x.Shows c := by
  have rank := rankOf_kind sound
  refine ⟨⟨?_, ?_⟩, ⟨?_, ?_⟩, ⟨?_, ?_⟩⟩
  · simp [given.delimiter]
  · intro kind
    rw [kind] at rank
    simp only [rankOf] at rank
    omega
  · simp [given.quote]
  · omega
  · rintro rfl
    cases given.mark
  · intro kind
    rw [kind] at rank
    simp only [rankOf] at rank
    omega

theorem shows_mark {c : Char} {kind : Token.Kind} (entry : (c, kind) ∈ marks) :
    (mark c kind).Shows c := by
  simp only [marks, List.mem_cons, List.not_mem_nil, or_false] at entry
  rcases entry with ⟨⟨⟩⟩ | ⟨⟨⟩⟩ | ⟨⟨⟩⟩ | ⟨⟨⟩⟩ | ⟨⟨⟩⟩ <;>
    exact ⟨by simp [token]; decide, by simp [Spelling.rank]; decide, by simp [token]⟩

theorem shows_blank {c : Char} {run : List Char} (delimiter : isDelimiter c = true) :
    (blank run).Shows c := by
  refine ⟨by simp [delimiter, token], ?_, ?_⟩
  · rw [isDelimiter_iff] at delimiter
    rw [isQuote_iff]
    simp only [Spelling.rank]
    omega
  · simp only [token, reduceCtorEq, iff_false]
    rintro rfl
    cases delimiter

theorem shows_quoted {quote : Char} (content : List Char) (standard : isQuote quote = true) :
    (quoted quote content).Shows quote := by
  have either : quote = '"' ∨ quote = '\'' := by simpa [isQuote] using standard
  rcases either with rfl | rfl <;>
    exact ⟨by simp [token]; decide, by simp [Spelling.rank]; decide, by simp [token]⟩

theorem head_text {x : Spelling} (sound : x.Sound) :
    ∃ c cs, x.token.text.toList = c :: cs ∧ x.Shows c := by
  rw [text_token]
  cases x with
  | mark c kind => exact ⟨c, [], rfl, shows_mark sound⟩
  | quoted quote content => exact ⟨quote, content ++ [quote], rfl, shows_quoted content sound.1⟩
  | blank run =>
    obtain ⟨c, cs, rfl⟩ := List.exists_cons_of_ne_nil sound.1
    exact ⟨c, cs, rfl, shows_blank (sound.2 c List.mem_cons_self)⟩
  | word w n =>
    obtain ⟨c, cs, letters, given⟩ := Lexicon.word_isPlain sound
    exact ⟨c, cs, letters, shows_of_isPlain sound given (by simp [Spelling.rank])⟩
  | numeral run n =>
    obtain ⟨c, cs, rfl⟩ := List.exists_cons_of_ne_nil (Lexicon.read?_ne_nil sound.2.2)
    have given := isPlain_of_isNumeric (sound.1 c List.mem_cons_self) (by simpa using sound.2.1)
    exact ⟨c, cs, rfl, shows_of_isPlain sound given (by simp [Spelling.rank])⟩
  | operator run =>
    obtain ⟨c, cs, rfl⟩ := List.exists_cons_of_ne_nil sound.1
    have given := isPlain_of_isOperator (sound.2 c List.mem_cons_self)
    exact ⟨c, cs, rfl, shows_of_isPlain sound given (by simp [Spelling.rank])⟩
  | name run =>
    obtain ⟨⟨c, first, start⟩, -⟩ := id sound
    obtain ⟨cs, rfl⟩ := List.head?_eq_some_iff.mp first
    have given := isPlain_of_isIdentifierStart start
    exact ⟨c, cs, rfl, shows_of_isPlain sound given (by simp [Spelling.rank])⟩

theorem source_ne_nil {x : Spelling} (sound : x.Sound) : x.source ≠ [] := by
  obtain ⟨c, cs, text, -⟩ := head_text sound
  rw [text_token] at text
  cases x with
  | quoted quote content => exact List.cons_ne_nil _ _
  | _ =>
    rw [show Spelling.source _ = c :: cs from text]
    exact List.cons_ne_nil c cs

/-! ### What is read off -/

/-- What is read off a text is spelled there, one token behind the other. -/
theorem exists_source_of_reads {cs : List Char} {t : Token} {ts : List Token}
    (reads : Lexicon.standard.Reads cs (t :: ts)) :
    ∃ x rest, cs = Spelling.source x ++ rest ∧ x.Sound ∧ x.Stops rest ∧ t = x.token ∧
      Lexicon.standard.Reads rest ts := by
  cases reads with
  | cons claimed _ later =>
    obtain ⟨x, rest, split, sound, stops, rfl⟩ := Lexicon.recognize_eq_some_iff.mp claimed
    rw [split, length_token, List.drop_left] at later
    exact ⟨x, rest, split, sound, stops, rfl, later⟩

/-- A token and what is behind it are read off where nothing prolongs the token. -/
theorem reads_source {x : Spelling} {cs : List Char} {ts : List Token} (sound : x.Sound)
    (stops : x.Stops cs) (later : Lexicon.standard.Reads cs ts) :
    Lexicon.standard.Reads (x.source ++ cs) (x.token :: ts) := by
  have claimed := Lexicon.recognize_source sound stops
  have rest : (x.source ++ cs).drop x.token.length = cs := by rw [length_token, List.drop_left]
  have nonempty : x.token.length ≠ 0 := by
    rw [length_token]
    exact fun empty => source_ne_nil sound (List.length_eq_zero_iff.mp empty)
  cases split : x.source ++ cs with
  | nil => exact absurd (List.append_eq_nil_iff.mp split).1 (source_ne_nil sound)
  | cons c behind =>
    rw [split] at claimed rest
    exact .cons claimed nonempty (by rwa [rest])

/-- What is read off a text are tokens that the lexicon may claim. -/
theorem possible_of_reads {cs : List Char} {ts : List Token}
    (reads : Lexicon.standard.Reads cs ts) :
    ∀ t ∈ ts, ∃ x : Spelling, x.Possible ∧ t = x.token := by
  induction ts generalizing cs with
  | nil => simp
  | cons t ts ih =>
    obtain ⟨x, rest, -, sound, stops, same, later⟩ := exists_source_of_reads reads
    exact List.forall_mem_cons.mpr ⟨⟨x, ⟨sound, rest, stops⟩, same⟩, ih later⟩

/-- A delimiter is read off where one stands. -/
theorem isDelimiter_of_reads {c : Char} {cs : List Char} {d : Token} {ts : List Token}
    (reads : Lexicon.standard.Reads (c :: cs) (d :: ts)) (blank : d.kind = .delimiter) :
    isDelimiter c = true := by
  obtain ⟨x, rest, split, sound, -, rfl, -⟩ := exists_source_of_reads reads
  obtain ⟨run, rfl⟩ := eq_blank_of_kind sound blank
  obtain ⟨nonempty, all⟩ := sound
  cases run with
  | nil => exact absurd rfl nonempty
  | cons b run =>
    obtain ⟨rfl, -⟩ := List.cons.inj split
    exact all c List.mem_cons_self

/-- What is written with backslashes is not what is shown. -/
theorem escape_ne {quote : Char} {content rest rest' : List Char} (ne : quote ≠ '\\')
    (same : content ++ quote :: rest = escape quote content ++ quote :: rest') :
    quote ∉ content := by
  induction content with
  | nil => simp
  | cons c content ih =>
    by_cases own : c = quote
    · subst own
      simp only [escape, List.flatMap_cons, if_true, List.cons_append] at same
      exact absurd (List.cons.inj same).1 ne
    · simp only [escape, List.flatMap_cons, own, if_false, List.cons_append, List.nil_append,
        List.cons.injEq, true_and] at same
      simp only [List.mem_cons, not_or]
      exact ⟨fun back => own back.symm, ih same⟩

theorem escape_of_not_mem {quote : Char} {content : List Char} (inside : quote ∉ content) :
    escape quote content = content := by
  induction content with
  | nil => rfl
  | cons c content ih =>
    simp only [List.mem_cons, not_or] at inside
    have other : c ≠ quote := fun same => inside.1 same.symm
    have rest := ih inside.2
    simp only [escape] at rest
    simp only [escape, List.flatMap_cons, other, if_false, rest, List.cons_append, List.nil_append]

theorem plain_iff {x : Spelling} (sound : x.Sound) :
    x.Plain ↔ ∀ quote content, x = .quoted quote content → quote ∉ content := by
  obtain ⟨c, cs, text, -, quote, -⟩ := head_text sound
  unfold Plain
  cases x with
  | quoted q content =>
    rw [text_token]
    simp [hasInnerQuote, sound.1]
  | _ =>
    have other : isQuote c = false := by simpa [rank] using quote
    simp [text, hasInnerQuote, other]

theorem Plain.source {x : Spelling} (plain : x.Plain) (sound : x.Sound) :
    x.source = x.token.text.toList := by
  rw [text_token]
  cases x with
  | quoted quote content =>
    have inside := (plain_iff sound).mp plain quote content rfl
    simp only [Spelling.source, escape_of_not_mem inside]
  | _ => rfl

/-- At its text a token is claimed where the text is how it is written and nothing prolongs it. -/
theorem recognize_text_iff {x : Spelling} (sound : x.Sound) {rest : List Char} :
    Lexicon.standard.recognize (x.token.text.toList ++ rest) = .ok (some x.token) ↔
      x.Plain ∧ x.Stops rest := by
  constructor
  · intro claimed
    obtain ⟨y, behind, split, soundY, -, same⟩ := Lexicon.recognize_eq_some_iff.mp claimed
    obtain rfl := token_injective sound soundY same
    have plain : x.Plain := by
      rw [plain_iff sound]
      rintro quote content rfl
      rw [text_token] at split
      simp only [Spelling.source, List.cons_append, List.append_assoc, List.cons.injEq,
        true_and] at split
      exact escape_ne (Lexicon.isQuote_ne_backslash sound.1) split
    rw [← plain.source sound] at claimed
    exact ⟨plain, (recognize_source_iff sound).mp claimed⟩
  · rintro ⟨plain, stops⟩
    rw [← plain.source sound]
    exact (recognize_source_iff sound).mpr stops

/-- A token that may be claimed somewhere is determined by its text. -/
theorem token_eq_of_text {x y : Spelling} (possibleX : x.Possible) (possibleY : y.Possible)
    (same : x.token.text = y.token.text) : x.token = y.token := by
  by_cases inner : hasInnerQuote x.token.text.toList = true
  · -- then both are quoted, with the same quotes and the same content
    obtain ⟨c, cs, text, -, quote, -⟩ := head_text possibleX.1
    obtain ⟨c', cs', text', -, quote', -⟩ := head_text possibleY.1
    have heads : c = c' := by
      rw [same, text'] at text
      exact (List.cons.inj text).1.symm
    have quoted : isQuote c = true := by
      rw [text, hasInnerQuote, Bool.and_eq_true] at inner
      exact inner.1
    have rankX := quote.mp quoted
    have rankY := quote'.mp (heads ▸ quoted)
    have texts : x.token.text.toList = y.token.text.toList := by rw [same]
    rw [text_token, text_token] at texts
    cases x <;> try (exfalso; simp [rank] at rankX; done)
    cases y <;> try (exfalso; simp [rank] at rankY; done)
    simp only [List.cons_append, List.cons.injEq] at texts
    obtain ⟨rfl, rest⟩ := texts
    rw [List.append_cancel_right rest]
  · rw [Bool.not_eq_true] at inner
    have stopsX : x.Stops [] := stops_of_neutral possibleX neutral_nil fun _ => ends_nil
    have stopsY : y.Stops [] := stops_of_neutral possibleY neutral_nil fun _ => ends_nil
    have plainY : y.Plain := by
      rw [Plain, ← same]
      exact inner
    have claimedX := (recognize_text_iff possibleX.1).mpr ⟨inner, stopsX⟩
    have claimedY := (recognize_text_iff possibleY.1).mpr ⟨plainY, stopsY⟩
    rw [same, claimedY] at claimedX
    exact (Option.some.inj (Except.ok.inj claimedX)).symm

theorem unplaced_token (x : Spelling) : x.token.unplaced = x.token := by
  have identifiers (run : List Char) : (identifier run).unplaced = identifier run := by
    obtain ⟨l, same, -⟩ := identifier_eq run
    rw [same]
    rfl
  cases x with
  | operator run | name run => exact identifiers run
  | _ => rfl

end Spelling

namespace Node

/-- All tokens are ones that the standard lexicon may claim. -/
def Claimed (ts : List Token) : Prop := ∀ t ∈ ts, ∃ x : Spelling, x.Possible ∧ t.unplaced = x.token

theorem Claimed.left {ts us : List Token} (claimed : Claimed (ts ++ us)) : Claimed ts :=
  fun t member => claimed t (List.mem_append_left us member)

theorem Claimed.right {ts us : List Token} (claimed : Claimed (ts ++ us)) : Claimed us :=
  fun t member => claimed t (List.mem_append_right ts member)

theorem claimed_of_reads {cs : List Char} {ts : List Token}
    (reads : Lexicon.standard.Reads cs ts) : Claimed ts := by
  intro t member
  obtain ⟨x, possible, rfl⟩ := Spelling.possible_of_reads reads t member
  exact ⟨x, possible, x.unplaced_token⟩

theorem Claimed.layOut {ts : List Token} (claimed : Claimed ts) (offset : Nat) :
    Claimed (Token.layOut offset ts) := by
  intro t member
  have inside : t.unplaced ∈ ts.map Token.unplaced := by
    rw [← Token.unplaced_layOut offset ts]
    exact List.mem_map_of_mem member
  obtain ⟨t', old, same⟩ := List.mem_map.mp inside
  rw [← same]
  exact claimed t' old

end Node

end Bracket
