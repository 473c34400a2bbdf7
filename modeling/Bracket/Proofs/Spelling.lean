import Bracket.Proofs.Source
import Mathlib.Data.List.TakeWhile

/-!
How the tokens of the standard lexicon are spelled. A token is a bracket or period, a run of
characters of one class, a quoted text or a number word; a run goes as far as it can. So a token is
claimed for two reasons: how it is spelled, and that what follows does not prolong it.
Main statement: the lexicon claims a token exactly for these two reasons.
-/

namespace Bracket

namespace Lexeme

/-- Brackets and the period, with what they stand for. -/
def marks : List (Char × Token.Kind) :=
  [('(', .openParen), (')', .closeParen), ('\x7b', .openBrace), ('\x7d', .closeBrace),
    ('.', .period)]

def isMark (c : Char) : Bool := marks.any fun entry => entry.1 == c

def isQuote (c : Char) : Bool := c == '"' || c == '\''

/-- The text does not start with a character of the class. -/
def Ends (p : Char → Bool) (cs : List Char) : Prop := ∀ c ∈ cs.head?, p c = false

/-! ### Classes of characters -/

section Classes

variable {c : Char}

theorem le_iff_toNat (a b : Char) : a ≤ b ↔ a.toNat ≤ b.toNat := Iff.rfl

theorem isMark_iff : isMark c = true ↔
    c.toNat = 40 ∨ c.toNat = 41 ∨ c.toNat = 123 ∨ c.toNat = 125 ∨ c.toNat = 46 := by
  simp only [isMark, marks, List.any_cons, List.any_nil, Bool.or_false, Bool.or_eq_true,
    beq_iff_eq, ← Char.toNat_inj, Char.reduceToNat]
  omega

theorem isQuote_iff : isQuote c = true ↔ c.toNat = 34 ∨ c.toNat = 39 := by
  simp [isQuote, ← Char.toNat_inj]

theorem isDelimiter_iff : isDelimiter c = true ↔
    (9 ≤ c.toNat ∧ c.toNat ≤ 13) ∨ c.toNat = 32 ∨ c.toNat = 44 ∨ c.toNat = 133 ∨ c.toNat = 160 ∨
      c.toNat = 5760 ∨ (8192 ≤ c.toNat ∧ c.toNat ≤ 8202) ∨ c.toNat = 8232 ∨ c.toNat = 8233 ∨
      c.toNat = 8239 ∨ c.toNat = 8287 ∨ c.toNat = 12288 := by
  simp only [isDelimiter, Text.isBlank, ← Char.toNat_inj, Bool.or_eq_true, Bool.and_eq_true,
    decide_eq_true_eq, beq_iff_eq, Char.reduceToNat]
  omega

theorem isDigit_iff : Decimal.isDigit c = true ↔ 48 ≤ c.toNat ∧ c.toNat ≤ 57 := by
  simp [Decimal.isDigit, le_iff_toNat]

theorem isNumeric_iff : isNumeric c = true ↔
    (48 ≤ c.toNat ∧ c.toNat ≤ 57) ∨ c.toNat = 45 ∨ c.toNat = 46 ∨ c.toNat = 69 ∨ c.toNat = 101 ∨
      c.toNat = 120 := by
  simp [isNumeric, Decimal.isDigit, le_iff_toNat, ← Char.toNat_inj, or_assoc]

theorem isOperator_iff : isOperator c = true ↔
    c.toNat = 33 ∨ c.toNat = 61 ∨ c.toNat = 60 ∨ c.toNat = 62 ∨ c.toNat = 47 ∨ c.toNat = 38 ∨
      c.toNat = 124 ∨ c.toNat = 42 ∨ c.toNat = 37 ∨ c.toNat = 45 ∨ c.toNat = 94 ∨ c.toNat = 63 ∨
      c.toNat = 43 ∨ c.toNat = 92 := by
  simp [isOperator, operators, ← Char.toNat_inj]

theorem isIdentifierStart_iff : isIdentifierStart c = true ↔
    (97 ≤ c.toNat ∧ c.toNat ≤ 122) ∨ (65 ≤ c.toNat ∧ c.toNat ≤ 90) ∨ c.toNat = 95 ∨
      c.toNat = 36 := by
  simp [isIdentifierStart, isLetter, le_iff_toNat, ← Char.toNat_inj, or_assoc]

theorem isIdentifierChar_iff : isIdentifierChar c = true ↔
    (97 ≤ c.toNat ∧ c.toNat ≤ 122) ∨ (65 ≤ c.toNat ∧ c.toNat ≤ 90) ∨ c.toNat = 95 ∨
      c.toNat = 36 ∨ (48 ≤ c.toNat ∧ c.toNat ≤ 57) := by
  rw [isIdentifierChar, Bool.or_eq_true, isIdentifierStart_iff, isDigit_iff]
  simp only [or_assoc]

/-- The character starts a number or a name. -/
structure IsPlain (c : Char) : Prop where
  mark : isMark c = false
  delimiter : isDelimiter c = false
  quote : isQuote c = false

theorem isPlain_of_toNat (mark : ¬ (c.toNat = 40 ∨ c.toNat = 41 ∨ c.toNat = 123 ∨ c.toNat = 125 ∨
      c.toNat = 46)) (low : 33 ≤ c.toNat) (high : c.toNat ≤ 126) (comma : c.toNat ≠ 44)
    (quote : ¬ (c.toNat = 34 ∨ c.toNat = 39)) : IsPlain c where
  mark := by
    rw [← Bool.not_eq_true, isMark_iff]
    exact mark
  delimiter := by
    rw [← Bool.not_eq_true, isDelimiter_iff]
    omega
  quote := by
    rw [← Bool.not_eq_true, isQuote_iff]
    exact quote

theorem isPlain_of_isNumeric (numeric : isNumeric c = true) (point : c ≠ '.') : IsPlain c := by
  have ne : c.toNat ≠ 46 := fun same => point (Char.toNat_inj.mp same)
  rw [isNumeric_iff] at numeric
  apply isPlain_of_toNat <;> omega

theorem isPlain_of_isOperator (operator : isOperator c = true) : IsPlain c := by
  rw [isOperator_iff] at operator
  apply isPlain_of_toNat <;> omega

theorem isPlain_of_isIdentifierStart (start : isIdentifierStart c = true) : IsPlain c := by
  rw [isIdentifierStart_iff] at start
  apply isPlain_of_toNat <;> omega

theorem isOperator_of_isIdentifierStart (start : isIdentifierStart c = true) :
    isOperator c = false := by
  rw [isIdentifierStart_iff] at start
  rw [← Bool.not_eq_true, isOperator_iff]
  omega

end Classes

/-! ### Runs -/

section Runs

variable {p : Char → Bool} {run rest cs : List Char}

theorem ends_nil : Ends p [] := by simp [Ends]

theorem ends_cons {c : Char} : Ends p (c :: cs) ↔ p c = false := by simp [Ends]

theorem takeWhile_of_ends (stop : Ends p cs) : cs.takeWhile p = [] := by
  cases cs with
  | nil => rfl
  | cons c cs => rw [List.takeWhile_cons_of_neg (by simp [ends_cons.mp stop])]

/-- A run goes as far as its characters do. -/
theorem takeWhile_run (all : ∀ c ∈ run, p c = true) (stop : Ends p rest) :
    (run ++ rest).takeWhile p = run := by
  rw [List.takeWhile_append_of_pos all, takeWhile_of_ends stop, List.append_nil]

theorem ends_dropWhile (p : Char → Bool) (cs : List Char) : Ends p (cs.dropWhile p) := by
  intro c first
  have stop := List.head?_dropWhile_not p cs
  rw [Option.mem_def.mp first] at stop
  simpa using stop

theorem mem_takeWhile (p : Char → Bool) (cs : List Char) : ∀ c ∈ cs.takeWhile p, p c = true :=
  fun _ member => List.mem_takeWhile_imp member

end Runs

end Lexeme

open Lexeme

/-- How a token is spelled. -/
inductive Spelling where
  | mark (c : Char) (kind : Token.Kind)
  | blank (run : List Char)
  | quoted (quote : Char) (content : List Char)
  | word (w : String) (n : Number)
  | numeral (run : List Char) (n : Number)
  | operator (run : List Char)
  | name (run : List Char)

namespace Spelling

/-- The characters of the token in its text. -/
def source : Spelling → List Char
  | .mark c _ => [c]
  | .quoted quote content => quote :: escape quote content ++ [quote]
  | .word w _ => w.toList
  | .blank run | .numeral run _ | .operator run | .name run => run

/-- The token of an identifier, which may be a keyword. -/
def identifier (run : List Char) : Token :=
  Lexicon.standard.resolve ⟨.literal .identifier, String.ofList run, run.length, 0⟩

def token : Spelling → Token
  | .mark c kind => ⟨kind, String.singleton c, 1, 0⟩
  | .blank run => ⟨.delimiter, String.ofList run, run.length, 0⟩
  | .quoted quote content => ⟨.literal (.string (String.ofList content)),
    String.ofList (quote :: content ++ [quote]), (escape quote content).length + 2, 0⟩
  | .word w n => .exact (.literal (.number n)) w
  | .numeral run n => ⟨.literal (.number n), String.ofList run, run.length, 0⟩
  | .operator run | .name run => identifier run

/-- Some token is spelled like this. A quoted text does not end in a backslash, which would escape
the closing quote. -/
def Sound : Spelling → Prop
  | .mark c kind => (c, kind) ∈ marks
  | .blank run => run ≠ [] ∧ ∀ c ∈ run, isDelimiter c = true
  | .quoted quote content => isQuote quote = true ∧ content.getLast? ≠ some '\\'
  | .word w n => (w, n) ∈ specialNumbers
  | .numeral run n => (∀ c ∈ run, isNumeric c = true) ∧ run.head? ≠ some '.' ∧
    Number.read? run = some n
  | .operator run => run ≠ [] ∧ ∀ c ∈ run, isOperator c = true
  | .name run => (∃ c ∈ run.head?, isIdentifierStart c = true) ∧
    ∀ c ∈ run, isIdentifierChar c = true

/-- What follows does not prolong the token, nor make it another. -/
def Stops (rest : List Char) : Spelling → Prop
  | .mark _ _ | .quoted _ _ | .word _ _ => True
  | .blank _ => Ends isDelimiter rest
  | .numeral run _ => Ends isNumeric rest ∧ Lexicon.specialNumber? (run ++ rest) = none
  | .operator run => Ends isOperator rest ∧ Lexicon.number (run ++ rest) = .ok none
  | .name run => Ends isIdentifierChar rest ∧ Lexicon.number (run ++ rest) = .ok none

end Spelling

namespace Lexicon

/-! ### What the first character decides -/

theorem standard_toLists :
    standard.nests.toList = standardNests ∧ standard.primitives.toList = standardPrimitives ∧
      standard.identifiers.toList = standardIdentifiers :=
  ⟨toList_defaults _, toList_defaults _, toList_defaults _⟩

theorem number_ne_error (cs : List Char) (e : Error) : number cs ≠ .error e := by
  unfold number
  split <;> simp

theorem recognize_mark {c : Char} {kind : Token.Kind} (mark : (c, kind) ∈ marks)
    (rest : List Char) :
    standard.recognize (c :: rest) = .ok (some ⟨kind, String.singleton c, 1, 0⟩) := by
  rw [recognize, standard_toLists.1]
  simp only [marks, List.mem_cons, List.not_mem_nil, or_false] at mark
  rcases mark with ⟨⟨⟩⟩ | ⟨⟨⟩⟩ | ⟨⟨⟩⟩ | ⟨⟨⟩⟩ | ⟨⟨⟩⟩ <;> rfl

/-- Behind the brackets and the period come the primitives. -/
theorem recognize_of_not_mark {c : Char} (other : isMark c = false) (rest : List Char) :
    standard.recognize (c :: rest) =
      match firstClaim standardPrimitives (c :: rest) with
      | .error e => .error e
      | .ok (some t) => .ok (some t)
      | .ok none =>
        match firstClaim standardIdentifiers (c :: rest) with
        | .error e => .error e
        | .ok t => .ok (t.map standard.resolve) := by
  have passes : firstClaim standardNests (c :: rest) = .ok none := by
    simp only [isMark, marks, List.any_cons, List.any_nil, Bool.or_false, Bool.or_eq_false_iff]
      at other
    obtain ⟨opens, closes, opensBrace, closesBrace, divides⟩ := other
    simp [standardNests, firstClaim, parentheses, braces, period, single, opens, closes,
      opensBrace, closesBrace, divides]
  rcases primitives : firstClaim standardPrimitives (c :: rest) with e | _ | t <;>
    rcases identifiers : firstClaim standardIdentifiers (c :: rest) with e' | t' <;>
    simp only [recognize, standard_toLists, passes, primitives, identifiers]

theorem recognize_delimiter {c : Char} (blank : isDelimiter c = true) (rest : List Char) :
    standard.recognize (c :: rest) =
      .ok (run? .delimiter ((c :: rest).takeWhile isDelimiter)) := by
  have other : isMark c = false := by
    rw [isDelimiter_iff] at blank
    rw [← Bool.not_eq_true, isMark_iff]
    omega
  have claimed : firstClaim standardPrimitives (c :: rest) =
      .ok (run? .delimiter ((c :: rest).takeWhile isDelimiter)) := by
    simp [standardPrimitives, firstClaim, delimiter, run?, blank]
  rw [recognize_of_not_mark other, claimed]
  simp [run?, blank]

theorem recognize_quote {c : Char} (quote : isQuote c = true) (rest : List Char) :
    standard.recognize (c :: rest) = quoted c (c :: rest) := by
  have either : c = '"' ∨ c = '\'' := by simpa [isQuote] using quote
  have other : isMark c = false := by rcases either with rfl | rfl <;> rfl
  have passes : delimiter (c :: rest) = .ok none := by
    have blank : isDelimiter c = false := by rcases either with rfl | rfl <;> rfl
    simp [delimiter, takeWhile_of_ends (ends_cons.mpr blank), run?]
  rw [recognize_of_not_mark other]
  by_cases closed : (readQuoted c rest).terminated = true
  · rcases either with rfl | rfl <;> simp [standardPrimitives, firstClaim, passes, quoted, closed]
  · rcases either with rfl | rfl <;> simp [standardPrimitives, firstClaim, passes, quoted, closed]

theorem recognize_plain {c : Char} (plain : IsPlain c) (rest : List Char) :
    standard.recognize (c :: rest) =
      match number (c :: rest) with
      | .ok (some t) => .ok (some t)
      | _ =>
        match identifier (c :: rest) with
        | .error e => .error e
        | .ok t => .ok (t.map standard.resolve) := by
  obtain ⟨mark, blank, quote⟩ := plain
  have ne : c ≠ '"' ∧ c ≠ '\'' := by simpa [isQuote] using quote
  rw [recognize_of_not_mark mark]
  simp only [standardPrimitives, standardIdentifiers, firstClaim, delimiter, quoted, ne.1, ne.2,
    takeWhile_of_ends (ends_cons.mpr blank), run?, List.isEmpty_nil, if_true, if_false]
  have fine := number_ne_error (c :: rest)
  revert fine
  cases number (c :: rest) with
  | error e => exact fun fine => absurd rfl (fine e)
  | ok t =>
    intro _
    cases t with
    | some t => rfl
    | none =>
      cases identifier (c :: rest) with
      | error e => rfl
      | ok t => cases t <;> rfl

/-! ### Quoted texts -/

/-- The content of a quoted text that is closed does not end in a backslash. -/
theorem readQuoted_getLast? {quote : Char} {cs : List Char}
    (closed : (readQuoted quote cs).terminated = true) (ne : quote ≠ '\\') :
    (readQuoted quote cs).content.getLast? ≠ some '\\' := by
  fun_induction readQuoted quote cs with
  | case1 => cases closed
  | case2 => simp
  | case3 => cases closed
  | case4 c d rest escaped ih =>
    obtain ⟨-, rfl⟩ := escaped
    have last := ih closed
    simp only [Quoted.cons, List.getLast?_cons]
    cases found : (readQuoted d rest).content.getLast? with
    | none => simpa using ne
    | some e =>
      rw [found] at last
      simpa using last
  | case5 d rest _ => simp
  | case6 c d rest plain ordinary ih =>
    have last := ih closed
    simp only [Quoted.cons, List.getLast?_cons]
    cases found : (readQuoted quote (d :: rest)).content.getLast? with
    | some e =>
      rw [found] at last
      simpa using last
    | none =>
      -- the content ends here, so that the next character closes it and `c` would escape it
      have empty : (readQuoted quote (d :: rest)).content = [] := List.getLast?_eq_none_iff.mp found
      obtain ⟨behind, split, -⟩ := readQuoted_terminated closed
      rw [empty] at split
      have next : d = quote := (List.cons.inj split).1
      rintro ⟨rfl⟩
      exact plain ⟨rfl, next⟩

/-- A quote inside a content has a backslash before it. -/
theorem escape_head?_ne {quote : Char} (ne : quote ≠ '\\') (content : List Char) :
    (escape quote content).head? ≠ some quote := by
  cases content with
  | nil => simp [escape]
  | cons c content =>
    by_cases same : c = quote
    · simpa [escape, same] using ne.symm
    · simp [escape, same]

/-- A character of a content is read, unless it is a backslash at the end with a quote behind it. -/
theorem readQuoted_escape_cons {quote c : Char} {content rest : List Char} (ne : quote ≠ '\\')
    (nonempty : rest ≠ []) (apart : content = [] → c = '\\' → rest.head? ≠ some quote) :
    readQuoted quote (escape quote (c :: content) ++ rest) =
      (readQuoted quote (escape quote content ++ rest)).cons c (if c = quote then 2 else 1) := by
  by_cases same : c = quote
  · subst same
    have head : escape c (c :: content) = '\\' :: c :: escape c content := by
      simp [escape]
    rw [head, List.cons_append, List.cons_append, readQuoted, if_pos ⟨rfl, rfl⟩, if_pos rfl]
  · have head : escape quote (c :: content) = c :: escape quote content := by
      simp [escape, same]
    rw [head, List.cons_append, if_neg same]
    cases split : escape quote content ++ rest with
    | nil => exact absurd (List.append_eq_nil_iff.mp split).2 nonempty
    | cons d others =>
      have plain : ¬ (c = '\\' ∧ d = quote) := by
        rintro ⟨backslash, rfl⟩
        have first : (escape d content ++ rest).head? = some d := by rw [split, List.head?_cons]
        rw [List.head?_append, Option.or_eq_some_iff] at first
        rcases first with inside | ⟨empty, behind⟩
        · exact escape_head?_ne ne content inside
        · refine apart ?_ backslash behind
          cases content with
          | nil => rfl
          | cons e content =>
            by_cases own : e = d <;> simp [escape, own] at empty
      rw [readQuoted, if_neg plain, if_neg same]

/-- A quoted text is read back from its source, whatever follows. -/
theorem readQuoted_escape {quote : Char} {content : List Char} (rest : List Char)
    (ne : quote ≠ '\\') (last : content.getLast? ≠ some '\\') :
    readQuoted quote (escape quote content ++ quote :: rest) =
      ⟨content, (escape quote content).length + 1, true⟩ := by
  induction content with
  | nil =>
    cases rest with
    | nil => simp [escape, readQuoted]
    | cons d rest => simp [escape, readQuoted, ne]
  | cons c content ih =>
    have behind : content.getLast? ≠ some '\\' := by
      intro same
      exact last (by simp [List.getLast?_cons, same])
    have apart : content = [] → c = '\\' → (quote :: rest).head? ≠ some quote := by
      rintro rfl rfl
      exact absurd rfl last
    rw [readQuoted_escape_cons ne (List.cons_ne_nil _ _) apart, ih behind]
    by_cases same : c = quote <;> simp [Quoted.cons, escape, same]

/-- Behind a content that ends in a backslash the closing quote is taken for an escaped one. -/
theorem readQuoted_escape_backslash {quote : Char} (ne : quote ≠ '\\') (content : List Char) :
    (readQuoted quote (escape quote content ++ ['\\', quote])).terminated = false := by
  induction content with
  | nil => simp [escape, readQuoted, Quoted.cons]
  | cons c content ih =>
    have apart : content = [] → c = '\\' → ['\\', quote].head? ≠ some quote := by
      intro _ _ same
      exact ne (Option.some.inj same).symm
    rw [readQuoted_escape_cons ne (List.cons_ne_nil _ _) apart]
    exact ih

theorem isQuote_ne_backslash {quote : Char} (standard : isQuote quote = true) : quote ≠ '\\' := by
  rintro rfl
  cases standard

/-! ### What is spelled is claimed -/

theorem run?_of_ne_nil (kind : Token.Kind) {run : List Char} (nonempty : run ≠ []) :
    run? kind run = some ⟨kind, String.ofList run, run.length, 0⟩ := by
  rw [run?, if_neg (by simpa using nonempty)]

/-- No number word is the start of another. -/
theorem specialNumber?_word {w : String} {n : Number} (entry : (w, n) ∈ specialNumbers)
    (rest : List Char) :
    specialNumber? (w.toList ++ rest) = some (.exact (.literal (.number n)) w) := by
  simp only [specialNumbers, List.mem_cons, List.not_mem_nil, or_false] at entry
  rcases entry with ⟨⟨⟩⟩ | ⟨⟨⟩⟩ | ⟨⟨⟩⟩ | ⟨⟨⟩⟩ <;> rfl

theorem word_isPlain {w : String} {n : Number} (entry : (w, n) ∈ specialNumbers) :
    ∃ c cs, w.toList = c :: cs ∧ IsPlain c := by
  simp only [specialNumbers, List.mem_cons, List.not_mem_nil, or_false] at entry
  rcases entry with ⟨⟨⟩⟩ | ⟨⟨⟩⟩ | ⟨⟨⟩⟩ | ⟨⟨⟩⟩
  · exact ⟨'-', "Infinity".toList, rfl, by constructor <;> decide⟩
  · exact ⟨'I', "nfinity".toList, rfl, by constructor <;> decide⟩
  · exact ⟨'-', "NaN".toList, rfl, by constructor <;> decide⟩
  · exact ⟨'N', "aN".toList, rfl, by constructor <;> decide⟩

theorem number_word {w : String} {n : Number} (entry : (w, n) ∈ specialNumbers)
    (rest : List Char) :
    number (w.toList ++ rest) = .ok (some (.exact (.literal (.number n)) w)) := by
  rw [number, specialNumber?_word entry rest]

theorem number_numeral {run rest : List Char} {n : Number}
    (all : ∀ c ∈ run, isNumeric c = true) (read : Number.read? run = some n)
    (nonempty : run ≠ []) (stop : Ends isNumeric rest)
    (special : specialNumber? (run ++ rest) = none) :
    number (run ++ rest) =
      .ok (some ⟨.literal (.number n), String.ofList run, run.length, 0⟩) := by
  rw [number, special]
  simp only [takeWhile_run all stop, read, Option.bind_some, run?_of_ne_nil _ nonempty]

theorem identifier_operator {run rest : List Char} (nonempty : run ≠ [])
    (all : ∀ c ∈ run, isOperator c = true) (stop : Ends isOperator rest) :
    identifier (run ++ rest) =
      .ok (some ⟨.literal .identifier, String.ofList run, run.length, 0⟩) := by
  simp only [identifier, takeWhile_run all stop, run?_of_ne_nil _ nonempty]
  rw [if_neg (by simpa using nonempty)]

theorem identifier_name {c : Char} {run rest : List Char} (start : isIdentifierStart c = true)
    (all : ∀ d ∈ c :: run, isIdentifierChar d = true) (stop : Ends isIdentifierChar rest) :
    identifier (c :: run ++ rest) =
      .ok (some ⟨.literal .identifier, String.ofList (c :: run), (c :: run).length, 0⟩) := by
  have operator : (c :: run ++ rest).takeWhile isOperator = [] :=
    takeWhile_of_ends (ends_cons.mpr (isOperator_of_isIdentifierStart start))
  have runs := takeWhile_run all stop
  rw [List.cons_append] at operator runs ⊢
  simp only [identifier, operator, List.isEmpty_nil, if_true, start, runs]
  rw [run?_of_ne_nil _ (by simp)]

theorem read?_ne_nil {run : List Char} {n : Number} (read : Number.read? run = some n) :
    run ≠ [] := by
  rintro rfl
  cases read

/-- A token is claimed where it is spelled and nothing prolongs it. -/
theorem recognize_source {x : Spelling} {rest : List Char} (sound : x.Sound)
    (stops : x.Stops rest) : standard.recognize (x.source ++ rest) = .ok (some x.token) := by
  cases x with
  | mark c kind => exact recognize_mark sound rest
  | blank run =>
    obtain ⟨nonempty, all⟩ := sound
    have runs := takeWhile_run all stops
    cases run with
    | nil => exact absurd rfl nonempty
    | cons c run =>
      rw [Spelling.source, List.cons_append, recognize_delimiter (all c List.mem_cons_self),
        ← List.cons_append, runs, run?_of_ne_nil _ nonempty]
      rfl
  | quoted quote content =>
    obtain ⟨standard, last⟩ := sound
    have ne := isQuote_ne_backslash standard
    rw [Spelling.source, List.cons_append, List.cons_append, recognize_quote standard, quoted,
      if_pos rfl, List.append_assoc, List.singleton_append, readQuoted_escape rest ne last]
    rfl
  | word w n =>
    have claimed := number_word sound rest
    obtain ⟨c, cs, letters, plain⟩ := word_isPlain sound
    rw [letters, List.cons_append] at claimed
    rw [Spelling.source, letters, List.cons_append, recognize_plain plain, claimed]
    rfl
  | numeral run n =>
    obtain ⟨all, point, read⟩ := sound
    have claimed := number_numeral all read (read?_ne_nil read) stops.1 stops.2
    cases run with
    | nil => exact absurd rfl (read?_ne_nil read)
    | cons c run =>
      have plain := isPlain_of_isNumeric (all c List.mem_cons_self) (by simpa using point)
      rw [Spelling.source, List.cons_append, recognize_plain plain, ← List.cons_append, claimed]
      rfl
  | operator run =>
    obtain ⟨nonempty, all⟩ := sound
    have claimed := identifier_operator nonempty all stops.1
    have passes := stops.2
    cases run with
    | nil => exact absurd rfl nonempty
    | cons c run =>
      rw [Spelling.source, List.cons_append,
        recognize_plain (isPlain_of_isOperator (all c List.mem_cons_self)), ← List.cons_append,
        passes, claimed]
      rfl
  | name run =>
    obtain ⟨⟨c, first, start⟩, all⟩ := sound
    have passes := stops.2
    cases run with
    | nil => cases first
    | cons d run =>
      obtain rfl : d = c := by simpa using first
      have claimed := identifier_name start all stops.1
      rw [Spelling.source, List.cons_append, recognize_plain (isPlain_of_isIdentifierStart start),
        ← List.cons_append, passes, claimed]
      rfl

/-! ### What is claimed is spelled -/

/-- The text starts with a token that is spelled like this. -/
def Spells (cs : List Char) (t : Token) : Prop :=
  ∃ x rest, cs = Spelling.source x ++ rest ∧ x.Sound ∧ x.Stops rest ∧ t = x.token

theorem run?_eq_some {kind : Token.Kind} {run : List Char} {t : Token}
    (claimed : run? kind run = some t) :
    run ≠ [] ∧ t = ⟨kind, String.ofList run, run.length, 0⟩ := by
  unfold run? at claimed
  split at claimed
  · cases claimed
  · next nonempty => exact ⟨by simpa using nonempty, (Option.some.inj claimed).symm⟩

theorem specialNumber?_eq_some {cs : List Char} {t : Token} (claimed : specialNumber? cs = some t) :
    ∃ w n, (w, n) ∈ specialNumbers ∧ w.toList <+: cs ∧ t = .exact (.literal (.number n)) w := by
  obtain ⟨⟨w, n⟩, entry, found⟩ := List.exists_of_findSome?_eq_some claimed
  simp only [Option.ite_none_right_eq_some, Option.some.injEq, List.isPrefixOf_iff_prefix] at found
  exact ⟨w, n, entry, found.1, found.2.symm⟩

theorem spells_number {c : Char} {cs : List Char} {t : Token} (point : c ≠ '.')
    (claimed : number (c :: cs) = .ok (some t)) : Spells (c :: cs) t := by
  unfold number at claimed
  split at claimed
  · next word found =>
    obtain rfl := Option.some.inj (Except.ok.inj claimed)
    obtain ⟨w, n, entry, ⟨rest, split⟩, rfl⟩ := specialNumber?_eq_some found
    exact ⟨.word w n, rest, split.symm, entry, trivial, rfl⟩
  · next special =>
    obtain ⟨n, read, run⟩ := Option.bind_eq_some_iff.mp (Except.ok.inj claimed)
    obtain ⟨-, rfl⟩ := run?_eq_some run
    have split := split_takeWhile isNumeric (c :: cs)
    refine ⟨.numeral ((c :: cs).takeWhile isNumeric) n, (c :: cs).dropWhile isNumeric, split,
      ⟨mem_takeWhile _ _, ?_, read⟩, ⟨ends_dropWhile _ _, ?_⟩, rfl⟩
    · rw [List.takeWhile_cons]
      split
      · simpa using point
      · simp
    · rw [← split]
      exact special

theorem spells_identifier {c : Char} {cs : List Char} {t : Token}
    (passes : number (c :: cs) = .ok none) (claimed : identifier (c :: cs) = .ok (some t)) :
    Spells (c :: cs) (standard.resolve t) := by
  by_cases empty : ((c :: cs).takeWhile isOperator).isEmpty = true
  · simp only [identifier, empty, if_true] at claimed
    split at claimed
    · next start =>
      obtain ⟨-, rfl⟩ := run?_eq_some (Except.ok.inj claimed)
      have split := split_takeWhile isIdentifierChar (c :: cs)
      have inside : isIdentifierChar c = true := by rw [isIdentifierChar, start, Bool.true_or]
      refine ⟨.name ((c :: cs).takeWhile isIdentifierChar), (c :: cs).dropWhile isIdentifierChar,
        split, ⟨⟨c, ?_, start⟩, mem_takeWhile _ _⟩, ⟨ends_dropWhile _ _, ?_⟩, rfl⟩
      · rw [List.takeWhile_cons_of_pos inside]
        rfl
      · rw [← split]
        exact passes
    · cases claimed
  · simp only [identifier, empty] at claimed
    obtain ⟨nonempty, rfl⟩ := run?_eq_some (Except.ok.inj claimed)
    have split := split_takeWhile isOperator (c :: cs)
    refine ⟨.operator ((c :: cs).takeWhile isOperator), (c :: cs).dropWhile isOperator, split,
      ⟨nonempty, mem_takeWhile _ _⟩, ⟨ends_dropWhile _ _, ?_⟩, rfl⟩
    rw [← split]
    exact passes

theorem spells_plain {c : Char} {cs : List Char} {t : Token} (plain : IsPlain c)
    (claimed : standard.recognize (c :: cs) = .ok (some t)) : Spells (c :: cs) t := by
  have point : c ≠ '.' := by
    rintro rfl
    cases plain.mark
  rw [recognize_plain plain] at claimed
  cases numeric : number (c :: cs) with
  | error e => exact absurd numeric (number_ne_error _ e)
  | ok found =>
    rw [numeric] at claimed
    cases found with
    | some n =>
      obtain rfl := Option.some.inj (Except.ok.inj claimed)
      exact spells_number point numeric
    | none =>
      dsimp only at claimed
      split at claimed
      · cases claimed
      · next named =>
        obtain ⟨t, rfl, rfl⟩ := Option.map_eq_some_iff.mp (Except.ok.inj claimed)
        exact spells_identifier numeric named

/-- The standard lexicon claims a token exactly where it is spelled and nothing prolongs it. -/
theorem recognize_eq_some_iff {cs : List Char} {t : Token} :
    standard.recognize cs = .ok (some t) ↔ Spells cs t := by
  constructor
  · intro claimed
    cases cs with
    | nil => cases claimed
    | cons c cs =>
      by_cases mark : isMark c = true
      · obtain ⟨⟨_, kind⟩, entry, same⟩ := List.any_eq_true.mp mark
        obtain rfl : _ = c := by simpa using same
        rw [recognize_mark entry] at claimed
        obtain rfl := Option.some.inj (Except.ok.inj claimed)
        exact ⟨.mark _ kind, cs, rfl, entry, trivial, rfl⟩
      by_cases blank : isDelimiter c = true
      · rw [recognize_delimiter blank] at claimed
        obtain ⟨nonempty, rfl⟩ := run?_eq_some (Except.ok.inj claimed)
        exact ⟨.blank ((c :: cs).takeWhile isDelimiter), (c :: cs).dropWhile isDelimiter,
          split_takeWhile isDelimiter (c :: cs), ⟨nonempty, mem_takeWhile _ (c :: cs)⟩,
          ends_dropWhile _ (c :: cs), rfl⟩
      by_cases quote : isQuote c = true
      · rw [recognize_quote quote, quoted, if_pos rfl] at claimed
        dsimp only at claimed
        split at claimed
        · next closed =>
          obtain rfl := Option.some.inj (Except.ok.inj claimed)
          obtain ⟨rest, split, consumed⟩ := readQuoted_terminated closed
          refine ⟨.quoted c (readQuoted c cs).content, rest, ?_, ⟨quote, ?_⟩, trivial, ?_⟩
          · simpa [Spelling.source] using split
          · exact readQuoted_getLast? closed (isQuote_ne_backslash quote)
          · rw [consumed]
            rfl
        · cases claimed
      · rw [Bool.not_eq_true] at mark blank quote
        exact spells_plain ⟨mark, blank, quote⟩ claimed
  · rintro ⟨x, rest, rfl, sound, stops, rfl⟩
    exact recognize_source sound stops

end Lexicon

/-! ### A token is spelled in one way -/

/-- What a bare identifier stands for as a leaf: a keyword has its value. -/
def Literal.ofWord (word : String) : Literal :=
  if word = "true" then .boolean true
  else if word = "false" then .boolean false
  else if word = "null" then .null
  else if word = "undefined" then .undefined
  else .identifier

namespace Spelling

theorem identifier_eq_ofWord (run : List Char) :
    identifier run =
      ⟨.literal (.ofWord (String.ofList run)), String.ofList run, run.length, 0⟩ := by
  unfold identifier Lexicon.resolve
  rw [show Lexicon.standard.keywords.toList = Lexicon.standardKeywords from
    Lexicon.toList_defaults _]
  simp only [Lexicon.standardKeywords, List.findSome?_cons, List.findSome?_nil, Lexicon.boolean,
    Lexicon.keyword, Token.reclassify, Literal.ofWord]
  by_cases isTrue : String.ofList run = "true"
  · simp [isTrue]
  by_cases isFalse : String.ofList run = "false"
  · simp [isFalse]
  by_cases isNull : String.ofList run = "null"
  · simp [isNull]
  by_cases isUndefined : String.ofList run = "undefined"
  · simp [isUndefined]
  · simp [isTrue, isFalse, isNull, isUndefined]

/-- An identifier may be one of the standard keywords, but it is neither a number nor quoted, and it
does not stand for a value of its own. -/
theorem identifier_eq (run : List Char) :
    ∃ l : Literal, identifier run = ⟨.literal l, String.ofList run, run.length, 0⟩ ∧
      (∀ n, l ≠ .number n) ∧ (∀ s, l ≠ .string s) ∧ ∀ v, l ≠ .keyword v := by
  refine ⟨_, identifier_eq_ofWord run, ?_⟩
  unfold Literal.ofWord
  split_ifs <;> simp

/-- The class of a spelling: number words and numerals are both numbers, operators and names both
identifiers. -/
def rank : Spelling → Nat
  | .mark _ _ => 0
  | .blank _ => 1
  | .quoted _ _ => 2
  | .word _ _ | .numeral _ _ => 3
  | .operator _ | .name _ => 4

/-- The class that the kind of a token belongs to. -/
def rankOf : Token.Kind → Nat
  | .delimiter => 1
  | .literal (.string _) => 2
  | .literal (.number _) => 3
  | .literal _ => 4
  | _ => 0

theorem rankOf_kind {x : Spelling} (sound : x.Sound) : rankOf x.token.kind = x.rank := by
  have identifiers (run : List Char) : rankOf (identifier run).kind = 4 := by
    obtain ⟨l, same, number, string, -⟩ := identifier_eq run
    rw [same]
    cases l with
    | number n => exact absurd rfl (number n)
    | string s => exact absurd rfl (string s)
    | _ => rfl
  cases x with
  | mark c kind =>
    simp only [Sound, marks, List.mem_cons, List.not_mem_nil, or_false] at sound
    rcases sound with ⟨⟨⟩⟩ | ⟨⟨⟩⟩ | ⟨⟨⟩⟩ | ⟨⟨⟩⟩ | ⟨⟨⟩⟩ <;> rfl
  | operator run => exact identifiers run
  | name run => exact identifiers run
  | _ => rfl

/-- No token stands for a value of its own. -/
theorem kind_ne_keyword {x : Spelling} (sound : x.Sound) (v : Value) :
    x.token.kind ≠ .literal (.keyword v) := by
  have identifiers (run : List Char) : (identifier run).kind ≠ .literal (.keyword v) := by
    obtain ⟨l, same, -, -, keyword⟩ := identifier_eq run
    rw [same]
    simp [keyword v]
  cases x with
  | mark c kind =>
    simp only [Sound, marks, List.mem_cons, List.not_mem_nil, or_false] at sound
    rcases sound with ⟨⟨⟩⟩ | ⟨⟨⟩⟩ | ⟨⟨⟩⟩ | ⟨⟨⟩⟩ | ⟨⟨⟩⟩ <;> simp [token]
  | operator run => exact identifiers run
  | name run => exact identifiers run
  | _ => simp [token, Token.exact]

theorem eq_mark_of_isStructural {x : Spelling} (sound : x.Sound)
    (structural : x.token.isStructural = true) : ∃ c kind, x = .mark c kind := by
  have rank := rankOf_kind sound
  have bracket : rankOf x.token.kind = 0 := by
    revert structural
    rw [Token.isStructural]
    cases x.token.kind <;> simp [rankOf]
  rw [bracket] at rank
  cases x with
  | mark c kind => exact ⟨c, kind, rfl⟩
  | _ => simp [Spelling.rank] at rank

theorem eq_blank_of_kind {x : Spelling} (sound : x.Sound) (kind : x.token.kind = .delimiter) :
    ∃ run, x = .blank run := by
  have rank := rankOf_kind sound
  rw [kind] at rank
  cases x with
  | blank run => exact ⟨run, rfl⟩
  | _ => simp [rankOf, Spelling.rank] at rank

/-- The text of a token: its source, but for the quotes inside a quoted text. -/
theorem text_token (x : Spelling) : x.token.text.toList =
    match x with
    | .quoted quote content => quote :: content ++ [quote]
    | _ => x.source := by
  have identifiers (run : List Char) : (identifier run).text.toList = run := by
    obtain ⟨l, same, -⟩ := identifier_eq run
    rw [same, String.toList_ofList]
  cases x with
  | mark c kind => exact String.toList_singleton c
  | word w n => rfl
  | operator run => exact identifiers run
  | name run => exact identifiers run
  | _ => exact String.toList_ofList

theorem length_token (x : Spelling) : x.token.length = x.source.length := by
  have identifiers (run : List Char) : (identifier run).length = run.length := by
    obtain ⟨l, same, -⟩ := identifier_eq run
    rw [same]
  cases x with
  | quoted quote content => simp [token, source]
  | word w n => exact String.length_toList.symm
  | operator run => exact identifiers run
  | name run => exact identifiers run
  | _ => rfl

theorem word_not_numeric {w : String} {n : Number} (entry : (w, n) ∈ specialNumbers) :
    ∃ c ∈ w.toList, isNumeric c = false := by
  simp only [specialNumbers, List.mem_cons, List.not_mem_nil, or_false] at entry
  rcases entry with ⟨⟨⟩⟩ | ⟨⟨⟩⟩ | ⟨⟨⟩⟩ | ⟨⟨⟩⟩
  · exact ⟨'I', by decide, by decide⟩
  · exact ⟨'I', by decide, by decide⟩
  · exact ⟨'N', by decide, by decide⟩
  · exact ⟨'N', by decide, by decide⟩

/-- No two spellings make the same token. -/
theorem token_injective {x y : Spelling} (soundX : x.Sound) (soundY : y.Sound)
    (same : x.token = y.token) : x = y := by
  have ranks : x.rank = y.rank := by rw [← rankOf_kind soundX, ← rankOf_kind soundY, same]
  have texts : x.token.text.toList = y.token.text.toList := by rw [same]
  rw [text_token, text_token] at texts
  cases x <;> cases y <;> try (exfalso; simp [rank] at ranks; done)
  case mark.mark c kind d kind' =>
    have kinds : kind = kind' := congrArg Token.kind same
    have chars : c = d := List.singleton_inj.mp texts
    rw [kinds, chars]
  case blank.blank run run' => exact congrArg blank texts
  case quoted.quoted quote content quote' content' =>
    simp only [List.cons_append, List.cons.injEq] at texts
    obtain ⟨rfl, rest⟩ := texts
    rw [List.append_cancel_right rest]
  case word.word w n w' n' =>
    have numbers : n = n' := by simpa [token, Token.exact] using congrArg Token.kind same
    have words : w = w' := congrArg Token.text same
    rw [numbers, words]
  case word.numeral w n run n' =>
    obtain ⟨c, member, other⟩ := word_not_numeric soundX
    have inside : c ∈ run := (show w.toList = run from texts) ▸ member
    rw [soundY.1 c inside] at other
    cases other
  case numeral.word run n w n' =>
    obtain ⟨c, member, other⟩ := word_not_numeric soundY
    have inside : c ∈ run := (show run = w.toList from texts).symm ▸ member
    rw [soundX.1 c inside] at other
    cases other
  case numeral.numeral run n run' n' =>
    have numbers : n = n' := by simpa [token] using congrArg Token.kind same
    rw [numbers, show run = run' from texts]
  case operator.operator run run' => exact congrArg operator texts
  case operator.name run run' =>
    obtain rfl : run = run' := texts
    obtain ⟨⟨c, first, start⟩, -⟩ := soundY
    have operator := soundX.2 c (List.mem_of_mem_head? first)
    rw [isOperator_of_isIdentifierStart start] at operator
    cases operator
  case name.operator run run' =>
    obtain rfl : run = run' := texts
    obtain ⟨⟨c, first, start⟩, -⟩ := soundX
    have operator := soundY.2 c (List.mem_of_mem_head? first)
    rw [isOperator_of_isIdentifierStart start] at operator
    cases operator
  case name.name run run' => exact congrArg name texts

/-- A token is claimed at its source exactly where nothing prolongs it. -/
theorem recognize_source_iff {x : Spelling} (sound : x.Sound) {rest : List Char} :
    Lexicon.standard.recognize (x.source ++ rest) = .ok (some x.token) ↔ x.Stops rest := by
  constructor
  · intro claimed
    obtain ⟨y, behind, split, soundY, stops, same⟩ := Lexicon.recognize_eq_some_iff.mp claimed
    obtain rfl := token_injective sound soundY same
    rw [List.append_cancel_left split]
    exact stops
  · exact Lexicon.recognize_source sound

end Spelling

end Bracket
