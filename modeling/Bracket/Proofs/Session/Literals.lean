import Bracket.Proofs.Printing.Reading
import Bracket.Proofs.Progress
import Bracket.Proofs.Session.Caches

/-!
The strings that can be written as literals. A backslash stands for itself unless the quote follows,
and cannot be escaped, so that a content that ends in a backslash would take the closing quote with
it. Main statement: a literal is read as one token with its content if and only if the content does
not end in a backslash, and no content of a token ever does.
-/

namespace Bracket

open Lexeme

namespace Lexeme

/-- The literal of a content: the content between quotes, with the quotes inside it escaped. -/
def literal (quote : Char) (content : String) : String :=
  String.ofList (quote :: escape quote content.toList ++ [quote])

end Lexeme

namespace Lexicon

/-- A literal whose content does not end in a backslash is one token. -/
theorem tokenize_literal {quote : Char} (standard : isQuote quote = true) {content : String}
    (last : content.toList.getLast? ≠ some '\\') :
    Lexicon.standard.tokenize (literal quote content) =
      .ok [(Spelling.quoted quote content.toList).token] := by
  have sound : (Spelling.quoted quote content.toList).Sound := ⟨standard, last⟩
  have reads := Spelling.reads_source sound trivial .nil
  rw [List.append_nil] at reads
  apply tokenize_eq_ok_iff.mpr
  rw [literal, String.toList_ofList]
  exact ⟨_, reads, rfl⟩

/-- A literal whose content ends in a backslash is not closed. -/
theorem tokenize_literal_backslash {quote : Char} (standard : isQuote quote = true)
    {content : String} (last : content.toList.getLast? = some '\\') :
    Lexicon.standard.tokenize (literal quote content) = .error (.unclosedString quote 0) := by
  obtain ⟨before, split⟩ := List.getLast?_eq_some_iff.mp last
  have ne := isQuote_ne_backslash standard
  have text : (literal quote content).toList = quote :: (escape quote before ++ ['\\', quote]) := by
    rw [literal, String.toList_ofList, split]
    simp [escape, ne.symm]
  apply tokenize_eq_unclosedString_iff.mpr
  rw [text]
  refine ⟨.start (List.cons_ne_nil _ _), 0, ?_⟩
  rw [List.drop_zero, recognize_quote standard, quoted, if_pos rfl]
  dsimp only
  rw [readQuoted_escape_backslash ne before]
  rfl

/-- The content of a token does not end in a backslash. -/
theorem getLast?_of_mem_tokenize {text : String} {tokens : List Token}
    (tokenized : standard.tokenize text = .ok tokens) {t : Token} (member : t ∈ tokens)
    {content : String} (kind : t.kind = .literal (.string content)) :
    content.toList.getLast? ≠ some '\\' := by
  obtain ⟨ts, reads, rfl⟩ := tokenize_eq_ok_iff.mp tokenized
  obtain ⟨reported, claimed⟩ := reads.recognize_of_mem member
  obtain ⟨x, rest, -, sound, -, same⟩ := recognize_eq_some_iff.mp claimed
  have kind' : x.token.kind = .literal (.string content) := by rw [← same, ← kind]
  have rank := Spelling.rankOf_kind sound
  rw [kind'] at rank
  cases x with
  | quoted quote inner =>
    obtain rfl : String.ofList inner = content := by
      simpa [Spelling.token] using kind'
    rw [String.toList_ofList]
    exact sound.2
  | _ => cases rank

end Lexicon

namespace Session

/-- In a session with the standard lexicon, whatever was done with it before, the literal of a
content is exactly one token, a string of that content as long as the literal, if and only if the
content does not end in a backslash; and no string among the tokens of a text ends in one. -/
theorem tokenize_literal_iff {s : Session} {w : World} (reachable : Reachable (s, w))
    (lexicon : s.lexicon = Lexicon.standard) :
    (∀ quote, quote = '"' ∨ quote = '\'' → ∀ content,
      (∃ t, (tokenize (literal quote content) (s, w)).1 = .ok [t] ∧
        t.kind = .literal (.string content) ∧ t.length = (literal quote content).length) ↔
      content.toList.getLast? ≠ some '\\') ∧
    ∀ text tokens, (tokenize text (s, w)).1 = .ok tokens →
      ∀ t ∈ tokens, ∀ content, t.kind = .literal (.string content) →
        content.toList.getLast? ≠ some '\\' := by
  have same (text : String) :
      (tokenize text (s, w)).1 = (Lexicon.standard.tokenize text).mapError .error := by
    obtain ⟨known, run, -⟩ := reachable.coherent.tokenize_eq text
    rw [run, lexicon]
  refine ⟨?_, ?_⟩
  · intro quote two content
    have standard : isQuote quote = true := by
      rcases two with rfl | rfl <;> rfl
    rw [same]
    by_cases last : content.toList.getLast? = some '\\'
    · rw [Lexicon.tokenize_literal_backslash standard last]
      simp [Except.mapError, last]
    · rw [Lexicon.tokenize_literal standard last]
      refine iff_of_true ⟨_, rfl, ?_, ?_⟩ last
      · rw [Spelling.token, String.ofList_toList]
      · rw [literal, String.length_ofList]
        exact Spelling.length_token (.quoted quote content.toList)
  · intro text tokens tokenized t member content kind
    rw [same] at tokenized
    cases found : Lexicon.standard.tokenize text with
    | error e =>
      rw [found] at tokenized
      cases tokenized
    | ok tokens' =>
      rw [found] at tokenized
      obtain rfl := Except.ok.inj tokenized
      exact Lexicon.getLast?_of_mem_tokenize found member kind

/-- A quote inside a content can be written, a backslash at its end cannot. -/
theorem tokenize_literal_iff_escaped :
    (∃ t, (tokenize "'it\\'s'" (standard, { now := ⟨0, 0, 0⟩ })).1 = .ok [t] ∧
      t.kind = .literal (.string "it's") ∧ t.length = 7) ∧
    ¬ ∃ t, (tokenize "'it\\'" (standard, { now := ⟨0, 0, 0⟩ })).1 = .ok [t] ∧
      t.kind = .literal (.string "it\\") ∧ t.length = 5 := by
  have started : Reachable (standard, { now := ⟨0, 0, 0⟩ }) :=
    .start (closed_empty _) ⟨Lexicon.standard_below, Builtin.library_below⟩
  have both := (tokenize_literal_iff started rfl).1 '\'' (.inr rfl)
  exact ⟨(both "it's").mpr (by decide), fun read => (both "it\\").mp read (by decide)⟩

end Session

end Bracket
