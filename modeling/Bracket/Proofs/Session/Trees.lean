import Bracket.Proofs.Placement
import Bracket.Proofs.Session.Coherence

/-!
The trees of a text, from its characters on: the tokens that are read off it are laid out one behind
the other, and the grammar derives the trees from them.
-/

namespace Bracket

namespace Session

/-- The trees of a text are those that the grammar derives from the tokens that are read off it, if
none is too tall. -/
theorem treesOf_eq_ok_iff {s : Session} {text : String} {nodes : List Node} :
    s.treesOf text = .ok nodes ↔ ∃ ts, s.lexicon.Reads text.toList ts ∧
      Node.Derives (Token.layOut 0 ts) (.sequence nodes) ∧ Node.Bounded s.limit nodes := by
  constructor
  · intro parsed
    cases tokenized : s.lexicon.tokenize text with
    | error e =>
      rw [treesOf_of_error tokenized] at parsed
      cases parsed
    | ok tokens =>
      rw [treesOf_of_tokens tokenized] at parsed
      obtain ⟨ts, reads, rfl⟩ := Lexicon.tokenize_eq_ok_iff.mp tokenized
      exact ⟨ts, reads, Node.derives_of_ofTokens parsed⟩
  · rintro ⟨ts, reads, derives, fits⟩
    rw [treesOf_of_tokens (Lexicon.tokenize_eq_ok_iff.mpr ⟨ts, reads, rfl⟩)]
    exact derives.ofTokens_eq fits

/-- A session that has seen no text yet works its trees out. -/
theorem tree_of_new {s : Session} (text : String) (w : World) (tokens : s.tokens = [])
    (trees : s.trees = []) : (tree text (s, w)).1 = (s.treesOf text).mapError .error := by
  have unknown : s.tokens.get? text = none := by
    rw [tokens]
    rfl
  have missing : s.trees.get? text = none := by
    rw [trees]
    rfl
  rw [tree_miss w missing, tokenize]
  simp only [unknown]
  cases tokenized : s.lexicon.tokenize text with
  | error e =>
    rw [treesOf_of_error tokenized]
    rfl
  | ok found =>
    rw [treesOf_of_tokens tokenized]
    dsimp only
    cases Node.ofTokens s.limit found <;> rfl

end Session

end Bracket
