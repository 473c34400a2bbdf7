import Bracket.Proofs.Printing.Pieces
import Bracket.Proofs.Session.Trees

/-!
Printed trees that are read back. The text of a tree is made of the texts of its tokens, and not of
how these were written: quotes inside quoted texts lose their backslashes, a period moves close to
what is before it, and blanks that were names of members meet other blanks. Main statement: from the
text of a tree the same tree is read back if and only if nothing of this happens to it.
-/

namespace Bracket

namespace Node

open Spelling (Laid Spread)

mutual

/-- The pieces that the tree is printed in. -/
def pieces : Node → List Piece
  | .leaf mark _ => [.text mark.text]
  | .call _ children => .text "(" :: piecesAll children ++ [.text ")"]
  | .function _ children => .text "\x7b" :: piecesAll children ++ [.text "\x7d"]
  | .member _ target name => pieces target ++ [.access name.text]

def piecesAll : List Node → List Piece
  | [] => []
  | [n] => pieces n
  | n :: m :: rest => pieces n ++ .gap :: piecesAll (m :: rest)

end

/-- The text of the tree can be read back: no quoted text has its own quote inside, and no pieces
run together. -/
def legible (n : Node) : Bool := Lexeme.runsApart (n.pieces.flatMap Piece.texts)

/-! ### The pieces make up the text -/

def shown (ps : List Piece) : List Char := (ps.flatMap Piece.texts).flatMap String.toList

theorem shown_append (ps qs : List Piece) : shown (ps ++ qs) = shown ps ++ shown qs := by
  simp [shown]

mutual

theorem shown_pieces : (n : Node) → shown n.pieces = n.text.toList
  | .leaf mark l => by simp [pieces, text, shown, Piece.texts]
  | .call mark children => by
    rw [pieces, text, shown_append, ← List.singleton_append, shown_append,
      shown_piecesAll children]
    simp [shown, Piece.texts]
  | .function mark children => by
    rw [pieces, text, shown_append, ← List.singleton_append, shown_append,
      shown_piecesAll children]
    simp [shown, Piece.texts]
  | .member mark target name => by
    rw [pieces, text, shown_append, shown_pieces target]
    simp [shown, Piece.texts]

theorem shown_piecesAll : (nodes : List Node) → shown (piecesAll nodes) = (textAll nodes).toList
  | [] => rfl
  | [n] => shown_pieces n
  | n :: m :: rest => by
    rw [piecesAll, textAll, shown_append, ← List.singleton_append, shown_append, shown_pieces n,
      shown_piecesAll (m :: rest)]
    · simp [shown, Piece.texts]
    · simp

end

mutual

theorem pieces_place (f : Nat → Nat) : (n : Node) → (n.place f).pieces = n.pieces
  | .leaf mark l => rfl
  | .call mark children => by simp only [place, pieces, piecesAll_placeAll f children]
  | .function mark children => by simp only [place, pieces, piecesAll_placeAll f children]
  | .member mark target name => by
    simp only [place, pieces, pieces_place f target]
    rfl

theorem piecesAll_placeAll (f : Nat → Nat) :
    (nodes : List Node) → piecesAll (placeAll f nodes) = piecesAll nodes
  | [] => rfl
  | [n] => pieces_place f n
  | n :: m :: rest => by
    have later := piecesAll_placeAll f (m :: rest)
    simp only [placeAll] at later ⊢
    simp only [piecesAll, pieces_place f n, later]

end

theorem pieces_eq_of_unplaced {n n' : Node} (same : n'.unplaced = n.unplaced) :
    n'.pieces = n.pieces := by
  rw [← pieces_place (fun _ => 0) n, ← pieces_place (fun _ => 0) n']
  exact congrArg pieces same

/-- A tree starts with a bracket or a leaf. -/
theorem exists_text (n : Node) : ∃ s rest, n.pieces = .text s :: rest := by
  match n with
  | .leaf mark l => exact ⟨_, _, rfl⟩
  | .call mark children => exact ⟨_, _, rfl⟩
  | .function mark children => exact ⟨_, _, rfl⟩
  | .member mark target name =>
    obtain ⟨s, rest, same⟩ := exists_text target
    rw [pieces, same]
    exact ⟨_, _, rfl⟩

/-- Another tree behind those before it stands apart from them by a blank. -/
theorem piecesAll_concat {nodes : List Node} (nonempty : nodes ≠ []) (n : Node) :
    piecesAll (nodes ++ [n]) = piecesAll nodes ++ .gap :: n.pieces := by
  match nodes with
  | [] => exact absurd rfl nonempty
  | [m] => rfl
  | m :: k :: rest =>
    have later := piecesAll_concat (List.cons_ne_nil k rest) n
    simp only [List.cons_append] at later ⊢
    simp only [piecesAll, later, List.append_assoc, List.cons_append]

def Phrase.pieces : Phrase → List Piece
  | .sequence ns => piecesAll ns
  | .item n => n.pieces

/-! ### Tokens for the pieces -/

theorem char_eq_of_kind {c c' : Char} {kind : Token.Kind} (entry : (c, kind) ∈ Lexeme.marks)
    (entry' : (c', kind) ∈ Lexeme.marks) : c' = c := by
  simp only [Lexeme.marks, List.mem_cons, List.not_mem_nil, or_false] at entry entry'
  rcases entry with ⟨⟨⟩⟩ | ⟨⟨⟩⟩ | ⟨⟨⟩⟩ | ⟨⟨⟩⟩ | ⟨⟨⟩⟩ <;> simpa using entry'

/-- A bracket or period is written in one way. -/
theorem Claimed.mark {ts : List Token} (claimed : Claimed ts) {t : Token} (member : t ∈ ts)
    {c : Char} {kind : Token.Kind} (stands : t.kind = kind) (entry : (c, kind) ∈ Lexeme.marks) :
    t.unplaced = (Spelling.mark c kind).token := by
  obtain ⟨x, possible, same⟩ := claimed t member
  have kinds : x.token.kind = kind := by
    rw [← same]
    exact stands
  have structural : x.token.isStructural = true := by
    rw [Token.isStructural, kinds]
    simp only [Lexeme.marks, List.mem_cons, List.not_mem_nil, or_false] at entry
    rcases entry with ⟨⟨⟩⟩ | ⟨⟨⟩⟩ | ⟨⟨⟩⟩ | ⟨⟨⟩⟩ | ⟨⟨⟩⟩ <;> rfl
  obtain ⟨c', kind', rfl⟩ := Spelling.eq_mark_of_isStructural possible.1 structural
  obtain rfl : kind' = kind := kinds
  rw [same, char_eq_of_kind entry possible.1]

theorem Claimed.text_mark {ts : List Token} (claimed : Claimed ts) {t : Token} (member : t ∈ ts)
    {c : Char} {kind : Token.Kind} (stands : t.kind = kind) (entry : (c, kind) ∈ Lexeme.marks) :
    t.text = String.singleton c :=
  congrArg Token.text (claimed.mark member stands entry)

/-- Tokens of a bracket stand for its pieces if those inside do. -/
theorem spread_bracket {o c : Token} {b e : String} {ts us : List Token} {ps qs : List Piece}
    (opens : o.kind ≠ .delimiter) (closes : c.kind ≠ .delimiter) (first : o.text = b)
    (last : c.text = e)
    (inside : ∀ {us : List Token} {ps : List Piece}, Spread us ps → Spread (ts ++ us) (qs ++ ps))
    (rest : Spread us ps) : Spread (o :: ts ++ [c] ++ us) (.text b :: qs ++ [.text e] ++ ps) := by
  have closed := inside (Spread.text closes last rest)
  simpa using Spread.text opens first closed

/-- Tokens that can be read as a phrase stand for its pieces. -/
theorem Derives.spread {ts : List Token} {phrase : Phrase} (derives : Derives ts phrase)
    (claimed : Claimed ts) {us : List Token} {ps : List Piece} (rest : Spread us ps) :
    Spread (ts ++ us) (phrase.pieces ++ ps) := by
  induction derives generalizing us ps with
  | empty => exact rest
  | delimiter _ separates ih =>
    rw [List.append_assoc]
    exact ih claimed.left (.blank separates rest)
  | @snoc ts us' ns n _ _ ihBefore ihLast =>
    rw [List.append_assoc]
    have last := ihLast claimed.right rest
    by_cases first : ns = []
    · subst first
      exact ihBefore claimed.left last
    · have joined := ihBefore claimed.left (.gap last)
      rw [Phrase.pieces] at joined ⊢
      rw [piecesAll_concat first, List.append_assoc]
      exact joined
  | @leaf t l stands =>
    have kind : t.kind ≠ .delimiter := by simp [stands]
    exact .text kind rfl rest
  | @call o c ts ns opens _ closes ih =>
    have inside : Claimed ts := fun t member => claimed t (by simp [member])
    exact spread_bracket (by simp [opens]) (by simp [closes])
      (claimed.text_mark (c := '(') (by simp) opens (by simp [Lexeme.marks]))
      (claimed.text_mark (c := ')') (by simp) closes (by simp [Lexeme.marks])) (ih inside) rest
  | @function o c ts ns opens _ closes ih =>
    have inside : Claimed ts := fun t member => claimed t (by simp [member])
    exact spread_bracket (by simp [opens]) (by simp [closes])
      (claimed.text_mark (c := '\x7b') (by simp) opens (by simp [Lexeme.marks]))
      (claimed.text_mark (c := '\x7d') (by simp) closes (by simp [Lexeme.marks])) (ih inside) rest
  | @member ts gap p name target _ blank divides names ih =>
    have accessed : Spread (gap ++ p :: name :: us) (.access name.text :: ps) := by
      clear claimed
      induction gap with
      | nil => exact .access divides rfl rest
      | cons d gap inner =>
        exact .blank (blank d List.mem_cons_self)
          (inner fun d' inside => blank d' (List.mem_cons_of_mem d inside))
    have whole := ih claimed.left.left accessed
    simpa [Phrase.pieces, pieces, Token.mark] using whole

/-! ### The printed tokens -/

/-- The tokens that the phrase is printed as: they stand in the arrangement of its pieces, whatever
may follow, and can be read as the phrase again. -/
structure Prints (xs : List Spelling) (phrase : Phrase) : Prop where
  laid : ∀ {ys : List Spelling} {ps : List Piece}, Laid ys ps → Piece.Closing ps →
    Laid (xs ++ ys) (phrase.pieces ++ ps)
  derives : Derives (xs.map Spelling.token) phrase.unplaced

theorem prints_leaf {x : Spelling} {t : Token} {l : Literal} (possible : x.Possible)
    (same : t.unplaced = x.token) (stands : t.kind = .literal l) :
    Prints [x] (.item (.leaf t.mark l)) := by
  have kind : x.token.kind = .literal l := by
    rw [← same]
    exact stands
  constructor
  · intro ys ps laid closing
    have text : x.token.text = t.text := by
      rw [← same]
      rfl
    have whole := Laid.text possible (by simp [kind]) (by simp [kind]) (.inr closing) laid
    rw [text] at whole
    exact whole
  · have leaf := Derives.leaf kind
    rw [← same] at leaf
    rw [List.map_singleton, ← same]
    exact leaf

theorem laid_mark {c : Char} {kind : Token.Kind} (entry : (c, kind) ∈ Lexeme.marks)
    (bracket : kind ≠ .period) {ys : List Spelling} {ps : List Piece} (laid : Laid ys ps) :
    Laid (.mark c kind :: ys) (.text (String.singleton c) :: ps) := by
  have structural : (Spelling.mark c kind).token.isStructural = true ∧ kind ≠ .delimiter := by
    simp only [Lexeme.marks, List.mem_cons, List.not_mem_nil, or_false] at entry
    rcases entry with ⟨⟨⟩⟩ | ⟨⟨⟩⟩ | ⟨⟨⟩⟩ | ⟨⟨⟩⟩ | ⟨⟨⟩⟩ <;> simp [Spelling.token, Token.isStructural]
  exact .text (x := .mark c kind) ⟨entry, [], trivial⟩ structural.2 bracket (.inl structural.1) laid

theorem Prints.call {xs : List Spelling} {ns : List Node} {o : Token}
    (inside : Prints xs (.sequence ns)) (same : o.unplaced = (Spelling.mark '(' .openParen).token) :
    Prints (.mark '(' .openParen :: xs ++ [.mark ')' .closeParen]) (.item (.call o.mark ns)) := by
  have opens : ('(', Token.Kind.openParen) ∈ Lexeme.marks := by simp [Lexeme.marks]
  have closes : (')', Token.Kind.closeParen) ∈ Lexeme.marks := by simp [Lexeme.marks]
  constructor
  · intro ys ps laid _
    have closed := inside.laid (laid_mark closes (by simp) laid) (.inl rfl)
    simpa [Phrase.pieces, pieces] using laid_mark opens (by simp) closed
  · have whole := Derives.call (o := (Spelling.mark '(' .openParen).token)
      (c := (Spelling.mark ')' .closeParen).token) rfl inside.derives rfl
    have mark : o.mark.place (fun _ => 0) = _ := congrArg Token.mark same
    simpa [Phrase.unplaced, Phrase.place, place, placeAll_eq_map, mark] using whole

theorem Prints.function {xs : List Spelling} {ns : List Node} {o : Token}
    (inside : Prints xs (.sequence ns))
    (same : o.unplaced = (Spelling.mark '\x7b' .openBrace).token) :
    Prints (.mark '\x7b' .openBrace :: xs ++ [.mark '\x7d' .closeBrace])
      (.item (.function o.mark ns)) := by
  have opens : ('\x7b', Token.Kind.openBrace) ∈ Lexeme.marks := by simp [Lexeme.marks]
  have closes : ('\x7d', Token.Kind.closeBrace) ∈ Lexeme.marks := by simp [Lexeme.marks]
  constructor
  · intro ys ps laid _
    have closed := inside.laid (laid_mark closes (by simp) laid) (.inr rfl)
    simpa [Phrase.pieces, pieces] using laid_mark opens (by simp) closed
  · have whole := Derives.function (o := (Spelling.mark '\x7b' .openBrace).token)
      (c := (Spelling.mark '\x7d' .closeBrace).token) rfl inside.derives rfl
    have mark : o.mark.place (fun _ => 0) = _ := congrArg Token.mark same
    simpa [Phrase.unplaced, Phrase.place, place, placeAll_eq_map, mark] using whole

theorem Prints.member {xs : List Spelling} {target : Node} {p name : Token} {x : Spelling}
    (before : Prints xs (.item target)) (divides : p.unplaced = Spelling.dot.token)
    (possible : x.Possible) (same : name.unplaced = x.token)
    (names : name.isStructural = false) :
    Prints (xs ++ [Spelling.dot, x]) (.item (.member p.mark target name.mark)) := by
  have names' : x.token.isStructural = false := by
    rw [← same]
    exact names
  have text : x.token.text = name.mark.text := by
    rw [← same]
    rfl
  constructor
  · intro ys ps laid closing
    have whole := before.laid (.access possible names' closing laid) trivial
    simpa [Phrase.pieces, pieces, text] using whole
  · have whole := Derives.member (p := Spelling.dot.token) before.derives
      (List.forall_mem_nil fun d : Token => d.kind = .delimiter) rfl names'
    have mark : p.mark.place (fun _ => 0) = _ := congrArg Token.mark divides
    have mark' : name.mark.place (fun _ => 0) = _ := congrArg Token.mark same
    simpa [Phrase.unplaced, Phrase.place, place, mark, mark'] using whole

/-- Another tree behind printed ones. -/
theorem Prints.snoc {xs ys : List Spelling} {ns : List Node} {n : Node}
    (before : Prints xs (.sequence ns)) (last : Prints ys (.item n)) :
    ∃ zs, Prints zs (.sequence (ns ++ [n])) := by
  by_cases first : ns = []
  · subst first
    exact ⟨ys, last.laid, .snoc .empty last.derives⟩
  · refine ⟨xs ++ Spelling.space :: ys, ?_, ?_⟩
    · intro us ps laid closing
      obtain ⟨s, rest, same⟩ := exists_text n
      have behind := last.laid laid closing
      rw [Phrase.pieces, same] at behind
      have whole := before.laid (.gap behind) trivial
      rw [Phrase.pieces, piecesAll_concat first, same]
      simpa [Phrase.pieces] using whole
    · have separated := before.derives.delimiter (d := Spelling.space.token) rfl
      have whole := separated.snoc last.derives
      simpa [Phrase.unplaced, Phrase.place] using whole

/-- Every phrase of tokens that the standard lexicon may claim can be printed. -/
theorem Derives.prints {ts : List Token} {phrase : Phrase} (derives : Derives ts phrase)
    (claimed : Claimed ts) : ∃ xs, Prints xs phrase := by
  induction derives with
  | empty => exact ⟨[], fun laid _ => laid, .empty⟩
  | delimiter _ _ ih => exact ih claimed.left
  | snoc _ _ ihBefore ihLast =>
    obtain ⟨xs, before⟩ := ihBefore claimed.left
    obtain ⟨ys, last⟩ := ihLast claimed.right
    exact before.snoc last
  | @leaf t l stands =>
    obtain ⟨x, possible, same⟩ := claimed t List.mem_cons_self
    exact ⟨[x], prints_leaf possible same stands⟩
  | @call o c ts ns opens _ closes ih =>
    obtain ⟨xs, inside⟩ := ih fun t member => claimed t (by simp [member])
    have same := claimed.mark (c := '(') (by simp) opens (by simp [Lexeme.marks])
    exact ⟨_, inside.call same⟩
  | @function o c ts ns opens _ closes ih =>
    obtain ⟨xs, inside⟩ := ih fun t member => claimed t (by simp [member])
    have same := claimed.mark (c := '\x7b') (by simp) opens (by simp [Lexeme.marks])
    exact ⟨_, inside.function same⟩
  | @member ts gap p name target _ _ divides names ih =>
    obtain ⟨xs, before⟩ := ih claimed.left.left
    obtain ⟨x, possible, same⟩ := claimed name (by simp)
    have period := claimed.mark (c := '.') (by simp) divides (by simp [Lexeme.marks])
    exact ⟨_, before.member period possible same names⟩

/-! ### The text of a tree -/

/-- Each tree of a sequence is read from some of the tokens. -/
theorem Derives.item_of_mem {ts : List Token} {ns : List Node} {n : Node}
    (derives : Derives ts (.sequence ns)) (member : n ∈ ns) :
    ∃ us ⊆ ts, Derives us (.item n) := by
  generalize same : Phrase.sequence ns = phrase at derives
  induction derives generalizing ns with
  | empty =>
    obtain rfl := Phrase.sequence.inj same
    cases member
  | @delimiter ts _ d _ _ ih =>
    obtain ⟨us, inside, item⟩ := ih member same
    exact ⟨us, List.Subset.trans inside (List.subset_append_left ts [d]), item⟩
  | @snoc ts us _ last _ item ih _ =>
    obtain rfl := Phrase.sequence.inj same
    rcases List.mem_append.mp member with before | final
    · obtain ⟨vs, inside, found⟩ := ih before rfl
      exact ⟨vs, List.Subset.trans inside (List.subset_append_left ts us), found⟩
    · obtain rfl := List.mem_singleton.mp final
      exact ⟨us, List.subset_append_right ts us, item⟩
  | _ => cases same

/-- Where the tokens are laid out does not matter. -/
theorem Derives.replace_single {ts ts' : List Token} {n : Node}
    (derives : Derives ts (.sequence [n])) (same : ts'.map Token.unplaced = ts.map Token.unplaced) :
    ∃ n', Derives ts' (.sequence [n']) ∧ n'.unplaced = n.unplaced := by
  obtain ⟨phrase, derives', placed⟩ := derives.replace same
  obtain ⟨ns, rfl, equal⟩ := Phrase.exists_sequence placed
  obtain ⟨n', rfl, equal'⟩ := List.map_eq_singleton_iff.mp equal
  exact ⟨n', derives', equal'⟩

end Node

namespace Session

open Node Spelling

variable {s : Session} {text : String} {nodes : List Node} {n : Node}

/-- A tree of a text is read back from its own text if and only if it is legible. -/
theorem treesOf_text_iff (lexicon : s.lexicon = .standard) (parsed : s.treesOf text = .ok nodes)
    (member : n ∈ nodes) :
    (∃ n', s.treesOf n.text = .ok [n'] ∧ n'.unplaced = n.unplaced) ↔ n.legible = true := by
  obtain ⟨ts, reads, derives, fits⟩ := treesOf_eq_ok_iff.mp parsed
  rw [lexicon] at reads
  have claimed := (claimed_of_reads reads).layOut 0
  obtain ⟨us, inside, item⟩ := derives.item_of_mem member
  obtain ⟨xs, prints⟩ := item.prints fun t old => claimed t (inside old)
  have laid : Laid xs n.pieces := by simpa [Phrase.pieces] using prints.laid .nil trivial
  have legible : n.legible = Lexeme.runsApart (texts xs) := by rw [Node.legible, laid.texts_eq]
  have shown : chars xs = n.text.toList := by
    rw [chars, laid.texts_eq]
    exact shown_pieces n
  rw [legible, ← laid.reads_iff, shown]
  constructor
  · rintro ⟨n', parsed', same⟩
    -- what was read back stands for the same pieces, so its tokens are the printed ones
    obtain ⟨vs, reads', derives', -⟩ := treesOf_eq_ok_iff.mp parsed'
    rw [lexicon] at reads'
    obtain ⟨n'', derives'', same'⟩ :=
      derives'.replace_single (Token.unplaced_layOut 0 vs).symm
    have spread := derives''.spread (claimed_of_reads reads') .nil
    rw [List.append_nil, List.append_nil, Phrase.pieces, piecesAll,
      pieces_eq_of_unplaced (same'.trans same)] at spread
    rw [← laid.eq_of_reads spread (shown ▸ reads')]
    exact reads'
  · intro printed
    have sequence := Derives.snoc .empty prints.derives
    obtain ⟨n', derives', same⟩ :=
      sequence.replace_single (Token.unplaced_layOut 0 (xs.map token))
    have equal : n'.unplaced = n.unplaced := same.trans (unplaced_place _ n)
    refine ⟨n', treesOf_eq_ok_iff.mpr ⟨_, lexicon ▸ printed, derives', ?_⟩, equal⟩
    rw [bounded_singleton, height_eq_of_unplaced equal]
    exact fits n member

/-- A standard session reads the trees that the standard lexicon and the default limit give. -/
theorem tree_standard_eq_ok (text : String) (w : World) (nodes : List Node) :
    (tree text (standard, w)).1 = .ok nodes ↔ standard.treesOf text = .ok nodes := by
  rw [tree_of_new text w rfl rfl]
  cases standard.treesOf text <;> simp [Except.mapError]

/-- For all texts that a standard session reads: a top-level tree, printed and read again, is the
only tree there and the same but for its places, if and only if it is legible. -/
theorem tree_text_iff_legible (w w' : World) (parsed : (tree text (standard, w)).1 = .ok nodes)
    (member : n ∈ nodes) :
    (∃ n', (tree n.text (standard, w')).1 = .ok [n'] ∧ n'.unplaced = n.unplaced) ↔
      n.legible = true := by
  simp only [tree_standard_eq_ok] at parsed ⊢
  exact treesOf_text_iff rfl parsed member

/-- The texts of the trees of a text, and whether they are legible. -/
def printed (text : String) : Option (List (String × Bool)) :=
  (standard.treesOf text).toOption.map fun nodes => nodes.map fun n => (n.text, n.legible)

theorem exists_of_printed {shown : String} {legible : Bool}
    (found : printed text = some [(shown, legible)]) :
    ∃ n, standard.treesOf text = .ok [n] ∧ n.text = shown ∧ n.legible = legible := by
  unfold printed at found
  cases parsed : standard.treesOf text with
  | error e => simp [parsed, Except.toOption] at found
  | ok nodes =>
    rw [parsed] at found
    obtain ⟨n, rfl, same⟩ := List.map_eq_singleton_iff.mp (Option.some.inj found)
    obtain ⟨text, legible⟩ := Prod.mk.inj same
    exact ⟨n, rfl, text, legible⟩

/-- Quotes of the other kind, a blank as the name of a member and periods behind names are read
back. -/
theorem tree_text_iff_legible_members :
    ∃ n, (tree "(f,  'a\"b' \x7b x x .y .z \x7d -.5 a. )" (standard, { now := ⟨0, 0, 0⟩ })).1 =
        .ok [n] ∧
      n.text = "(f 'a\"b' \x7bx x.y.z\x7d -.5 a. )" ∧
      ∃ n', (tree n.text (standard, { now := ⟨0, 0, 0⟩ })).1 = .ok [n'] ∧
        n'.unplaced = n.unplaced := by
  have found : printed "(f,  'a\"b' \x7b x x .y .z \x7d -.5 a. )" =
      some [("(f 'a\"b' \x7bx x.y.z\x7d -.5 a. )", true)] := by decide +kernel
  obtain ⟨n, parsed, shown, legible⟩ := exists_of_printed found
  have read := (tree_standard_eq_ok _ { now := ⟨0, 0, 0⟩ } _).mpr parsed
  exact ⟨n, read, shown,
    (tree_text_iff_legible _ { now := ⟨0, 0, 0⟩ } read List.mem_cons_self).mpr legible⟩

/-- All trees of the text are read back from their own texts. -/
def IsReadBack (text : String) : Prop :=
  ∀ w w' nodes, (tree text (standard, w)).1 = .ok nodes → ∀ n ∈ nodes,
    ∃ n', (tree n.text (standard, w')).1 = .ok [n'] ∧ n'.unplaced = n.unplaced

/-- A quote inside quotes of its own, a member of a number, a number as a member of a minus sign and
a blank as the name of a member before another tree: these are not read back. -/
theorem tree_text_changes :
    ¬ IsReadBack "'it\\'s'" ∧ ¬ IsReadBack "5 .y" ∧ ¬ IsReadBack "- .5" ∧
      ¬ IsReadBack "(a. b)" := by
  have changes {text shown : String} (found : printed text = some [(shown, false)]) :
      ¬ IsReadBack text := by
    intro all
    obtain ⟨n, parsed, -, illegible⟩ := exists_of_printed found
    have again := all { now := ⟨0, 0, 0⟩ } { now := ⟨0, 0, 0⟩ } [n]
      ((tree_standard_eq_ok text _ [n]).mpr parsed) n List.mem_cons_self
    simp only [tree_standard_eq_ok] at again
    rw [treesOf_text_iff rfl parsed List.mem_cons_self, illegible] at again
    cases again
  have quoted : printed "'it\\'s'" = some [("'it's'", false)] := by decide +kernel
  have numeral : printed "5 .y" = some [("5.y", false)] := by decide +kernel
  have minus : printed "- .5" = some [("-.5", false)] := by decide +kernel
  have blank : printed "(a. b)" = some [("(a.  b)", false)] := by decide +kernel
  exact ⟨changes quoted, changes numeral, changes minus, changes blank⟩

end Session

end Bracket
