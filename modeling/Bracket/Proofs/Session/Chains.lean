import Bracket.Proofs.Digits
import Bracket.Proofs.Printing.Legible
import Bracket.Proofs.Progress
import Mathlib.Data.List.Induction

/-!
Chains of members: a name, and names of members behind it with periods between them. A member is
named by a bare identifier or by digits, which number the items of an array. Digits take the period
behind them for their point, so that they can only stand at the end of a chain.
Main statement: a chain nests to the left if and only if all its names but the last are bare
identifiers.
-/

namespace Bracket

namespace Lexeme

/-- A name of letters, digits, `_` and `$` that neither starts with a digit nor with a number
word. -/
def isBare (name : String) : Bool :=
  name.toList.head?.any isIdentifierStart && name.toList.all isIdentifierChar &&
    !"NaN".toList.isPrefixOf name.toList && !"Infinity".toList.isPrefixOf name.toList

/-- A run of digits. -/
def isIndex (name : String) : Bool :=
  !name.toList.isEmpty && name.toList.all Decimal.isDigit

end Lexeme

open Lexeme

namespace Node

/-- Puts a member at the end of a text and around its tree. -/
def extend (built : String × Node) (name : String) : String × Node :=
  (built.1 ++ "." ++ name,
    .member ⟨".", built.1.length⟩ built.2 ⟨name, built.1.length + 1⟩)

/-- The text of a chain and the tree that nests to the left: each member is one of all that is
before it. -/
def chain (a : String) (names : List String) : String × Node :=
  names.foldl extend (a, .leaf ⟨a, 0⟩ (.ofWord a))

theorem chain_concat (a : String) (names : List String) (name : String) :
    chain a (names ++ [name]) = extend (chain a names) name := List.foldl_concat ..

/-- What the names of members add to the text. -/
def suffix (names : List String) : List Char := names.flatMap fun name => '.' :: name.toList

theorem toList_chain (a : String) (names : List String) :
    (chain a names).1.toList = a.toList ++ suffix names := by
  induction names using List.reverseRecOn with
  | nil => simp [chain, suffix]
  | append_singleton names name ih =>
    rw [chain_concat, extend, String.toList_append, String.toList_append, ih]
    simp [suffix]

/-- What stands in the text of a chain from a name on. -/
theorem drop_chain (a : String) (before : List String) (name : String) (after : List String) :
    (chain a (before ++ name :: after)).1.toList.drop ((chain a before).1.length + 1) =
      name.toList ++ suffix after := by
  have split : (chain a (before ++ name :: after)).1.toList =
      ((chain a before).1.toList ++ ['.']) ++ (name.toList ++ suffix after) := by
    simp [toList_chain, suffix]
  rw [split]
  refine List.drop_left' ?_
  rw [List.length_append, String.length_toList, List.length_singleton]

theorem text_chain (a : String) (names : List String) :
    (chain a names).1 = ".".intercalate (a :: names) := by
  induction names using List.reverseRecOn with
  | nil => simp [chain]
  | append_singleton names name ih =>
    rw [chain_concat, extend, ih, ← List.cons_append,
      String.intercalate_append_of_ne_nil (List.cons_ne_nil a names) (List.cons_ne_nil name []),
      String.intercalate_singleton]

theorem height_chain (a : String) (names : List String) :
    (chain a names).2.height = names.length + 1 := by
  induction names using List.reverseRecOn with
  | nil => rfl
  | append_singleton names name ih =>
    rw [chain_concat, extend, height, ih, List.length_append, List.length_singleton]

end Node

/-! ### Names as tokens -/

namespace Lexeme

/-- Digits alone are a numeral. -/
theorem read?_digits {run : List Char} (nonempty : run ≠ [])
    (all : ∀ c ∈ run, Decimal.isDigit c = true) : ∃ n, Number.read? run = some n := by
  cases run with
  | nil => exact absurd rfl nonempty
  | cons c run =>
    have first := all c List.mem_cons_self
    have unsigned : Decimal.takeSign (c :: run) = (false, c :: run) := by
      unfold Decimal.takeSign
      split
      · next same =>
        obtain ⟨rfl, -⟩ := List.cons.inj same
        cases first
      · next same =>
        obtain ⟨rfl, -⟩ := List.cons.inj same
        cases first
      · rfl
    have whole : (c :: run).takeWhile Decimal.isDigit = c :: run :=
      List.takeWhile_eq_self_iff.mpr all
    have behind : (c :: run).dropWhile Decimal.isDigit = [] := List.dropWhile_eq_nil_iff.mpr all
    have found := Digits.valueFrom?_digits all 0
    simp [Number.read?, Decimal.read?, unsigned, List.span_eq_takeWhile_dropWhile, whole, behind,
      Decimal.takeFraction, Decimal.readExponent?, Digits.value?, found]

end Lexeme

namespace Spelling

/-- Number words start with a minus sign or are those that names must not start with. -/
theorem specialNumber?_eq_none {cs : List Char} (minus : cs.head? ≠ some '-')
    (nan : ¬ "NaN".toList <+: cs) (infinity : ¬ "Infinity".toList <+: cs) :
    Lexicon.specialNumber? cs = none := by
  have negative {word : List Char} : ¬ '-' :: word <+: cs := by
    rintro ⟨rest, rfl⟩
    exact minus rfl
  rw [Lexicon.specialNumber?_eq_none_iff]
  intro entry member
  simp only [specialNumbers, List.mem_cons, List.not_mem_nil, or_false] at member
  rcases member with rfl | rfl | rfl | rfl
  · exact negative
  · exact infinity
  · exact negative
  · exact nan

theorem possible_bare {name : String} (bare : isBare name = true) :
    (Spelling.name name.toList).Possible := by
  simp only [isBare, Bool.and_eq_true, Bool.not_eq_true', List.all_eq_true,
    Option.any_eq_true] at bare
  obtain ⟨⟨⟨⟨c, first, start⟩, all⟩, nan⟩, infinity⟩ := bare
  have sound : (Spelling.name name.toList).Sound := ⟨⟨c, first, start⟩, all⟩
  refine ⟨sound, [], ends_nil, Lexicon.number_eq_none_iff.mpr ⟨?_, read?_name sound.1 []⟩⟩
  rw [List.append_nil]
  refine specialNumber?_eq_none ?_ ?_ ?_
  · rw [first]
    rintro ⟨⟩
    cases start
  · rw [← List.isPrefixOf_iff_prefix, nan]
    exact Bool.false_ne_true
  · rw [← List.isPrefixOf_iff_prefix, infinity]
    exact Bool.false_ne_true

theorem possible_index {name : String} (index : isIndex name = true) :
    ∃ n, (numeral name.toList n).Possible := by
  simp only [isIndex, Bool.and_eq_true, Bool.not_eq_true', List.all_eq_true,
    List.isEmpty_eq_false_iff] at index
  obtain ⟨nonempty, all⟩ := index
  obtain ⟨n, read⟩ := read?_digits nonempty all
  have first : ∀ c ∈ name.toList.head?, Decimal.isDigit c = true :=
    fun c head => all c (List.mem_of_mem_head? head)
  have numeric : ∀ c ∈ name.toList, isNumeric c = true := by
    intro c member
    rw [isNumeric, all c member]
    rfl
  refine ⟨n, ⟨numeric, ?_, read⟩, [], ends_nil, ?_⟩
  · intro point
    cases first '.' point
  · rw [List.append_nil]
    refine specialNumber?_eq_none ?_ ?_ ?_
    · intro minus
      cases first '-' minus
    · rintro ⟨rest, split⟩
      cases first 'N' (by rw [← split]; rfl)
    · rintro ⟨rest, split⟩
      cases first 'I' (by rw [← split]; rfl)

/-- The spelling is that of a name of a member. -/
structure Names (x : Spelling) (name : String) : Prop where
  possible : x.Possible
  source : x.source = name.toList
  text : x.token.text = name
  plain : x.token.isStructural = false

theorem names_bare {name : String} (bare : isBare name = true) :
    (Spelling.name name.toList).Names name where
  possible := possible_bare bare
  source := rfl
  text := by
    rw [token, identifier_eq_ofWord]
    exact String.ofList_toList
  plain := by
    rw [token, identifier_eq_ofWord]
    rfl

theorem names_index {name : String} {n : Number} (possible : (numeral name.toList n).Possible) :
    (numeral name.toList n).Names name where
  possible := possible
  source := rfl
  text := String.ofList_toList
  plain := rfl

/-- A bare identifier can stand before a period. -/
theorem stops_bare {name : String} (bare : isBare name = true) (rest : List Char) :
    (Spelling.name name.toList).Stops ('.' :: rest) :=
  (stops_point_iff (possible_bare bare)).mpr ⟨by simp, by simp⟩

/-- What names a member can stand at the end of a text. -/
theorem Names.stops_nil {x : Spelling} {name : String} (names : x.Names name) : x.Stops [] :=
  stops_of_neutral names.possible neutral_nil fun _ => ends_nil

theorem Names.length {x : Spelling} {name : String} (names : x.Names name) :
    x.token.length = name.length := by
  rw [length_token, names.source, String.length_toList]

end Spelling

/-! ### Reading a chain -/

namespace Node

open Spelling

theorem length_dot : dot.token.length = 1 := rfl

theorem suffix_cons (name : String) (names : List String) :
    suffix (name :: names) = '.' :: (name.toList ++ suffix names) := by simp [suffix]

/-- A period and a name behind a tree make a member of it. -/
theorem Derives.extend {ts : List Token} {built : String × Node} {x : Spelling} {name : String}
    (derives : Derives (Token.layOut 0 ts) (.item built.2))
    (written : (ts.map Token.length).sum = built.1.length) (names : x.Names name) :
    Derives (Token.layOut 0 (ts ++ [dot.token, x.token])) (.item (extend built name).2) := by
  have member := @Derives.member _ [] { dot.token with offset := built.1.length }
    { x.token with offset := built.1.length + 1 } built.2 derives (by simp) rfl names.plain
  rw [Token.layOut_append, Nat.zero_add, written]
  simpa [Token.mark, text_dot, length_dot, names.text, Token.layOut, Node.extend] using member

/-- The names of members that are read behind a tree nest around it. -/
theorem exists_reads_suffix {names : List String}
    (each : ∀ name ∈ names, isBare name = true ∨ isIndex name = true)
    (bare : ∀ name ∈ names.dropLast, isBare name = true) {ts : List Token} {built : String × Node}
    (derives : Derives (Token.layOut 0 ts) (.item built.2))
    (written : (ts.map Token.length).sum = built.1.length) :
    ∃ us, Lexicon.standard.Reads (suffix names) us ∧
      Derives (Token.layOut 0 (ts ++ us)) (.item (names.foldl extend built).2) := by
  induction names generalizing ts built with
  | nil => exact ⟨[], .nil, by simpa using derives⟩
  | cons name rest ih =>
    obtain ⟨x, named, stops⟩ : ∃ x : Spelling, x.Names name ∧ x.Stops (suffix rest) := by
      cases rest with
      | nil =>
        obtain bare | index := each name List.mem_cons_self
        · exact ⟨_, names_bare bare, (names_bare bare).stops_nil⟩
        · obtain ⟨n, possible⟩ := possible_index index
          exact ⟨_, names_index possible, (names_index possible).stops_nil⟩
      | cons next rest =>
        -- only the last name may be an index, so that a period follows a bare identifier
        have inner := bare name (by simp)
        rw [suffix_cons]
        exact ⟨_, names_bare inner, stops_bare inner _⟩
    have longer : ((ts ++ [dot.token, x.token]).map Token.length).sum =
        (extend built name).1.length := by
      have period : ".".length = 1 := rfl
      simp [written, named.length, length_dot, Node.extend, period, Nat.add_assoc]
    have bare' : ∀ other ∈ rest.dropLast, isBare other = true := by
      intro other member
      cases rest with
      | nil => cases member
      | cons next rest => exact bare other (List.mem_cons_of_mem name member)
    obtain ⟨us, reads, nested⟩ :=
      ih (fun other member => each other (List.mem_cons_of_mem name member)) bare'
        (derives.extend written named) longer
    refine ⟨dot.token :: x.token :: us, ?_, by simpa using nested⟩
    have later := reads_source named.possible.1 stops reads
    rw [named.source] at later
    rw [suffix_cons]
    exact reads_source sound_dot trivial later

/-- A chain with bare identifiers before its last name is read as one tree that nests to the
left. -/
theorem exists_reads_chain {a : String} {names : List String} (first : isBare a = true)
    (each : ∀ name ∈ names, isBare name = true ∨ isIndex name = true)
    (bare : ∀ name ∈ names.dropLast, isBare name = true) :
    ∃ ts, Lexicon.standard.Reads (chain a names).1.toList ts ∧
      Derives (Token.layOut 0 ts) (.sequence [(chain a names).2]) := by
  have named := names_bare first
  have root : Derives (Token.layOut 0 [(Spelling.name a.toList).token])
      (.item (.leaf ⟨a, 0⟩ (.ofWord a))) := by
    have leaf := Derives.leaf (t := (Spelling.name a.toList).token) (l := .ofWord a) (by
      rw [token, identifier_eq_ofWord, String.ofList_toList])
    simpa [token, identifier_eq_ofWord, Token.layOut, Token.mark] using leaf
  obtain ⟨us, reads, nested⟩ := @exists_reads_suffix _ each bare _
    (a, .leaf ⟨a, 0⟩ (.ofWord a)) root (by simp [named.length])
  have stops : (Spelling.name a.toList).Stops (suffix names) := by
    cases names with
    | nil => exact named.stops_nil
    | cons next rest =>
      rw [suffix_cons]
      exact stops_bare first _
  refine ⟨_, ?_, .snoc .empty nested⟩
  rw [toList_chain]
  exact reads_source named.possible.1 stops reads

/-! ### What is read as a chain -/

/-- The names in the tree of a chain are tokens, each in its place. -/
theorem Derives.exists_token_of_chain {a : String} {names : List String} {ts : List Token}
    (derives : Derives ts (.item (chain a names).2)) {before : List String} {name : String}
    (starts : before ++ [name] <+: names) :
    ∃ t ∈ ts, t.mark = ⟨name, (chain a before).1.length + 1⟩ := by
  induction names using List.reverseRecOn generalizing ts with
  | nil => simp at starts
  | append_singleton names last ih =>
    rw [chain_concat, Node.extend] at derives
    generalize same : Phrase.item _ = phrase at derives
    cases derives with
    | @member ts gap p t target nested blank divides plain =>
      obtain ⟨-, rfl, mark⟩ := Node.member.inj (Phrase.item.inj same)
      obtain whole | inner := List.prefix_concat_iff.mp starts
      · obtain ⟨rfl, equal⟩ := List.append_inj' whole rfl
        obtain rfl := List.singleton_inj.mp equal
        exact ⟨t, by simp, mark.symm⟩
      · obtain ⟨t', member, place⟩ := ih nested inner
        exact ⟨t', by simp [member], place⟩
    | _ => cases same

/-- Digits run on over a period, so that they are not read alone before one. -/
theorem text_ne_of_recognize {name : String} (index : isIndex name = true) {rest : List Char}
    {t : Token} (claimed : Lexicon.standard.recognize (name.toList ++ '.' :: rest) = .ok (some t)) :
    t.text ≠ name := by
  rintro rfl
  obtain ⟨x, behind, split, sound, stops, rfl⟩ := Lexicon.recognize_eq_some_iff.mp claimed
  simp only [isIndex, Bool.and_eq_true, Bool.not_eq_true', List.all_eq_true,
    List.isEmpty_eq_false_iff] at index
  obtain ⟨c, cs, text⟩ := List.exists_cons_of_ne_nil index.1
  obtain ⟨run, n, rfl⟩ := exists_numeral sound text (index.2 c (text ▸ List.mem_cons_self))
  rw [text_token] at split
  obtain rfl := List.append_cancel_left split
  cases ends_cons.mp stops.1

theorem exists_next_of_mem_dropLast {names : List String} {name : String}
    (member : name ∈ names.dropLast) :
    ∃ before next after, names = before ++ name :: next :: after := by
  obtain ⟨before, after, split⟩ := List.mem_iff_append.mp member
  have nonempty : names ≠ [] := by
    rintro rfl
    cases member
  obtain ⟨next, rest, later⟩ :=
    List.exists_cons_of_ne_nil (List.concat_ne_nil (names.getLast nonempty) after)
  refine ⟨before, next, rest, ?_⟩
  rw [← later, ← List.cons_append, ← List.append_assoc, ← split,
    List.dropLast_concat_getLast]

/-- In a text that is read as a chain, only bare identifiers stand before a period. -/
theorem isBare_of_reads {a : String} {names : List String} {ts us : List Token}
    (each : ∀ name ∈ names, isBare name = true ∨ isIndex name = true)
    (reads : Lexicon.standard.Reads (chain a names).1.toList ts) (inside : us ⊆ Token.layOut 0 ts)
    (derives : Derives us (.item (chain a names).2)) :
    ∀ name ∈ names.dropLast, isBare name = true := by
  intro name member
  obtain ⟨before, next, after, rfl⟩ := exists_next_of_mem_dropLast member
  refine (each name (by simp)).resolve_right fun index => ?_
  have starts : before ++ [name] <+: before ++ name :: next :: after := ⟨next :: after, by simp⟩
  obtain ⟨t, read, mark⟩ := derives.exists_token_of_chain starts
  obtain ⟨text, offset⟩ := Mark.mk.inj mark
  obtain ⟨reported, claimed⟩ := reads.recognize_of_mem (inside read)
  rw [offset, drop_chain, suffix_cons] at claimed
  exact text_ne_of_recognize index claimed text

end Node

/-! ### Chains in a session -/

namespace Session

open Node

/-- A chain of members in a standard session, a bare identifier and at most 255 names behind it, is
read as the one tree that nests to the left if and only if every name but the last is a bare
identifier. -/
theorem tree_chain_iff {a : String} {names : List String} (first : isBare a = true)
    (each : ∀ name ∈ names, isBare name = true ∨ isIndex name = true) (few : names.length ≤ 255)
    (w : World) :
    (tree (".".intercalate (a :: names)) (standard, w)).1 = .ok [(chain a names).2] ↔
      ∀ name ∈ names.dropLast, isBare name = true := by
  rw [tree_standard_eq_ok, ← text_chain, treesOf_eq_ok_iff]
  constructor
  · rintro ⟨ts, reads, derives, -⟩
    obtain ⟨us, inside, item⟩ := derives.item_of_mem List.mem_cons_self
    exact isBare_of_reads each reads inside item
  · intro bare
    obtain ⟨ts, reads, derives⟩ := exists_reads_chain first each bare
    refine ⟨ts, reads, derives, bounded_singleton.mpr ?_⟩
    rw [height_chain]
    exact Nat.succ_le_succ few

/-- Keywords, names that look like the ends of numerals and a last name of digits. -/
theorem tree_chain_iff_keywords :
    (tree "null.e5.x.true.$0.12" (standard, { now := ⟨0, 0, 0⟩ })).1 =
      .ok [(chain "null" ["e5", "x", "true", "$0", "12"]).2] := by
  have text : "null.e5.x.true.$0.12" =
      ".".intercalate ["null", "e5", "x", "true", "$0", "12"] := by decide +kernel
  rw [text]
  exact (tree_chain_iff (by decide +kernel) (by decide +kernel) (by decide) _).mpr
    (by decide +kernel)

/-- The heights of the trees of a text. -/
def heights (text : String) : Option (List Nat) :=
  (standard.treesOf text).toOption.map fun nodes => nodes.map Node.height

/-- Not every chain nests to the left: in `a.1.2` there is one member with the name `1.2`, and
`a.0.b` is two trees. -/
theorem tree_chain_digits :
    heights "a.1.2" = some [2] ∧ heights "a.0.b" = some [2, 1] ∧
    ¬ ∀ (a : String) (names : List String) (w : World), isBare a = true →
      (∀ name ∈ names, isBare name = true ∨ isIndex name = true) → 1 ≤ names.length →
      names.length ≤ 255 →
      (tree (".".intercalate (a :: names)) (standard, w)).1 = .ok [(chain a names).2] := by
  have one : heights "a.1.2" = some [2] := by decide +kernel
  have two : heights "a.0.b" = some [2, 1] := by decide +kernel
  refine ⟨one, two, fun all => ?_⟩
  have nested := all "a" ["1", "2"] { now := ⟨0, 0, 0⟩ } (by decide +kernel)
    (by decide +kernel) (by decide) (by decide)
  have text : ".".intercalate ["a", "1", "2"] = "a.1.2" := by decide +kernel
  rw [text, tree_standard_eq_ok] at nested
  rw [heights, nested] at one
  simp [Except.toOption, height_chain] at one

end Session

end Bracket
