import Bracket.Proofs.Grammar
import Bracket.Proofs.Source

/-!
Places of tokens and trees in a text. What a text means does not depend on where it stands: tokens
are read off without regard to what was before them, and laid out one behind the other; and trees
are built from kinds and texts, and take over the places of their tokens.
-/

namespace Bracket

def Mark.place (f : Nat → Nat) (mark : Mark) : Mark := { mark with offset := f mark.offset }

namespace Token

def place (f : Nat → Nat) (t : Token) : Token := { t with offset := f t.offset }

/-- The token without its place. -/
def unplaced (t : Token) : Token := t.place fun _ => 0

theorem kind_eq {t t' : Token} (same : t'.unplaced = t.unplaced) : t'.kind = t.kind := by
  have kinds := congrArg kind same
  exact kinds

theorem mark_eq {t t' : Token} (same : t'.unplaced = t.unplaced) :
    t'.mark.place (fun _ => 0) = t.mark.place fun _ => 0 :=
  congrArg mark same

end Token

namespace Node

mutual

/-- The same tree with other places. -/
def place (f : Nat → Nat) : Node → Node
  | .leaf mark l => .leaf (mark.place f) l
  | .call mark children => .call (mark.place f) (placeAll f children)
  | .function mark children => .function (mark.place f) (placeAll f children)
  | .member mark target name => .member (mark.place f) (place f target) (name.place f)

def placeAll (f : Nat → Nat) : List Node → List Node
  | [] => []
  | n :: rest => place f n :: placeAll f rest

end

/-- The tree so many characters further on. -/
def shift (distance : Nat) (n : Node) : Node := n.place (· + distance)

/-- The tree without its places. -/
def unplaced (n : Node) : Node := n.place fun _ => 0

theorem placeAll_eq_map (f : Nat → Nat) (nodes : List Node) :
    placeAll f nodes = nodes.map (place f) := by
  induction nodes with
  | nil => rfl
  | cons n rest ih => rw [placeAll, ih, List.map_cons]

mutual

theorem place_place (f g : Nat → Nat) : (n : Node) → (n.place f).place g = n.place (g ∘ f)
  | .leaf mark l => rfl
  | .call mark children => by
    simp only [place]
    rw [placeAll_placeAll f g children]
    rfl
  | .function mark children => by
    simp only [place]
    rw [placeAll_placeAll f g children]
    rfl
  | .member mark target name => by
    simp only [place]
    rw [place_place f g target]
    rfl

theorem placeAll_placeAll (f g : Nat → Nat) :
    (nodes : List Node) → placeAll g (placeAll f nodes) = placeAll (g ∘ f) nodes
  | [] => rfl
  | n :: rest => by
    simp only [placeAll]
    rw [place_place f g n, placeAll_placeAll f g rest]

end

theorem unplaced_place (f : Nat → Nat) (n : Node) : (n.place f).unplaced = n.unplaced :=
  place_place f _ n

mutual

theorem text_place (f : Nat → Nat) : (n : Node) → (n.place f).text = n.text
  | .leaf mark l => rfl
  | .call mark children => by simp only [place, text, textAll_placeAll f children]
  | .function mark children => by simp only [place, text, textAll_placeAll f children]
  | .member mark target name => by
    simp only [place, text, text_place f target]
    rfl

theorem textAll_placeAll (f : Nat → Nat) :
    (nodes : List Node) → textAll (placeAll f nodes) = textAll nodes
  | [] => rfl
  | [n] => text_place f n
  | n :: m :: rest => by
    have later := textAll_placeAll f (m :: rest)
    simp only [placeAll] at later ⊢
    simp only [textAll, text_place f n, later]

end

mutual

theorem height_place (f : Nat → Nat) : (n : Node) → (n.place f).height = n.height
  | .leaf mark l => rfl
  | .call mark children => by simp only [place, height, tallest_placeAll f children]
  | .function mark children => by simp only [place, height, tallest_placeAll f children]
  | .member mark target name => by simp only [place, height, height_place f target]

theorem tallest_placeAll (f : Nat → Nat) :
    (nodes : List Node) → tallest (placeAll f nodes) = tallest nodes
  | [] => rfl
  | n :: rest => by simp only [placeAll, tallest, height_place f n, tallest_placeAll f rest]

end

theorem height_eq_of_unplaced {n n' : Node} (same : n'.unplaced = n.unplaced) :
    n'.height = n.height := by
  rw [← height_place (fun _ => 0) n, ← height_place (fun _ => 0) n']
  exact congrArg height same

/-! ### Trees of tokens in other places -/

namespace Phrase

def place (f : Nat → Nat) : Phrase → Phrase
  | .sequence ns => .sequence (ns.map (Node.place f))
  | .item n => .item (n.place f)

def unplaced (phrase : Phrase) : Phrase := phrase.place fun _ => 0

theorem exists_sequence {phrase : Phrase} {ns : List Node}
    (same : phrase.unplaced = (sequence ns).unplaced) :
    ∃ ns', phrase = .sequence ns' ∧ ns'.map (Node.place fun _ => 0) =
      ns.map (Node.place fun _ => 0) := by
  cases phrase with
  | sequence ns' => exact ⟨ns', rfl, sequence.inj same⟩
  | item n => cases same

theorem exists_item {phrase : Phrase} {n : Node} (same : phrase.unplaced = (item n).unplaced) :
    ∃ n', phrase = .item n' ∧ n'.place (fun _ => 0) = n.place fun _ => 0 := by
  cases phrase with
  | sequence ns => cases same
  | item n' => exact ⟨n', rfl, item.inj same⟩

end Phrase

/-- Tokens in other places are the same phrase in other places. -/
theorem Derives.place (f : Nat → Nat) {ts : List Token} {phrase : Phrase}
    (derives : Derives ts phrase) : Derives (ts.map (Token.place f)) (phrase.place f) := by
  induction derives with
  | empty => exact .empty
  | delimiter _ separates ih =>
    rw [List.map_append]
    exact .delimiter ih separates
  | snoc _ _ ihBefore ihLast =>
    rw [List.map_append, Phrase.place, List.map_append]
    exact .snoc ihBefore ihLast
  | @leaf t l stands => exact .leaf (t := t.place f) stands
  | @call o c _ ns opens _ closes ih =>
    rw [List.map_append, List.map_cons, Phrase.place, Node.place, placeAll_eq_map]
    exact .call (o := o.place f) (c := c.place f) opens ih closes
  | @function o c _ ns opens _ closes ih =>
    rw [List.map_append, List.map_cons, Phrase.place, Node.place, placeAll_eq_map]
    exact .function (o := o.place f) (c := c.place f) opens ih closes
  | @member _ gap p name _ _ blank divides names ih =>
    rw [List.map_append, List.map_append]
    refine @Derives.member _ _ (p.place f) (name.place f) _ ih ?_ divides names
    intro d member
    obtain ⟨d', inside, rfl⟩ := List.mem_map.mp member
    exact blank d' inside

theorem split_bracket {o c : Token} {ts ts' : List Token}
    (same : ts'.map Token.unplaced = (o :: ts ++ [c]).map Token.unplaced) :
    ∃ o' us c', ts' = o' :: us ++ [c'] ∧ o'.unplaced = o.unplaced ∧
      us.map Token.unplaced = ts.map Token.unplaced ∧ c'.unplaced = c.unplaced := by
  rw [List.map_append, List.map_eq_append_iff] at same
  obtain ⟨us, vs, rfl, front, back⟩ := same
  obtain ⟨o', us, rfl, first, inside⟩ := List.map_eq_cons_iff.mp front
  obtain ⟨c', rfl, last⟩ := List.map_eq_singleton_iff.mp back
  exact ⟨o', us, c', rfl, first, inside, last⟩

/-- Tokens that differ in their places alone are the same phrase up to places. -/
theorem Derives.replace {ts ts' : List Token} {phrase : Phrase} (derives : Derives ts phrase)
    (same : ts'.map Token.unplaced = ts.map Token.unplaced) :
    ∃ phrase', Derives ts' phrase' ∧ phrase'.unplaced = phrase.unplaced := by
  induction derives generalizing ts' with
  | empty =>
    obtain rfl : ts' = [] := by simpa using same
    exact ⟨_, .empty, rfl⟩
  | @delimiter ts ns d _ separates ih =>
    rw [List.map_append, List.map_eq_append_iff] at same
    obtain ⟨us, vs, rfl, front, back⟩ := same
    obtain ⟨d', rfl, equal⟩ := List.map_eq_singleton_iff.mp back
    obtain ⟨phrase', before, placed⟩ := ih front
    obtain ⟨ns', rfl, -⟩ := Phrase.exists_sequence placed
    exact ⟨_, .delimiter before ((Token.kind_eq equal).trans separates), placed⟩
  | @snoc ts us ns n _ _ ihBefore ihLast =>
    rw [List.map_append, List.map_eq_append_iff] at same
    obtain ⟨us, vs, rfl, front, back⟩ := same
    obtain ⟨phrase', before, placed⟩ := ihBefore front
    obtain ⟨ns', rfl, equal⟩ := Phrase.exists_sequence placed
    obtain ⟨phrase'', last, placed'⟩ := ihLast back
    obtain ⟨n', rfl, equal'⟩ := Phrase.exists_item placed'
    refine ⟨_, .snoc before last, ?_⟩
    simp only [Phrase.unplaced, Phrase.place, List.map_append, equal, List.map_cons, equal',
      List.map_nil]
  | @leaf t l stands =>
    obtain ⟨t', rfl, equal⟩ := List.map_eq_singleton_iff.mp same
    refine ⟨_, .leaf ((Token.kind_eq equal).trans stands), ?_⟩
    simp only [Phrase.unplaced, Phrase.place, Node.place, Token.mark_eq equal]
  | @call o c ts ns opens _ closes ih =>
    obtain ⟨o', us, c', rfl, first, front, last⟩ := split_bracket same
    obtain ⟨phrase', inside, placed⟩ := ih front
    obtain ⟨ns', rfl, equal⟩ := Phrase.exists_sequence placed
    refine ⟨_, .call ((Token.kind_eq first).trans opens) inside
      ((Token.kind_eq last).trans closes), ?_⟩
    simp only [Phrase.unplaced, Phrase.place, Node.place, placeAll_eq_map, Token.mark_eq first,
      equal]
  | @function o c ts ns opens _ closes ih =>
    obtain ⟨o', us, c', rfl, first, front, last⟩ := split_bracket same
    obtain ⟨phrase', inside, placed⟩ := ih front
    obtain ⟨ns', rfl, equal⟩ := Phrase.exists_sequence placed
    refine ⟨_, .function ((Token.kind_eq first).trans opens) inside
      ((Token.kind_eq last).trans closes), ?_⟩
    simp only [Phrase.unplaced, Phrase.place, Node.place, placeAll_eq_map, Token.mark_eq first,
      equal]
  | @member ts gap p name target _ blank divides names ih =>
    rw [List.map_append, List.map_eq_append_iff] at same
    obtain ⟨us, vs, rfl, front, back⟩ := same
    rw [List.map_append, List.map_eq_append_iff] at front
    obtain ⟨us, gap', rfl, front, middle⟩ := front
    obtain ⟨p', vs, rfl, period, back⟩ := List.map_eq_cons_iff.mp back
    obtain ⟨name', rfl, named⟩ := List.map_eq_singleton_iff.mp back
    obtain ⟨phrase', before, placed⟩ := ih front
    obtain ⟨target', rfl, equal⟩ := Phrase.exists_item placed
    have blank' : ∀ d ∈ gap', d.kind = .delimiter := by
      intro d member
      have inside : d.unplaced ∈ gap.map Token.unplaced := middle ▸ List.mem_map_of_mem member
      obtain ⟨d', old, kept⟩ := List.mem_map.mp inside
      exact (Token.kind_eq kept).symm.trans (blank d' old)
    have names' : name'.isStructural = false := by
      rw [← names, Token.isStructural, Token.isStructural, Token.kind_eq named]
    refine ⟨_, .member before blank' ((Token.kind_eq period).trans divides) names', ?_⟩
    simp only [Phrase.unplaced, Phrase.place, Node.place, Token.mark_eq period,
      Token.mark_eq named, equal]

end Node

/-! ### Tokens without places -/

namespace Token

/-- Puts tokens one behind the other from an offset on. -/
def layOut : Nat → List Token → List Token
  | _, [] => []
  | offset, t :: rest => { t with offset } :: layOut (offset + t.length) rest

theorem layOut_append (offset : Nat) (ts us : List Token) :
    layOut offset (ts ++ us) =
      layOut offset ts ++ layOut (offset + (ts.map length).sum) us := by
  induction ts generalizing offset with
  | nil => simp [layOut]
  | cons t rest ih => simp [layOut, ih, Nat.add_assoc]

/-- Further on, all tokens are laid out as far further on. -/
theorem layOut_shift (offset distance : Nat) (ts : List Token) :
    layOut (offset + distance) ts = (layOut offset ts).map (place (· + distance)) := by
  induction ts generalizing offset with
  | nil => rfl
  | cons t rest ih =>
    have later := ih (offset + t.length)
    rw [Nat.add_right_comm] at later
    rw [layOut, layOut, List.map_cons, later]
    rfl

theorem unplaced_layOut (offset : Nat) (ts : List Token) :
    (layOut offset ts).map unplaced = ts.map unplaced := by
  induction ts generalizing offset with
  | nil => rfl
  | cons t rest ih =>
    rw [layOut, List.map_cons, List.map_cons, ih]
    rfl

end Token

namespace Lexicon

/-- The lexicon reads the tokens off a text, one after the other. -/
inductive Reads (lexicon : Lexicon) : List Char → List Token → Prop
  | nil : Reads lexicon [] []
  | cons {c : Char} {cs : List Char} {t : Token} {ts : List Token}
      (claimed : lexicon.recognize (c :: cs) = .ok (some t)) (nonempty : t.length ≠ 0)
      (rest : Reads lexicon ((c :: cs).drop t.length) ts) : Reads lexicon (c :: cs) (t :: ts)

/-- A scan lays out the tokens that are read off. -/
theorem scan_eq_iff {lexicon : Lexicon} {offset : Nat} {cs : List Char} {tokens : List Token} :
    lexicon.scan offset cs = (tokens, none) ↔
      ∃ ts, lexicon.Reads cs ts ∧ tokens = Token.layOut offset ts := by
  constructor
  · intro scanned
    fun_induction lexicon.scan offset cs generalizing tokens with
    | case1 =>
      obtain rfl : [] = tokens := congrArg Prod.fst scanned
      exact ⟨[], .nil, rfl⟩
    | case2 | case3 | case4 => simp at scanned
    | case5 offset c rest t claimed nonempty tail failure behind ih =>
      obtain ⟨rfl, rfl⟩ : { t with offset } :: tail = tokens ∧ failure = none := by
        simpa using scanned
      obtain ⟨ts, reads, rfl⟩ := ih behind
      exact ⟨t :: ts, .cons claimed nonempty reads, rfl⟩
  · rintro ⟨ts, reads, rfl⟩
    induction reads generalizing offset with
    | nil => rw [scan, Token.layOut]
    | cons claimed nonempty _ ih =>
      rw [scan, claimed]
      simp only [nonempty, if_false, ih, Token.layOut]

theorem tokenize_eq_ok_iff {lexicon : Lexicon} {text : String} {tokens : List Token} :
    lexicon.tokenize text = .ok tokens ↔
      ∃ ts, lexicon.Reads text.toList ts ∧ tokens = Token.layOut 0 ts := by
  rw [← scan_eq_iff, tokenize]
  rcases lexicon.scan 0 text.toList with ⟨found, failure⟩
  cases failure <;> simp

end Lexicon

end Bracket
