import Bracket.Node.Parser

/-!
The grammar of expressions. A sequence is any mix of delimiters and items; an item is a leaf, a
sequence in brackets, or an item with a member access behind it. Main statement: the trees of a
sequence of tokens are exactly those that the grammar derives, as long as they are not too tall,
and a failure names one of the tokens.
-/

namespace Bracket

namespace Node

mutual

/-- The height of a tree: one for a leaf, and one more than what is below it otherwise. -/
def height : Node → Nat
  | .leaf _ _ => 1
  | .call _ children => tallest children + 1
  | .function _ children => tallest children + 1
  | .member _ target _ => height target + 1

/-- The height of the tallest tree. -/
def tallest : List Node → Nat
  | [] => 0
  | n :: rest => max (height n) (tallest rest)

end

/-- What tokens can be read as. -/
inductive Phrase where
  | sequence (nodes : List Node)
  | item (n : Node)

/-- The tokens can be read as the phrase. -/
inductive Derives : List Token → Phrase → Prop
  | empty : Derives [] (.sequence [])
  | delimiter {ts : List Token} {ns : List Node} {d : Token} (before : Derives ts (.sequence ns))
      (separates : d.kind = .delimiter) : Derives (ts ++ [d]) (.sequence ns)
  | snoc {ts us : List Token} {ns : List Node} {n : Node} (before : Derives ts (.sequence ns))
      (last : Derives us (.item n)) : Derives (ts ++ us) (.sequence (ns ++ [n]))
  | leaf {t : Token} {l : Literal} (stands : t.kind = .literal l) :
      Derives [t] (.item (.leaf t.mark l))
  | call {o c : Token} {ts : List Token} {ns : List Node} (opens : o.kind = .openParen)
      (inside : Derives ts (.sequence ns)) (closes : c.kind = .closeParen) :
      Derives (o :: ts ++ [c]) (.item (.call o.mark ns))
  | function {o c : Token} {ts : List Token} {ns : List Node} (opens : o.kind = .openBrace)
      (inside : Derives ts (.sequence ns)) (closes : c.kind = .closeBrace) :
      Derives (o :: ts ++ [c]) (.item (.function o.mark ns))
  | member {ts gap : List Token} {p name : Token} {target : Node}
      (before : Derives ts (.item target)) (blank : ∀ d ∈ gap, d.kind = .delimiter)
      (divides : p.kind = .period) (names : name.isStructural = false) :
      Derives (ts ++ gap ++ [p, name]) (.item (.member p.mark target name.mark))

namespace Phrase

/-- The trees of a phrase. -/
def nodes : Phrase → List Node
  | .sequence ns => ns
  | .item n => [n]

end Phrase

/-! ### Heights -/

/-- A tree with the height that it has. -/
def tall (n : Node) : Tall := ⟨n, n.height⟩

theorem height_le_tallest {n : Node} {ns : List Node} (member : n ∈ ns) :
    n.height ≤ tallest ns := by
  induction ns with
  | nil => simp at member
  | cons first rest ih =>
    rw [tallest]
    rcases List.mem_cons.mp member with equal | later
    · subst equal
      exact Nat.le_max_left _ _
    · exact Nat.le_trans (ih later) (Nat.le_max_right _ _)

theorem tallest_append (ns ms : List Node) :
    tallest (ns ++ ms) = max (tallest ns) (tallest ms) := by
  induction ns with
  | nil => simp [tallest]
  | cons first rest ih => simp only [List.cons_append, tallest, ih, Nat.max_assoc]

/-- The heights that the parser carries along add up to that of the bracket. -/
theorem foldl_height (ns : List Node) (start : Nat) :
    (ns.reverse.map tall).foldl (fun height n => max height n.height) start =
      max start (tallest ns) := by
  induction ns generalizing start with
  | nil => simp [tallest]
  | cons first rest ih =>
    rw [List.reverse_cons, List.map_append, List.foldl_append, ih]
    simp only [List.map_cons, List.map_nil, List.foldl_cons, List.foldl_nil, tall, tallest]
    omega

theorem map_node_tall (ns : List Node) : (ns.map tall).map Tall.node = ns := by
  induction ns with
  | nil => rfl
  | cons first rest ih => simp only [List.map_cons, ih, tall]

theorem bracket_call {o : Token} (opens : o.kind = .openParen) (ns : List Node) :
    Nest.bracket o (ns.reverse.map tall) = tall (.call o.mark ns) := by
  simp only [Nest.bracket, opens, foldl_height, map_node_tall, List.reverse_reverse, tall, height,
    Nat.zero_max]

theorem bracket_function {o : Token} (opens : o.kind = .openBrace) (ns : List Node) :
    Nest.bracket o (ns.reverse.map tall) = tall (.function o.mark ns) := by
  simp only [Nest.bracket, opens, foldl_height, map_node_tall, List.reverse_reverse, tall, height,
    Nat.zero_max]

/-- No tree is taller than allowed. -/
def Bounded (limit : Nat) (ns : List Node) : Prop := ∀ n ∈ ns, n.height ≤ limit

theorem Bounded.append {limit : Nat} {ns ms : List Node} (left : Bounded limit ns)
    (right : Bounded limit ms) : Bounded limit (ns ++ ms) := by
  intro n member
  rcases List.mem_append.mp member with first | second
  · exact left n first
  · exact right n second

theorem bounded_singleton {limit : Nat} {n : Node} : Bounded limit [n] ↔ n.height ≤ limit := by
  simp [Bounded]

/-- What is inside a tree is less tall than the tree. -/
theorem bounded_of_tallest {limit : Nat} {ns : List Node} (room : tallest ns + 1 ≤ limit) :
    Bounded limit ns := by
  intro n member
  have below := height_le_tallest member
  omega

/-! ### Every derivation is followed -/

/-- Puts trees behind those of the innermost bracket. -/
def Nest.extend (nest : Nest) (ns : List Node) : Nest :=
  { nest with nodes := ns.reverse.map tall ++ nest.nodes }

theorem Nest.extend_extend (nest : Nest) (ns ms : List Node) :
    (nest.extend ns).extend ms = nest.extend (ns ++ ms) := by
  simp [Nest.extend]

theorem push_tall {limit : Nat} {n : Node} (nest : Nest) (fits : n.height ≤ limit) :
    nest.push limit (tall n) = .ok (nest.extend [n]) := by
  have room : ¬ limit < (tall n).height := Nat.not_lt.mpr fits
  simp [Nest.push, room, Nest.extend]

theorem build_delimiters (limit : Nat) (nest : Nest) {gap : List Token}
    (blank : ∀ d ∈ gap, d.kind = .delimiter) (rest : List Token) :
    build limit nest (gap ++ rest) = build limit nest rest := by
  induction gap with
  | nil => rfl
  | cons d gap ih =>
    have separates : d.kind = .delimiter := blank d List.mem_cons_self
    rw [List.cons_append, build.eq_def]
    simp only [separates]
    exact ih fun d' member => blank d' (List.mem_cons_of_mem d member)

/-- A bracket is built from what is inside it. -/
theorem build_bracket {limit : Nat} {nest : Nest} {o c : Token} {ts rest : List Token}
    {ns : List Node} {n : Node} (opens : o.kind = .openParen ∨ o.kind = .openBrace)
    (matching : closes o c = true) (whole : Nest.bracket o (ns.reverse.map tall) = tall n)
    (fits : n.height ≤ limit)
    (inside : build limit ⟨[], (o, nest.nodes) :: nest.openers⟩ (ts ++ c :: rest) =
      build limit (Nest.extend ⟨[], (o, nest.nodes) :: nest.openers⟩ ns) (c :: rest)) :
    build limit nest (o :: ts ++ [c] ++ rest) = build limit (nest.extend [n]) rest := by
  have closed : Nest.close limit (Nest.extend ⟨[], (o, nest.nodes) :: nest.openers⟩ ns) c =
      .ok (nest.extend [n]) := by
    simp only [Nest.close, Nest.extend, matching, if_true, List.append_nil, whole]
    exact push_tall nest fits
  have closing : c.kind = .closeParen ∨ c.kind = .closeBrace := by
    unfold closes at matching
    split at matching <;> simp_all
  calc build limit nest (o :: ts ++ [c] ++ rest)
      = build limit ⟨[], (o, nest.nodes) :: nest.openers⟩ (ts ++ c :: rest) := by
        rw [List.append_assoc, List.cons_append, build.eq_def]
        rcases opens with paren | brace
        · simp [paren]
        · simp [brace]
    _ = build limit (Nest.extend ⟨[], (o, nest.nodes) :: nest.openers⟩ ns) (c :: rest) := inside
    _ = build limit (nest.extend [n]) rest := by
        rw [build.eq_def]
        rcases closing with paren | brace
        · simp [paren, closed]
        · simp [brace, closed]

/-- Tokens that can be read as a phrase add its trees, whatever is open and whatever follows. -/
theorem Derives.build_eq {limit : Nat} {ts : List Token} {phrase : Phrase}
    (derives : Derives ts phrase) (nest : Nest) (rest : List Token)
    (fits : Bounded limit phrase.nodes) :
    build limit nest (ts ++ rest) = build limit (nest.extend phrase.nodes) rest := by
  induction derives generalizing nest rest with
  | empty => simp [Nest.extend, Phrase.nodes]
  | delimiter _ separates ih =>
    rw [List.append_assoc, ih nest _ fits]
    exact build_delimiters limit _ (by simp [separates]) rest
  | @snoc ts us ns n _ _ ihBefore ihLast =>
    have first : Bounded limit ns := fun m member => fits m (List.mem_append_left _ member)
    have second : Bounded limit [n] := fun m member => fits m (List.mem_append_right _ member)
    rw [List.append_assoc, ihBefore nest _ first, ihLast _ rest second, Nest.extend_extend]
    rfl
  | leaf stands =>
    rw [List.singleton_append, build.eq_def]
    have pushed := push_tall nest (bounded_singleton.mp fits)
    rw [tall, height] at pushed
    simp only [stands, pushed, Phrase.nodes]
  | @call o c ts ns opens _ closing ih =>
    have room : tallest ns + 1 ≤ limit := bounded_singleton.mp fits
    have matching : closes o c = true := by simp [closes, opens, closing]
    exact build_bracket (.inl opens) matching (bracket_call opens ns) (bounded_singleton.mp fits)
      (ih _ _ (bounded_of_tallest room))
  | @function o c ts ns opens _ closing ih =>
    have room : tallest ns + 1 ≤ limit := bounded_singleton.mp fits
    have matching : closes o c = true := by simp [closes, opens, closing]
    exact build_bracket (.inr opens) matching (bracket_function opens ns)
      (bounded_singleton.mp fits) (ih _ _ (bounded_of_tallest room))
  | @member ts gap p name target _ blank divides names ih =>
    have whole : (Node.member p.mark target name.mark).height ≤ limit := bounded_singleton.mp fits
    have part : Bounded limit [target] := by
      rw [height] at whole
      exact bounded_singleton.mpr (by omega)
    have joined : (nest.extend [target]).member limit p name =
        .ok (nest.extend [.member p.mark target name.mark]) := by
      rw [← push_tall nest whole]
      simp [Nest.member, names, Nest.extend, tall, height]
    rw [List.append_assoc, List.append_assoc, ih nest _ part, build_delimiters limit _ blank,
      List.cons_append, build.eq_def]
    simp only [divides, List.cons_append, List.nil_append, Phrase.nodes, joined]

/-! ### Every tree is derived -/

/-- The tokens of a sequence end with those of its last tree, and delimiters behind them. -/
theorem Derives.last {ts : List Token} {ns : List Node} {n : Node}
    (derives : Derives ts (.sequence (ns ++ [n]))) :
    ∃ us vs gap, ts = us ++ (vs ++ gap) ∧ Derives us (.sequence ns) ∧ Derives vs (.item n) ∧
      ∀ d ∈ gap, d.kind = .delimiter := by
  generalize same : Phrase.sequence (ns ++ [n]) = phrase at derives
  induction derives with
  | empty => simp at same
  | @delimiter ts _ d _ separates ih =>
    obtain ⟨us, vs, gap, split, before, item, blank⟩ := ih same
    refine ⟨us, vs, gap ++ [d], by simp [split], before, item, ?_⟩
    intro d' member
    rcases List.mem_append.mp member with old | new
    · exact blank d' old
    · rw [List.mem_singleton.mp new]
      exact separates
  | @snoc ts us ms m before last _ _ =>
    obtain ⟨rfl, rfl⟩ : ns = ms ∧ n = m := by simpa using same
    exact ⟨ts, us, [], by simp, before, last, by simp⟩
  | leaf | call | function | member => simp at same

/-- Two sequences behind one another are one. -/
theorem Derives.append {ts us : List Token} {ns ms : List Node}
    (first : Derives ts (.sequence ns)) (second : Derives us (.sequence ms)) :
    Derives (ts ++ us) (.sequence (ns ++ ms)) := by
  generalize same : Phrase.sequence ms = phrase at second
  induction second generalizing ms with
  | empty =>
    obtain rfl := Phrase.sequence.inj same
    simpa using first
  | delimiter _ separates ih =>
    rw [← List.append_assoc]
    exact .delimiter (ih same) separates
  | snoc _ last ih _ =>
    obtain rfl := Phrase.sequence.inj same
    rw [← List.append_assoc, ← List.append_assoc]
    exact .snoc (ih rfl) last
  | _ => cases same

/-- What is built from tokens: behind every open bracket stands a sequence. -/
inductive Nest.Reads (limit : Nat) : Nest → List Token → Prop
  | outermost {ts : List Token} {ns : List Node} (inside : Derives ts (.sequence ns))
      (fits : Bounded limit ns) : Reads limit ⟨ns.reverse.map tall, []⟩ ts
  | inner {before : List Tall} {openers : List (Token × List Tall)} {ts us : List Token}
      {o : Token} {ns : List Node} (outside : Reads limit ⟨before, openers⟩ ts)
      (opens : o.kind = .openParen ∨ o.kind = .openBrace) (inside : Derives us (.sequence ns))
      (fits : Bounded limit ns) :
      Reads limit ⟨ns.reverse.map tall, (o, before) :: openers⟩ (ts ++ o :: us)

/-- The innermost sequence, which any other sequence can take the place of. -/
theorem Nest.Reads.innermost {limit : Nat} {nest : Nest} {ts : List Token}
    (reads : nest.Reads limit ts) :
    ∃ before us ns, ts = before ++ us ∧ nest.nodes = ns.reverse.map tall ∧
      Derives us (.sequence ns) ∧ Bounded limit ns ∧
      ∀ us' ns', Derives us' (.sequence ns') → Bounded limit ns' →
        Reads limit { nest with nodes := ns'.reverse.map tall } (before ++ us') := by
  cases reads with
  | @outermost ts ns inside fits =>
    refine ⟨[], ts, ns, rfl, rfl, inside, fits, ?_⟩
    intro us' ns' inside' fits'
    exact outermost inside' fits'
  | @inner before openers ts us o ns outside opens inside fits =>
    refine ⟨ts ++ [o], us, ns, by simp, rfl, inside, fits, ?_⟩
    intro us' ns' inside' fits'
    rw [List.append_assoc]
    exact inner outside opens inside' fits'

/-- A tree is pushed if and only if it is not too tall. -/
theorem push_eq_ok {limit : Nat} {nest after : Nest} {n : Tall}
    (pushed : nest.push limit n = .ok after) :
    n.height ≤ limit ∧ after = { nest with nodes := n :: nest.nodes } := by
  unfold Nest.push at pushed
  split at pushed
  · cases pushed
  · next room => exact ⟨Nat.not_lt.mp room, (Except.ok.inj pushed).symm⟩

/-- A tree that is pushed behind a sequence extends it. -/
theorem Nest.Reads.push {limit : Nat} {nest after : Nest} {ts us : List Token} {n : Node}
    (reads : nest.Reads limit ts) (item : Derives us (.item n))
    (pushed : nest.push limit (tall n) = .ok after) : after.Reads limit (ts ++ us) := by
  obtain ⟨before, vs, ns, rfl, nodes, inside, fits, replace⟩ := reads.innermost
  obtain ⟨room, rfl⟩ := push_eq_ok pushed
  have extended := replace _ _ (inside.snoc item) (fits.append (bounded_singleton.mpr room))
  rw [List.append_assoc]
  simpa [nodes] using extended

theorem Nest.Reads.delimiter {limit : Nat} {nest : Nest} {ts : List Token} {d : Token}
    (reads : nest.Reads limit ts) (separates : d.kind = .delimiter) :
    nest.Reads limit (ts ++ [d]) := by
  obtain ⟨before, vs, ns, rfl, nodes, inside, fits, replace⟩ := reads.innermost
  have same := replace _ _ (inside.delimiter separates) fits
  rw [List.append_assoc]
  simpa [← nodes] using same

/-- A bracket that matches is a tree of the grammar. -/
theorem Derives.bracket {us : List Token} {ns : List Node} {o c : Token}
    (inside : Derives us (.sequence ns)) (opens : o.kind = .openParen ∨ o.kind = .openBrace)
    (matching : closes o c = true) :
    ∃ n, Nest.bracket o (ns.reverse.map tall) = tall n ∧ Derives (o :: us ++ [c]) (.item n) := by
  unfold closes at matching
  rcases opens with paren | brace
  · have closing : c.kind = .closeParen := by split at matching <;> simp_all
    exact ⟨_, bracket_call paren ns, .call paren inside closing⟩
  · have closing : c.kind = .closeBrace := by split at matching <;> simp_all
    exact ⟨_, bracket_function brace ns, .function brace inside closing⟩

/-- Closing a bracket turns its sequence into a tree. -/
theorem Nest.Reads.close {limit : Nat} {nest after : Nest} {ts : List Token} {c : Token}
    (reads : nest.Reads limit ts) (closed : nest.close limit c = .ok after) :
    after.Reads limit (ts ++ [c]) := by
  cases reads with
  | outermost => simp [Nest.close] at closed
  | @inner before openers ts us o ns outside opens inside fits =>
    simp only [Nest.close] at closed
    split at closed
    · next matching =>
      obtain ⟨n, whole, item⟩ := inside.bracket opens matching
      rw [whole] at closed
      rw [List.append_assoc]
      exact outside.push item closed
    · split at closed <;> cases closed

/-- The last tree of the innermost sequence, and what was read before it. -/
theorem Nest.Reads.pop {limit : Nat} {nest : Nest} {ts : List Token} {target : Tall}
    {below : List Tall} (reads : nest.Reads limit ts) (nodes : nest.nodes = target :: below) :
    ∃ us vs gap n, target = tall n ∧ ts = us ++ (vs ++ gap) ∧ Derives vs (.item n) ∧
      (∀ d ∈ gap, d.kind = .delimiter) ∧ Reads limit { nest with nodes := below } us := by
  obtain ⟨before, us, ns, rfl, reversed, inside, fits, replace⟩ := reads.innermost
  rcases List.eq_nil_or_concat ns with rfl | ⟨ms, n, rfl⟩
  · simp [nodes] at reversed
  · rw [List.concat_eq_append] at reversed inside fits
    obtain ⟨vs, item, gap, rfl, front, derived, blank⟩ := inside.last
    obtain ⟨rfl, rfl⟩ : target = tall n ∧ below = ms.reverse.map tall := by
      simpa [nodes] using reversed
    have shorter : Bounded limit ms := fun m member => fits m (List.mem_append_left _ member)
    exact ⟨before ++ vs, item, gap, n, rfl, by simp, derived, blank, replace vs ms front shorter⟩

/-- A member access takes the last tree of its sequence as its target. -/
theorem Nest.Reads.member {limit : Nat} {nest after : Nest} {ts : List Token} {p name : Token}
    (reads : nest.Reads limit ts) (divides : p.kind = .period)
    (joined : nest.member limit p name = .ok after) : after.Reads limit (ts ++ [p, name]) := by
  unfold Nest.member at joined
  split at joined
  · cases joined
  · next target below nodes =>
    split at joined
    · cases joined
    · next names =>
      obtain ⟨us, vs, gap, n, rfl, rfl, item, blank, before⟩ := reads.pop nodes
      have access := item.member blank divides (by simpa using names)
      have pushed := before.push access joined
      simpa using pushed

/-- What is built from further tokens is read from all tokens so far. -/
theorem Nest.Reads.build {limit : Nat} {nest after : Nest} {ts rest : List Token}
    (reads : nest.Reads limit ts) (built : Node.build limit nest rest = .ok after) :
    after.Reads limit (ts ++ rest) := by
  fun_induction Node.build limit nest rest generalizing ts with
  | case1 nest =>
    rw [← Except.ok.inj built, List.append_nil]
    exact reads
  | case2 nest d rest separates ih =>
    rw [List.append_cons]
    exact ih (reads.delimiter separates) built
  | case3 nest o rest paren ih =>
    exact List.append_cons _ _ _ ▸ ih (.inner reads (.inl paren) .empty (by simp [Bounded])) built
  | case4 nest o rest brace ih =>
    exact List.append_cons _ _ _ ▸ ih (.inner reads (.inr brace) .empty (by simp [Bounded])) built
  | case6 nest c rest _ _ closed ih | case8 nest c rest _ _ closed ih =>
    rw [List.append_cons]
    exact ih (reads.close closed) built
  | case11 nest p divides name rest _ joined ih =>
    rw [List.append_cons, List.append_cons, List.append_assoc ts]
    exact ih (reads.member divides joined) built
  | case13 nest t rest l stands _ pushed ih =>
    rw [List.append_cons]
    exact ih (reads.push (.leaf stands) pushed) built
  | case5 | case7 | case9 | case10 | case12 => cases built

/-! ### Every failure names a token -/

/-- No tree is taller than it has tokens. -/
theorem Derives.tallest_le {ts : List Token} {phrase : Phrase} (derives : Derives ts phrase) :
    tallest phrase.nodes ≤ ts.length := by
  induction derives with
  | empty => simp [Phrase.nodes, tallest]
  | delimiter _ _ ih =>
    rw [List.length_append]
    exact Nat.le_add_right_of_le ih
  | snoc _ _ ihBefore ihLast =>
    simp only [Phrase.nodes, tallest_append, List.length_append] at ihBefore ihLast ⊢
    omega
  | leaf => simp [Phrase.nodes, tallest, height]
  | call _ _ _ ih | function _ _ _ ih =>
    simp only [Phrase.nodes, tallest, height, List.length_append, List.length_cons,
      List.length_nil] at ih ⊢
    omega
  | member _ _ _ _ ih =>
    simp only [Phrase.nodes, tallest, height, List.length_append, List.length_cons,
      List.length_nil] at ih ⊢
    omega

/-- Where the limit is not below the number of tokens, every tree can be pushed. -/
theorem Derives.push_ne_error {limit : Nat} {us : List Token} {n : Node}
    (item : Derives us (.item n)) (room : us.length ≤ limit) (nest : Nest) (e : Error) :
    nest.push limit (tall n) ≠ .error e := by
  have below : tallest [n] ≤ us.length := item.tallest_le
  have fits : n.height ≤ limit := by
    rw [tallest, tallest] at below
    omega
  rw [push_tall nest fits]
  simp

theorem Nest.Reads.opener_mem {limit : Nat} {nest : Nest} {ts : List Token}
    (reads : nest.Reads limit ts) : ∀ entry ∈ nest.openers, entry.1 ∈ ts := by
  induction reads with
  | outermost => simp
  | inner _ _ _ _ ih =>
    intro entry member
    rcases List.mem_cons.mp member with equal | outer
    · simp [equal]
    · exact List.mem_append_left _ (ih entry outer)

theorem Nest.Reads.close_error {limit : Nat} {nest : Nest} {ts : List Token} {c : Token}
    {e : Error} (reads : nest.Reads limit ts) (room : ts.length + 1 ≤ limit)
    (failed : nest.close limit c = .error e) : ∃ t ∈ ts ++ [c], e = unmatched t := by
  cases reads with
  | outermost =>
    rw [Nest.close] at failed
    exact ⟨c, by simp, (Except.error.inj failed).symm⟩
  | @inner before openers ts us o ns outside opens inside fits =>
    simp only [Nest.close] at failed
    split at failed
    · next matching =>
      have bound : (o :: us ++ [c]).length ≤ limit := by
        simp only [List.length_append, List.length_cons, List.length_nil] at room ⊢
        omega
      obtain ⟨n, whole, item⟩ := inside.bracket opens matching
      rw [whole] at failed
      exact absurd failed (item.push_ne_error bound _ e)
    · split at failed
      · exact ⟨o, by simp, (Except.error.inj failed).symm⟩
      · exact ⟨c, by simp, (Except.error.inj failed).symm⟩

theorem Nest.Reads.member_error {limit : Nat} {nest : Nest} {ts : List Token} {p name : Token}
    {e : Error} (reads : nest.Reads limit ts) (divides : p.kind = .period)
    (room : ts.length + 2 ≤ limit) (failed : nest.member limit p name = .error e) :
    ∃ t ∈ ts ++ [p, name], e = unmatched t := by
  unfold Nest.member at failed
  split at failed
  · exact ⟨p, by simp, (Except.error.inj failed).symm⟩
  · next target below nodes =>
    split at failed
    · exact ⟨name, by simp, (Except.error.inj failed).symm⟩
    · next names =>
      obtain ⟨us, vs, gap, n, rfl, rfl, item, blank, before⟩ := reads.pop nodes
      have access := item.member blank divides (by simpa using names)
      have bound : (vs ++ gap ++ [p, name]).length ≤ limit := by
        simp only [List.length_append, List.length_cons, List.length_nil] at room ⊢
        omega
      exact absurd failed (access.push_ne_error bound _ e)

/-- Where the limit is not below the number of tokens, a failure is that of a token. -/
theorem Nest.Reads.build_error {limit : Nat} {nest : Nest} {ts rest : List Token} {e : Error}
    (reads : nest.Reads limit ts) (room : (ts ++ rest).length ≤ limit)
    (failed : Node.build limit nest rest = .error e) : ∃ t ∈ ts ++ rest, e = unmatched t := by
  fun_induction Node.build limit nest rest generalizing ts with
  | case1 => cases failed
  | case2 nest d rest separates ih =>
    rw [List.append_cons] at room ⊢
    exact ih (reads.delimiter separates) room failed
  | case3 nest o rest paren ih =>
    rw [List.append_cons] at room ⊢
    exact ih (.inner reads (.inl paren) .empty (by simp [Bounded])) room failed
  | case4 nest o rest brace ih =>
    rw [List.append_cons] at room ⊢
    exact ih (.inner reads (.inr brace) .empty (by simp [Bounded])) room failed
  | case6 nest c rest _ _ closed ih | case8 nest c rest _ _ closed ih =>
    rw [List.append_cons] at room ⊢
    exact ih (reads.close closed) room failed
  | case11 nest p divides name rest _ joined ih =>
    rw [List.append_cons, List.append_cons, List.append_assoc ts] at room ⊢
    exact ih (reads.member divides joined) room failed
  | case13 nest t rest l stands _ pushed ih =>
    rw [List.append_cons] at room ⊢
    exact ih (reads.push (.leaf stands) pushed) room failed
  | case5 nest c rest _ _ stuck | case7 nest c rest _ _ stuck =>
    have bound : ts.length + 1 ≤ limit := by
      simp only [List.length_append, List.length_cons] at room
      omega
    obtain ⟨t, member, rfl⟩ := reads.close_error bound stuck
    rw [List.append_cons]
    exact ⟨t, List.mem_append_left rest member, (Except.error.inj failed).symm⟩
  | case9 nest p => exact ⟨p, by simp, (Except.error.inj failed).symm⟩
  | case10 nest p divides name rest _ stuck =>
    have bound : ts.length + 2 ≤ limit := by
      simp only [List.length_append, List.length_cons] at room
      omega
    obtain ⟨t, member, rfl⟩ := reads.member_error divides bound stuck
    rw [List.append_cons, List.append_cons, List.append_assoc ts]
    exact ⟨t, List.mem_append_left rest member, (Except.error.inj failed).symm⟩
  | case12 nest t rest l stands _ stuck =>
    have bound : [t].length ≤ limit := by
      simp only [List.length_append, List.length_cons, List.length_nil] at room ⊢
      omega
    exact absurd stuck ((Derives.leaf stands).push_ne_error bound nest _)

/-! ### The trees of tokens -/

theorem reads_start (limit : Nat) : Nest.Reads limit {} [] :=
  .outermost .empty (by simp [Bounded])

theorem Derives.ofTokens_eq {limit : Nat} {tokens : List Token} {nodes : List Node}
    (derives : Derives tokens (.sequence nodes)) (fits : Bounded limit nodes) :
    ofTokens limit tokens = .ok nodes := by
  have built := derives.build_eq {} [] fits
  rw [List.append_nil] at built
  simp only [ofTokens, built, build, Nest.extend, Nest.unclosed?, Phrase.nodes, List.append_nil,
    List.getLast?_nil, Option.map_none, map_node_tall, List.reverse_reverse]

theorem derives_of_ofTokens {limit : Nat} {tokens : List Token} {nodes : List Node}
    (parsed : ofTokens limit tokens = .ok nodes) :
    Derives tokens (.sequence nodes) ∧ Bounded limit nodes := by
  unfold ofTokens at parsed
  split at parsed
  · cases parsed
  · next nest built =>
    split at parsed
    · cases parsed
    · next closed =>
      have reads := (reads_start limit).build built
      rw [List.nil_append] at reads
      cases reads with
      | outermost inside fits =>
        rw [map_node_tall, List.reverse_reverse] at parsed
        rw [← Except.ok.inj parsed]
        exact ⟨inside, fits⟩
      | inner => simp [Nest.unclosed?] at closed

theorem ofTokens_error {limit : Nat} {tokens : List Token} {e : Error}
    (room : tokens.length ≤ limit) (failed : ofTokens limit tokens = .error e) :
    ∃ t ∈ tokens, e = unmatched t := by
  unfold ofTokens at failed
  split at failed
  · next stuck =>
    rw [← Except.error.inj failed]
    exact (reads_start limit).build_error room stuck
  · next nest built =>
    split at failed
    · next opener unclosed =>
      have reads := (reads_start limit).build built
      obtain ⟨entry, last, rfl⟩ := Option.map_eq_some_iff.mp unclosed
      exact ⟨entry.1, reads.opener_mem entry (List.mem_of_getLast? last),
        (Except.error.inj failed).symm⟩
    · cases failed

/-- The parser accepts exactly the grammar: tokens have trees if and only if they derive them and
none of the trees is too tall. Where the limit leaves room for all tokens, a failure is a bracket
or period without its partner, or the token that stands in the place of a name. -/
theorem ofTokens_iff_derives (limit : Nat) (tokens : List Token) :
    (∀ nodes, ofTokens limit tokens = .ok nodes ↔
      Derives tokens (.sequence nodes) ∧ ∀ n ∈ nodes, n.height ≤ limit) ∧
    (tokens.length ≤ limit → ∀ e, ofTokens limit tokens = .error e →
      ∃ t ∈ tokens, e = .badNesting t.text t.offset) := by
  refine ⟨fun nodes => ⟨derives_of_ofTokens, ?_⟩, fun room e failed => ofTokens_error room failed⟩
  rintro ⟨derives, fits⟩
  exact derives.ofTokens_eq fits

end Node

end Bracket
