import Bracket.Token.Basic

/-!
From tokens to trees. One pass keeps the nodes built so far at every open bracket, with their
heights, so that no tree grows taller than allowed.
-/

namespace Bracket

/-- A node and the height of its tree: one for a leaf. -/
structure Node.Tall where
  node : Node
  height : Nat

namespace Node

/-- The nodes of the innermost open bracket, last first, and every open bracket, innermost first,
with the nodes before it. -/
structure Nest where
  nodes : List Tall := []
  openers : List (Token × List Tall) := []

/-- The second token closes the bracket that the first one opens. -/
def closes (opener closer : Token) : Bool :=
  match opener.kind, closer.kind with
  | .openParen, .closeParen => true
  | .openBrace, .closeBrace => true
  | _, _ => false

/-- A bracket or period without its partner. -/
def unmatched (t : Token) : Error := .badNesting t.text t.offset

namespace Nest

/-- Adds a node, if it is not too tall. -/
def push (limit : Nat) (nest : Nest) (n : Tall) : Except Error Nest :=
  if limit < n.height then .error (.tooDeep limit)
  else .ok { nest with nodes := n :: nest.nodes }

/-- The tree of a bracket around nodes, given last first. -/
def bracket (opener : Token) (nodes : List Tall) : Tall :=
  let children := (nodes.map Tall.node).reverse
  let node := match opener.kind with
    | .openParen => Node.call opener.mark children
    | _ => Node.function opener.mark children
  ⟨node, nodes.foldl (fun height n => max height n.height) 0 + 1⟩

/-- Closes the innermost bracket. When the token closes only a bracket further out, the innermost
one is to blame, otherwise the token is. -/
def close (limit : Nat) (nest : Nest) (t : Token) : Except Error Nest :=
  match nest.openers with
  | [] => .error (unmatched t)
  | (opener, before) :: outer =>
    if closes opener t then
      push limit { nodes := before, openers := outer } (bracket opener nest.nodes)
    else if outer.any fun entry => closes entry.1 t then .error (unmatched opener)
    else .error (unmatched t)

/-- Makes the last node the target of a member access. -/
def member (limit : Nat) (nest : Nest) (period name : Token) : Except Error Nest :=
  match nest.nodes with
  | [] => .error (unmatched period)
  | target :: before =>
    if name.isStructural then .error (unmatched name)
    else
      push limit { nest with nodes := before }
        ⟨.member period.mark target.node name.mark, target.height + 1⟩

/-- The outermost bracket that is still open. -/
def unclosed? (nest : Nest) : Option Token := (nest.openers.getLast?).map Prod.fst

end Nest

/-- Takes in the tokens one after the other; a period takes the token behind it as well. -/
def build (limit : Nat) (nest : Nest) : List Token → Except Error Nest
  | [] => .ok nest
  | t :: rest =>
    match t.kind with
    | .delimiter => build limit nest rest
    | .openParen | .openBrace =>
      build limit { nodes := [], openers := (t, nest.nodes) :: nest.openers } rest
    | .closeParen | .closeBrace =>
      match nest.close limit t with
      | .error e => .error e
      | .ok nest => build limit nest rest
    | .period =>
      match rest with
      | [] => .error (unmatched t)
      | name :: rest =>
        match nest.member limit t name with
        | .error e => .error e
        | .ok nest => build limit nest rest
    | .literal l =>
      match nest.push limit ⟨.leaf t.mark l, 1⟩ with
      | .error e => .error e
      | .ok nest => build limit nest rest

/-- The top-level trees of a sequence of tokens, none of them taller than `limit`. -/
def ofTokens (limit : Nat) (tokens : List Token) : Except Error (List Node) :=
  match build limit {} tokens with
  | .error e => .error e
  | .ok nest =>
    match nest.unclosed? with
    | some opener => .error (unmatched opener)
    | none => .ok (nest.nodes.map Tall.node).reverse

end Node

end Bracket
