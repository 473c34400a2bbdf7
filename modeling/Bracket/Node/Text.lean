import Bracket.Value.Basic

/-!
The text of a node: source that stands for the same tree, with one blank between neighbours.
-/

namespace Bracket.Node

mutual

def text : Node → String
  | .leaf mark _ => mark.text
  | .call _ children => "(" ++ textAll children ++ ")"
  | .function _ children => "\x7b" ++ textAll children ++ "\x7d"
  | .member _ target name => text target ++ "." ++ name.text

/-- The texts of nodes with blanks between them. -/
def textAll : List Node → String
  | [] => ""
  | [n] => text n
  | n :: rest => text n ++ " " ++ textAll rest

end

end Bracket.Node
