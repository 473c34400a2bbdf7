import Bracket.Value.Equality

/-!
Tokens: the lexical units of expressions.
-/

namespace Bracket

/-- A bracket, a period, a separator, or a leaf of an expression. -/
inductive Token.Kind where
  | openParen
  | closeParen
  | openBrace
  | closeBrace
  | period
  | delimiter
  | literal (l : Literal)

/-- A lexical unit. `length` counts the characters of the source, which are more than those of
`text` where escaped quotes were collapsed. Lengths and offsets are exact numbers; what becomes of
them in words of 64 bits is up to `Lexicon.scanInWords`. -/
structure Token where
  kind : Token.Kind
  text : String
  length : Nat
  offset : Nat := 0

namespace Token

/-- A token whose source is its text. -/
def exact (kind : Kind) (text : String) : Token := ⟨kind, text, text.length, 0⟩

/-- The same text in the same place, taken for something else. -/
def reclassify (t : Token) (kind : Kind) : Token := { t with kind }

/-- Brackets and periods, which give an expression its shape. -/
def isStructural (t : Token) : Bool :=
  match t.kind with
  | .openParen | .closeParen | .openBrace | .closeBrace | .period => true
  | _ => false

/-- The text and place that a node keeps of its token. -/
def mark (t : Token) : Mark := ⟨t.text, t.offset⟩

end Token

/-- Equality of contents of leaves. -/
def Literal.same : Literal → Literal → Bool
  | .string s, .string t => s == t
  | .number m, .number n => m.eq n
  | .identifier, .identifier => true
  | .boolean a, .boolean b => a == b
  | .null, .null => true
  | .undefined, .undefined => true
  | .keyword v, .keyword w => v.same w
  | _, _ => false

def Token.Kind.same : Kind → Kind → Bool
  | .openParen, .openParen => true
  | .closeParen, .closeParen => true
  | .openBrace, .openBrace => true
  | .closeBrace, .closeBrace => true
  | .period, .period => true
  | .delimiter, .delimiter => true
  | .literal l, .literal m => l.same m
  | _, _ => false

/-- Tokens with the same contents in the same place. A token of NaN differs from itself. -/
def Token.same (t u : Token) : Bool :=
  t.kind.same u.kind && t.text == u.text && t.length == u.length && t.offset == u.offset

end Bracket
