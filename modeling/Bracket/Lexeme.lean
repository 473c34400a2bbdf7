import Bracket.Number.Decimal
import Bracket.Text.Blank

/-!
The spelling of lexemes: the characters that make up each class, and quoted texts.
-/

namespace Bracket.Lexeme

/-- White space and commas only separate. -/
def isDelimiter (c : Char) : Bool := Text.isBlank c || c == ','

/-- The characters of numeral-like runs. -/
def isNumeric (c : Char) : Bool :=
  Decimal.isDigit c || c == '-' || c == '.' || c == 'E' || c == 'e' || c == 'x'

def operators : List Char :=
  ['!', '=', '<', '>', '/', '&', '|', '*', '%', '-', '^', '?', '+', '\\']

def isOperator (c : Char) : Bool := operators.contains c

/-- A letter of the English alphabet. -/
def isLetter (c : Char) : Bool := decide (('a' ≤ c ∧ c ≤ 'z') ∨ ('A' ≤ c ∧ c ≤ 'Z'))

def isIdentifierStart (c : Char) : Bool := isLetter c || c == '_' || c == '$'

def isIdentifierChar (c : Char) : Bool := isIdentifierStart c || Decimal.isDigit c

/-- The numbers that are written as words, the longer ones before those that they end in. -/
def specialNumbers : List (String × Number) :=
  [("-Infinity", .infinity true), ("Infinity", .infinity false), ("-NaN", .nan), ("NaN", .nan)]

/-- A quoted text behind its opening quote: the content with escaped quotes collapsed, the
characters it takes up in the source, and whether a closing quote was found. -/
structure Quoted where
  content : List Char
  consumed : Nat
  terminated : Bool
deriving DecidableEq

/-- Puts a character that takes up `width` characters before a quoted text. -/
def Quoted.cons (c : Char) (width : Nat) (q : Quoted) : Quoted :=
  { q with content := c :: q.content, consumed := q.consumed + width }

/-- Reads up to the closing quote. A backslash before the quote escapes it, and is an ordinary
character anywhere else. -/
def readQuoted (quote : Char) : List Char → Quoted
  | [] => ⟨[], 0, false⟩
  | [c] => if c = quote then ⟨[], 1, true⟩ else ⟨[c], 1, false⟩
  | c :: d :: rest =>
    if c = '\\' ∧ d = quote then (readQuoted quote rest).cons quote 2
    else if c = quote then ⟨[], 1, true⟩
    else (readQuoted quote (d :: rest)).cons c 1

end Bracket.Lexeme
