import Bracket.Lexeme
import Bracket.Registry
import Bracket.Token.Basic

/-!
Lexicons: what a session takes for a token. Recognizers stand in three tiers that are tried in
order; a token of the last tier may turn out to be a keyword.
-/

namespace Bracket

/-- Claims a token at the start of a text, passes, or fails. -/
abbrev Recognizer := List Char → Except Error (Option Token)

/-- Takes a token for a keyword, or passes. -/
abbrev KeywordRecognizer := Token → Option Token

structure Lexicon where
  nests : Registry Recognizer
  primitives : Registry Recognizer
  identifiers : Registry Recognizer
  keywords : Registry KeywordRecognizer

namespace Lexicon

/-! ### The standard recognizers -/

/-- One of the given characters. -/
def single (kinds : List (Char × Token.Kind)) : Recognizer
  | [] => .ok none
  | c :: _ =>
    .ok ((kinds.find? fun entry => entry.1 == c).map fun entry =>
      ⟨entry.2, String.singleton c, 1, 0⟩)

def parentheses : Recognizer := single [('(', .openParen), (')', .closeParen)]

def braces : Recognizer := single [('\x7b', .openBrace), ('\x7d', .closeBrace)]

def period : Recognizer := single [('.', .period)]

/-- A token of the given kind for a run of characters, unless the run is empty. -/
def run? (kind : Token.Kind) (cs : List Char) : Option Token :=
  if cs.isEmpty then none else some ⟨kind, String.ofList cs, cs.length, 0⟩

def delimiter : Recognizer := fun cs =>
  .ok (run? .delimiter (cs.takeWhile Lexeme.isDelimiter))

/-- A quoted text; its token has the quotes but not the escapes in its text. -/
def quoted (quote : Char) : Recognizer
  | [] => .ok none
  | c :: cs =>
    if c = quote then
      let found := Lexeme.readQuoted quote cs
      if found.terminated then
        .ok (some ⟨.literal (.string (String.ofList found.content)),
          String.ofList (quote :: found.content ++ [quote]), found.consumed + 1, 0⟩)
      else .error (.unclosedString quote 0)
    else .ok none

/-- The number word that a text starts with. -/
def specialNumber? (cs : List Char) : Option Token :=
  Lexeme.specialNumbers.findSome? fun (word, n) =>
    if word.toList.isPrefixOf cs then some (.exact (.literal (.number n)) word) else none

/-- A number word, or a run of numeral characters that is a numeral as a whole. -/
def number : Recognizer := fun cs =>
  match specialNumber? cs with
  | some t => .ok (some t)
  | none =>
    let run := cs.takeWhile Lexeme.isNumeric
    .ok ((Number.read? run).bind fun n => run? (.literal (.number n)) run)

/-- A run of operator symbols, or a name. -/
def identifier : Recognizer := fun cs =>
  let operator := cs.takeWhile Lexeme.isOperator
  if operator.isEmpty then
    match cs with
    | c :: _ =>
      if Lexeme.isIdentifierStart c then
        .ok (run? (.literal .identifier) (cs.takeWhile Lexeme.isIdentifierChar))
      else .ok none
    | [] => .ok none
  else .ok (run? (.literal .identifier) operator)

/-- The keyword of one exact word. -/
def keyword (word : String) (kind : Token.Kind) : KeywordRecognizer := fun t =>
  if t.text = word then some (t.reclassify kind) else none

def boolean : KeywordRecognizer := fun t =>
  if t.text = "true" then some (t.reclassify (.literal (.boolean true)))
  else if t.text = "false" then some (t.reclassify (.literal (.boolean false)))
  else none

/-! ### Tokens of a text -/

/-- The first token that a recognizer of a tier claims. -/
def firstClaim : List (String × Recognizer) → List Char → Except Error (Option Token)
  | [], _ => .ok none
  | (_, recognizer) :: rest, cs =>
    match recognizer cs with
    | .error e => .error e
    | .ok (some t) => .ok (some t)
    | .ok none => firstClaim rest cs

/-- The keyword that a token turns out to be, or the token itself. -/
def resolve (lexicon : Lexicon) (t : Token) : Token :=
  (lexicon.keywords.toList.findSome? fun entry => entry.2 t).getD t

/-- The token at the start of a text. -/
def recognize (lexicon : Lexicon) (cs : List Char) : Except Error (Option Token) :=
  match firstClaim lexicon.nests.toList cs with
  | .error e => .error e
  | .ok (some t) => .ok (some t)
  | .ok none =>
    match firstClaim lexicon.primitives.toList cs with
    | .error e => .error e
    | .ok (some t) => .ok (some t)
    | .ok none =>
      match firstClaim lexicon.identifiers.toList cs with
      | .error e => .error e
      | .ok t => .ok (t.map lexicon.resolve)

/-- An unclosed text is reported where its token starts. -/
def locate (offset : Nat) : Error → Error
  | .unclosedString quote _ => .unclosedString quote offset
  | e => e

/-- The tokens of a text that starts at an offset, up to the first failure if there is one. Offsets
are exact. -/
def scan (lexicon : Lexicon) (offset : Nat) (cs : List Char) : List Token × Option Error :=
  match cs with
  | [] => ([], none)
  | c :: rest =>
    match lexicon.recognize (c :: rest) with
    | .error e => ([], some (locate offset e))
    | .ok none => ([], some (.unparseableToken offset (String.ofList (c :: rest))))
    | .ok (some t) =>
      if t.length = 0 then ([], some (.unparseableToken offset (String.ofList (c :: rest))))
      else
        let (tokens, failure) := scan lexicon (offset + t.length) ((c :: rest).drop t.length)
        ({ t with offset } :: tokens, failure)
termination_by cs.length
decreasing_by
  simp only [List.length_drop, List.length_cons]
  omega

/-- The tokens of a whole text. -/
def tokenize (lexicon : Lexicon) (text : String) : Except Error (List Token) :=
  match lexicon.scan 0 text.toList with
  | (tokens, none) => .ok tokens
  | (_, some e) => .error e

/-! ### Offsets in words

A machine adds offsets up in words of 64 bits, and a recognizer may claim so many characters that
the sum does not fit. -/

/-- What becomes of a sum that does not fit into a word: it wraps around, or it stops the
program. -/
inductive Overflow where
  | wraps
  | stops
deriving DecidableEq

/-- The sum of an offset and a length as a word; nothing if it stops the program. -/
def Overflow.add (overflow : Overflow) (offset length : Nat) : Option Nat :=
  if offset + length < UInt64.size then some (offset + length)
  else
    match overflow with
    | .wraps => some ((offset + length) % UInt64.size)
    | .stops => none

def standardNests : List (String × Recognizer) :=
  [("parentheses", parentheses), ("function", braces), ("period", period)]

def standardPrimitives : List (String × Recognizer) :=
  [("delimiter", delimiter), ("string", quoted '"'), ("singleQuoteString", quoted '\''),
   ("number", number)]

def standardIdentifiers : List (String × Recognizer) := [("identifier", identifier)]

def standardKeywords : List (String × KeywordRecognizer) :=
  [("boolean", boolean), ("null", keyword "null" (.literal .null)),
   ("undefined", keyword "undefined" (.literal .undefined))]

def standard : Lexicon where
  nests := ⟨standardNests, []⟩
  primitives := ⟨standardPrimitives, []⟩
  identifiers := ⟨standardIdentifiers, []⟩
  keywords := ⟨standardKeywords, []⟩

end Lexicon

end Bracket
