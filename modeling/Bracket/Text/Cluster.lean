import Bracket.Text.Cluster.Table
import Bracket.Text.Ranges

/-!
Clusters: what a reader takes for one character, such as a letter with its accents, a syllable or a
flag. They are the extended grapheme clusters of Unicode.
-/

namespace Bracket.Text.Cluster

/-- What a character does to the ends of clusters. -/
inductive Class where
  | carriageReturn
  | lineFeed
  | control
  | mark
  | joiner
  | spacingMark
  | prepended
  | regional
  | pictograph
  | consonant
  | leadingJamo
  | vowelJamo
  | trailingJamo
  /-- A Hangul syllable that a trailing consonant can complete. -/
  | openSyllable
  /-- A Hangul syllable with a trailing consonant. -/
  | closedSyllable
  | other
deriving DecidableEq

/-- The class of a character. -/
def classOf (c : Char) : Class :=
  let n := c.toNat
  if n = 0xd then .carriageReturn
  else if n = 0xa then .lineFeed
  else if 0x20 ≤ n ∧ n < 0x7f then .other
  else if n = 0x200d then .joiner
  else if 0x1f1e6 ≤ n ∧ n ≤ 0x1f1ff then .regional
  else if 0xac00 ≤ n ∧ n ≤ 0xd7a3 then
    if (n - 0xac00) % 28 = 0 then .openSyllable else .closedSyllable
  else if inRanges controls c then .control
  else if inRanges marks c then .mark
  else if inRanges spacingMarks c then .spacingMark
  else if inRanges prepended c then .prepended
  else if inRanges leadingJamo c then .leadingJamo
  else if inRanges vowelJamo c then .vowelJamo
  else if inRanges trailingJamo c then .trailingJamo
  else if inRanges pictographs c then .pictograph
  else if inRanges consonants c then .consonant
  else .other

def isMark (c : Char) : Bool := classOf c == .mark

def isJoiner (c : Char) : Bool := classOf c == .joiner

def isRegional (c : Char) : Bool := classOf c == .regional

def isPictograph (c : Char) : Bool := classOf c == .pictograph

def isConsonant (c : Char) : Bool := classOf c == .consonant

/-- A sign that binds consonants into a conjunct. -/
def isLinker (c : Char) : Bool := inRanges linkers c

/-- The characters that a conjunct may have between its consonants: marks and joiners, but not the
one that keeps letters apart. -/
def isWithinConjunct (c : Char) : Bool := (isMark c || isJoiner c) && c.toNat != 0x200c

/-! ### Rules that look further back

The characters before a place are given nearest first. -/

/-- A pictograph with any marks, and then a joiner. -/
def endsInJoinedPictograph : List Char → Bool
  | [] => false
  | c :: before => isJoiner c && (before.dropWhile isMark).head?.any isPictograph

/-- A consonant and the marks behind it, a linker among them. -/
def endsInLinkedConsonant (before : List Char) : Bool :=
  (before.takeWhile isWithinConjunct).any isLinker &&
    (before.dropWhile isWithinConjunct).head?.any isConsonant

/-- An odd number of regional letters, the last of which waits for its partner. -/
def endsInHalfFlag (before : List Char) : Bool :=
  (before.takeWhile isRegional).length % 2 == 1

/-! ### Clusters -/

/-- A character of the second class stays with one of the first class right before it, whatever
stands before that; none when that has to be looked at. -/
def joinsDirectly (first second : Class) : Option Bool :=
  match first, second with
  | .carriageReturn, .lineFeed => some true
  | .carriageReturn, _ | .lineFeed, _ | .control, _ => some false
  | _, .carriageReturn | _, .lineFeed | _, .control => some false
  | .leadingJamo, .leadingJamo | .leadingJamo, .vowelJamo => some true
  | .leadingJamo, .openSyllable | .leadingJamo, .closedSyllable => some true
  | .openSyllable, .vowelJamo | .openSyllable, .trailingJamo => some true
  | .vowelJamo, .vowelJamo | .vowelJamo, .trailingJamo => some true
  | .closedSyllable, .trailingJamo | .trailingJamo, .trailingJamo => some true
  | _, .mark | _, .joiner | _, .spacingMark => some true
  | .prepended, _ => some true
  | _, _ => none

/-- The character belongs to the same cluster as the one before it. -/
def joins (before : List Char) (c : Char) : Bool :=
  match before with
  | [] => false
  | b :: _ =>
    match joinsDirectly (classOf b) (classOf c) with
    | some answer => answer
    | none =>
      match classOf c with
      | .consonant => endsInLinkedConsonant before
      | .pictograph => endsInJoinedPictograph before
      | .regional => endsInHalfFlag before
      | _ => false

/-- The clusters of a text that stands after `before`, which is given nearest first. The first
of them starts the text even if it would stay with what is before. -/
def clustersAfter (before : List Char) : List Char → List (List Char)
  | [] => []
  | c :: rest =>
    match clustersAfter (c :: before) rest with
    | [] => [[c]]
    | first :: others =>
      if rest.head?.any (joins (c :: before)) then (c :: first) :: others
      else [c] :: first :: others

end Bracket.Text.Cluster

namespace Bracket.Text

/-- The clusters of a text. -/
def clusters (cs : List Char) : List (List Char) := Cluster.clustersAfter [] cs

end Bracket.Text
