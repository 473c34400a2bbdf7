import Bracket.Table

/-!
Statistics: how often every text was evaluated and how long that took in all.
-/

namespace Bracket

/-- Evaluations of one text, and their time in nanoseconds. -/
structure Usage where
  calls : Nat := 0
  total : Nat := 0
deriving DecidableEq

/-- The time of one evaluation, rounded down. -/
def Usage.average (u : Usage) : Nat := u.total / u.calls

/-- The usage of every text that was evaluated. -/
structure Stats where
  usages : Table Usage := []

namespace Stats

def get? (s : Stats) (text : String) : Option Usage := s.usages.get? text

def size (s : Stats) : Nat := s.usages.length

/-- Adds one evaluation of a text. -/
def record (s : Stats) (text : String) (elapsed : Nat) : Stats :=
  let before := (s.get? text).getD {}
  { usages := s.usages.insert text ⟨before.calls + 1, before.total + elapsed⟩ }

/-- The order of the ranking: more time first, and by text where the times agree. -/
def ranksBefore (a b : String × Usage) : Bool :=
  decide (b.2.total < a.2.total ∨ (a.2.total = b.2.total ∧ a.1 ≤ b.1))

/-- The `n` texts with the most time. -/
def top (s : Stats) (n : Nat) : List (String × Usage) :=
  (s.usages.mergeSort ranksBefore).take n

end Stats

end Bracket
