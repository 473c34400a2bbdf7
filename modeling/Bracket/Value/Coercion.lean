import Bracket.Value.Text

/-!
How values become numbers and primitive values, and the operators that are defined by it.
-/

namespace Bracket.Value

/-- The number of a value: arrays count by their text, dates by their milliseconds. -/
def toNumber : Value → Number
  | .undefined => .nan
  | .null => 0
  | .bool b => if b then 1 else 0
  | .number n => n
  | .string s => Number.ofText s
  | .array id items => Number.ofText (Value.array id items).text
  | .object .. => .nan
  | .function .. => .nan
  | .date d => Number.ofInt d.toMillis

/-- A primitive value in the place of a compound one: its text, or for dates the milliseconds
when a number is wanted. -/
def toPrimitive (numeric : Bool) (v : Value) : Value :=
  match v with
  | .date d => if numeric then .number (Number.ofInt d.toMillis) else .string d.text
  | v => if v.isPrimitive then v else .string v.text

/-- The order of two texts, by code points. -/
def compareText (s t : String) : Ordering :=
  if s < t then .lt else if s = t then .eq else .gt

/-- The order of two values, none when they have none: texts with texts, else as numbers. -/
def compare (a b : Value) : Option Ordering :=
  match a.toPrimitive true, b.toPrimitive true with
  | .string s, .string t => some (compareText s t)
  | a, b => a.toNumber.compare b.toNumber

/-- The sum of two numbers, or the two texts one after the other when either is a text. -/
def add (a b : Value) : Value :=
  match a.toPrimitive false, b.toPrimitive false with
  | .string s, b => .string (s ++ b.text)
  | a, .string t => .string (a.text ++ t)
  | a, b => .number (a.toNumber + b.toNumber)

end Bracket.Value
