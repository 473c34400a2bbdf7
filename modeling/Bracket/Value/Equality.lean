import Bracket.Value.Coercion

/-!
The three equalities of values: identity, equality up to coercions, and equality of contents.
-/

namespace Bracket.Value

/-- The same primitive value, or the very same array, object or function. -/
def strictEq : Value → Value → Bool
  | .undefined, .undefined => true
  | .null, .null => true
  | .bool a, .bool b => a == b
  | .number a, .number b => a.eq b
  | .string a, .string b => a == b
  | .array i _, .array j _ => i == j
  | .object i _, .object j _ => i == j
  | .function i _, .function j _ => i == j
  | .date a, .date b => a == b
  | _, _ => false

/-- Equality of primitive values of different kinds: texts with texts, else as numbers. -/
def primitiveEq : Value → Value → Bool
  | .string a, .string b => a == b
  | a, b => a.toNumber.eq b.toNumber

/-- Equality up to coercions. Undefined and null equal each other alone, values of one kind are
compared strictly, and compound values of different kinds always differ. -/
def looseEq (a b : Value) : Bool :=
  if a.isNullish || b.isNullish then a.isNullish && b.isNullish
  else if a.kind = b.kind then a.strictEq b
  else if a.isPrimitive || b.isPrimitive then
    primitiveEq (a.toPrimitive false) (b.toPrimitive false)
  else false

mutual

/-- Equality of contents: arrays item by item, objects entry by entry in order, functions by
identity. -/
def same : Value → Value → Bool
  | .undefined, .undefined => true
  | .null, .null => true
  | .bool a, .bool b => a == b
  | .number a, .number b => a.eq b
  | .string a, .string b => a == b
  | .array _ xs, .array _ ys => sameItems xs ys
  | .object _ xs, .object _ ys => sameEntries xs ys
  | .function i _, .function j _ => i == j
  | .date a, .date b => a == b
  | _, _ => false

def sameItems : List Value → List Value → Bool
  | [], [] => true
  | x :: xs, y :: ys => same x y && sameItems xs ys
  | _, _ => false

def sameEntries : List (String × Value) → List (String × Value) → Bool
  | [], [] => true
  | (k, x) :: xs, (l, y) :: ys => k == l && same x y && sameEntries xs ys
  | _, _ => false

end

end Bracket.Value
