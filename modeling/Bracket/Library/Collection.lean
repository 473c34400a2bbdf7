import Bracket.Library.Sort
import Bracket.Routine
import Bracket.Value.Entries
import Bracket.Value.Equality

/-!
Arrays and objects.
-/

namespace Bracket.Library

open Routine

def array (call : Call) : Routine Value := do
  newArray (← arguments call)

/-- The entries from a position on, a key and a value each, inserted after those before them. -/
def entriesFrom (call : Call) (position : Nat) (entries : Table Value) :
    (count : Nat) → Routine (Table Value)
  | 0 => .done entries
  | 1 => do
    let _ ← argument call position
    let _ ← argument call (position + 1)
    return entries
  | count + 2 => do
    let key ← argument call position
    let v ← argument call (position + 1)
    entriesFrom call (position + 2) (entries.insert key.text v) count

/-- Keys and values in turn. -/
def object (call : Call) : Routine Value := do
  newObject (← entriesFrom call 0 [] call.size)

/-- Arrays map to arrays, objects map their entries, and anything else to an empty object. -/
def map (call : Call) : Routine Value := do
  let source ← argument call 0
  let f ← argument call 1
  match source with
  | .array _ items => newArray (← items.mapM fun item => invoke f [item])
  | .object _ entries =>
    let mapped ← entries.mapM fun (key, v) => do return (key, ← invoke f [v])
    newObject (Table.ofEntries mapped)
  | _ => newObject []

/-- The comparator puts its first argument behind the second: its answer is a positive number. -/
def comesAfter (f a b : Value) : Routine Bool := do
  let answer ← invoke f [a, b]
  return (0 : Number).lt answer.toNumber

/-- A sorted copy of an array. -/
def sort (call : Call) : Routine Value := do
  let values ← arguments call
  match values with
  | .array _ items :: rest => newArray (← sortBy (comesAfter (rest.headD .undefined)) items)
  | _ => return .undefined

/-- The item passes: the function accepts it, or it is strictly equal to what is no function. -/
def accepts (f item : Value) : Routine Bool :=
  match f with
  | .function .. => do return (← invoke f [item]).truthy
  | other => return item.strictEq other

/-- The items that pass, in order. -/
def filterItems (f : Value) : List Value → Routine (List Value)
  | [] => return []
  | item :: rest => do
    let keep ← accepts f item
    let kept ← filterItems f rest
    return if keep then item :: kept else kept

def filter (call : Call) : Routine Value := do
  let values ← arguments call
  match values with
  | source :: f :: _ =>
    match source with
    | .array _ items => newArray (← filterItems f items)
    | _ => return .undefined
  | _ => newArray values

/-- The first item for which the function answers with something truthy. -/
def firstAccepted (f : Value) : List Value → Routine Value
  | [] => return .undefined
  | item :: rest => do
    if (← invoke f [item]).truthy then return item else firstAccepted f rest

def findOne (call : Call) : Routine Value := do
  let values ← arguments call
  match values with
  | source :: f :: _ =>
    match source with
    | .array _ items => firstAccepted f items
    | _ => return .undefined
  | _ => newArray values

/-- What a fold goes over: the loose arguments when there are several, else the items of an array
or the characters of a text. -/
def foldItems : List Value → Routine (List Value)
  | [] => typeError (.cannotFold .undefined)
  | [.array _ items] => return items
  | [.string s] => return s.toList.map fun c => .string (String.singleton c)
  | [v] => if v.isNullish then typeError (.cannotFold v.kind) else return []
  | values => return values

/-- Items, a seed and a function. -/
def fold (call : Call) : Routine Value := do
  let values ← arguments call
  let backwards := values.reverse
  let f := backwards.headD .undefined
  let seed := (backwards.drop 1).headD .undefined
  let items ← foldItems (backwards.drop 2).reverse
  items.foldlM (fun result item => invoke f [result, item]) seed

def last (call : Call) : Routine Value := do
  match ← argument call 0 with
  | .array _ items => return items.getLast?.getD .undefined
  | _ => return .undefined

/-- A copy of the entries with only the given keys, or without them. -/
def refine (call : Call) : Routine Value := do
  let values ← arguments call
  let (exclude, values) := match values with
    | .bool b :: rest => (b, rest)
    | values => (false, values)
  let source := values.headD .undefined
  let wanted := (values.drop 1).map Value.text
  let kept := source.entryKeys.filter fun key => wanted.contains key != exclude
  newObject (Table.ofEntries (kept.map fun key => (key, source.entry key)))

/-- Whether the comparator accepts every entry of a value beside that of the reference. All are
asked. -/
def agrees (comparator reference source : Value) : List String → Routine Bool
  | [] => return true
  | key :: keys => do
    if reference.isNullish then typeError (.unsupported "compare" reference.kind)
    else
      let answer ← invoke comparator [source.entry key, reference.entry key]
      let rest ← agrees comparator reference source keys
      return answer.truthy && rest

/-- Compares values one after the other. -/
def agreeAll (comparator reference : Value) : List Value → Routine Bool
  | [] => return true
  | source :: sources => do
    let first ← agrees comparator reference source source.entryKeys
    let rest ← agreeAll comparator reference sources
    return first && rest

/-- Values, a reference and a comparator; the last value is compared first. -/
def compare (call : Call) : Routine Value := do
  let values ← arguments call
  let backwards := values.reverse
  let comparator := backwards.headD .undefined
  let reference := (backwards.drop 1).headD .undefined
  return .bool (← agreeAll comparator reference (backwards.drop 2))

/-- The entry of an object, array or date. -/
def getValue (call : Call) : Routine Value := do
  let target ← argument call 0
  let key ← argument call 1
  match target with
  | .object .. | .array .. | .date _ => return (target.property? key.text).getD .undefined
  | _ => return .undefined

end Bracket.Library
