import Bracket.Routine
import Bracket.Text.Lowercase
import Bracket.Text.Search
import Bracket.Text.Template
import Bracket.Value.Equality
import Bracket.Value.Slice

/-!
Texts, and what texts and arrays have in common.
-/

namespace Bracket.Library

open Routine

def toText (call : Call) : Routine Value := do
  return .string (← argument call 0).text

def toLowerCase (call : Call) : Routine Value := do
  match ← argument call 0 with
  | .string s => return .string (Text.lowercase s)
  | _ => return .undefined

/-- The character at a position, the first one by default, and no text beyond the end. -/
def charAt (call : Call) : Routine Value := do
  let target ← argument call 0
  let position ← argumentOrUndefined call 1
  match target with
  | .string s =>
    let n := position.toPosition
    let found := if n.lt 0 then none else s.toList[n.toIndex]?
    return .string (String.ofList found.toList)
  | _ => return .undefined

/-- A separator, a comma by default, between texts; undefined and null give no text. -/
def join (call : Call) : Routine Value := do
  let values ← arguments call
  let separator := match values with
    | [] | .undefined :: _ => ","
    | v :: _ => v.text
  return .string (separator.intercalate (Value.itemTexts (values.drop 1)))

/-- The text of the value at a position, unless it is undefined. -/
def placeholderText (values : List Value) (i : Nat) : Option (List Char) :=
  match values[i]? with
  | some v => if v.isUndefined then none else some v.text.toList
  | none => none

/-- A template and the values of its placeholders. -/
def format (call : Call) : Routine Value := do
  let values ← arguments call
  match values with
  | .string template :: rest =>
    return .string (String.ofList (Text.Template.expand (placeholderText rest) template.toList))
  | other :: _ => typeError (.unsupported "format" other.kind)
  | [] => typeError (.unsupported "format" .undefined)

/-- A text in lower case unless case matters; any other value as it is. -/
def foldCase (strict : Bool) : Value → Value
  | .string s => .string (if strict then s else Text.lowercase s)
  | v => v

/-- The item occurs in a text or an array; other values have no items. -/
def hasItem? (target item : Value) : Option Bool :=
  match target with
  | .string s => some (Text.occursIn item.text.toList s.toList)
  | .array _ items => some (items.any fun i => i.strictEq item)
  | _ => none

/-- Every item occurs in the target; the first that does not ends the search. -/
def hasItems (target : Value) : List Value → Routine Value
  | [] => return .bool true
  | item :: rest =>
    match hasItem? target item with
    | none => typeError (.unsupported "contains" target.kind)
    | some false => return .bool false
    | some true => hasItems target rest

/-- An optional flag, a target and items. Case matters only if the flag is true. -/
def contains (call : Call) : Routine Value := do
  let values ← arguments call
  match values with
  | .bool strict :: rest =>
    hasItems (foldCase strict (rest.headD .undefined)) ((rest.drop 1).map (foldCase strict))
  | target :: items =>
    if target.isNullish then return .undefined
    else hasItems (foldCase false target) (items.map (foldCase false))
  | [] => return .undefined

/-- The part of a text or an array between two bounds. -/
def sliceOf (first last target : Value) : Routine Value :=
  match target with
  | .string s => return .string (String.ofList (Value.sliceList first last s.toList))
  | .array _ items => newArray (Value.sliceList first last items)
  | other => typeError (.unsupported "slice" other.kind)

/-- A target behind one bound, two bounds or none. -/
def slice (call : Call) : Routine Value := do
  let a ← argument call 0
  if call.size ≤ 1 then sliceOf .undefined .undefined a
  else
    let b ← argument call 1
    if call.size = 2 then sliceOf a .undefined b
    else
      let c ← argument call 2
      sliceOf a b c

/-- The length of a text or array, the number of parameters of a function, or the entry of an
object of that name. -/
def length (call : Call) : Routine Value := do
  match ← argument call 0 with
  | .string s => return .number (Number.ofNat s.toList.length)
  | .array _ items => return .number (Number.ofNat items.length)
  | .object _ entries => return (Table.get? entries "length").getD .undefined
  | .function _ procedure =>
    match procedure.arity? with
    | some n => return .number (Number.ofNat n)
    | none => return .undefined
  | v => if v.isNullish then typeError (.unsupported "length" v.kind) else return .undefined

/-- Appends the arguments from a position on to a text or an array. -/
def concatFrom (position : Nat) (result : Value) : (count : Nat) → Routine Value
  | 0 => .done result
  | count + 1 =>
    match result with
    | .string s => do
      let v ← .ask (.argument position) .done
      concatFrom (position + 1) (.string (s ++ v.text)) count
    | .array _ items => do
      let v ← .ask (.argument position) .done
      let more := match v with
        | .array _ more => more
        | v => [v]
      concatFrom (position + 1) (← newArray (items ++ more)) count
    | _ => .done .undefined

def concat (call : Call) : Routine Value := do
  let first ← argument call 0
  concatFrom 1 first (call.size - 1)

end Bracket.Library
