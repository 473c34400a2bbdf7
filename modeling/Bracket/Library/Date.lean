import Bracket.Date.Parts
import Bracket.Json.Reader
import Bracket.Json.Text
import Bracket.Routine
import Bracket.Value.Coercion
import Bracket.Value.Json

/-!
Dates, and the exchange of values as JSON.
-/

namespace Bracket.Library

open Routine

/-- The date so many milliseconds after the start of 1970, fractions dropped. -/
def dateOfNumber? (n : Number) : Option Bracket.Date :=
  if n.isFinite then Bracket.Date.ofMillis? n.trunc.toWord else none

/-- The date that a value stands for: its milliseconds or its text. -/
def toDate? : Value → Option Bracket.Date
  | .date d => some d
  | .number n => dateOfNumber? n
  | .string s => Bracket.Date.read? s
  | _ => none

/-- The date of parts, the year first. -/
def dateOfParts? (parts : List Value) : Option Bracket.Date :=
  (Bracket.Date.Parts.ofList (parts.map Value.toNumber)).toDate?

/-- A date, or the complaint that a value is none. -/
def dateOrFail (what : Value) : Option Bracket.Date → Routine Value
  | some d => return .date d
  | none => typeError (.invalidDate what.text)

/-- The present without arguments, the date of a value, or the date of parts. -/
def date (call : Call) : Routine Value := do
  if call.size = 0 then return .date (← now)
  else if call.size = 1 then
    let v ← argument call 0
    dateOrFail v (toDate? v)
  else
    let parts ← arguments call
    dateOrFail (.array 0 parts) (dateOfParts? parts)

def addDays (call : Call) : Routine Value := do
  match ← argument call 0 with
  | .date base =>
    let days ← argument call 1
    let n := days.toNumber
    dateOrFail days (if n.isFinite then base.addDays? n.toWord else none)
  | other => typeError (.unsupported "addDays" other.kind)

def toJson (call : Call) : Routine Value := do
  match (← argument call 0).toJson with
  | some json => return .string json.text
  | none => return .undefined

/-- The value of a JSON text. -/
def parseJson (text : String) : Routine Value :=
  match Json.read text with
  | .error e => .fail e
  | .ok json => do return json.toValue (← reserve json.compounds)

def fromJson (call : Call) : Routine Value := do
  parseJson (← argument call 0).text

end Bracket.Library
