import Bracket.Library.Arithmetic
import Bracket.Library.Collection
import Bracket.Library.Date
import Bracket.Library.Functional
import Bracket.Library.Logic
import Bracket.Library.Text

/-!
What every function of the standard library does when it is called.
-/

namespace Bracket

/-- The routine of a function of the library. -/
def Builtin.routine : Builtin → Call → Routine Value
  | .toString => Library.toText
  | .plus => Library.plus
  | .minus => Library.numeric Number.sub
  | .divide => Library.numeric Number.div
  | .times => Library.numeric Number.mul
  | .isNaN => Library.isNaN
  | .max => Library.extreme Number.max
  | .min => Library.extreme Number.min
  | .greater => Library.relation fun o => o == .gt
  | .less => Library.relation fun o => o == .lt
  | .greaterEqual => Library.relation fun o => o != .lt
  | .lessEqual => Library.relation fun o => o != .gt
  | .double => Library.double
  | .ternary => Library.ternary
  | .not => Library.not
  | .looseEqual => Library.test Value.looseEq
  | .strictEqual => Library.test Value.strictEq
  | .looseUnequal => Library.test fun a b => !a.looseEq b
  | .strictUnequal => Library.test fun a b => !a.strictEq b
  | .or => Library.or
  | .either => Library.either
  | .and => Library.and
  | .object => Library.object
  | .array => Library.array
  | .map => Library.map
  | .sort => Library.sort
  | .filter => Library.filter
  | .findOne => Library.findOne
  | .fold => Library.fold
  | .last => Library.last
  | .concat => Library.concat
  | .join => Library.join
  | .slice => Library.slice
  | .length => Library.length
  | .getValue => Library.getValue
  | .compare => Library.compare
  | .contains => Library.contains
  | .charAt => Library.charAt
  | .toLowerCase => Library.toLowerCase
  | .format => Library.format
  | .refine => Library.refine
  | .date => Library.date
  | .addDays => Library.addDays
  | .toJson => Library.toJson
  | .fromJson => Library.fromJson
  | .bind => Library.bind
  | .flip => Library.flip
  | .compose => Library.compose
  | .apply => Library.apply

/-- A function of the host. It goes on when a question is answered; if an argument or a function
that it calls ends in an error, that error is its own outcome, and it cannot go on from there. -/
abbrev HostFunction := Call → Routine Value

/-- The routine of native code, given the functions that the host registered. A number that the
host never gave out stands for a function that answers undefined. -/
def Code.routine (hosts : List HostFunction) : Code → Call → Routine Value
  | .builtin b => b.routine
  | .bound f values => Library.callBound f values
  | .flipped f values => Library.callFlipped f values
  | .chained functions => Library.callChained functions
  | .host index => fun call =>
    match hosts[index]? with
    | some f => f call
    | none => .done .undefined

/-- Sets the parameters of a closure to the arguments, in order; missing ones are undefined. -/
def bindParameters (call : Call) (scope : Scope) (position : Nat) : List String → Routine Unit
  | [] => return
  | param :: params => do
    let v ← Routine.argumentOrUndefined call position
    Routine.assign scope param v
    bindParameters call scope (position + 1) params

/-- Evaluates the body of a closure in a new scope inside the one where it was made. -/
def applyClosure (params : List String) (body : Option Node) (env : Scope) (call : Call) :
    Routine Value := do
  let scope ← Routine.nested env
  bindParameters call scope 0 params
  match body with
  | some node => Routine.evaluate node scope
  | none => return .undefined

/-- The routine of a function value. A closure that wants arguments and gets none is its own
result. -/
def Procedure.routine (hosts : List HostFunction) (self : Value) (procedure : Procedure)
    (call : Call) : Routine Value :=
  match procedure with
  | .closure params body env =>
    if params ≠ [] ∧ call.arguments.isEmpty then .done self
    else applyClosure params body env call
  | .native _ code _ => code.routine hosts call

end Bracket
