import Bracket.Json.Fault

/-!
Everything that can end a computation. Reading an unbound name is no error: it yields `undefined`,
and only the callee of a call has to be known.
-/

namespace Bracket

/-- The kinds of values. -/
inductive Kind where
  | undefined
  | null
  | boolean
  | number
  | string
  | array
  | object
  | function
  | date
deriving DecidableEq

def Kind.name : Kind → String
  | undefined => "undefined"
  | null => "null"
  | boolean => "boolean"
  | number => "number"
  | string => "string"
  | array => "array"
  | object => "object"
  | function => "function"
  | date => "date"

/-- An operation met a value that it cannot take. -/
inductive TypeFault where
  /-- The operation has no meaning for values of the kind. -/
  | unsupported (operation : String) (kind : Kind)
  | applyNeedsArray (kind : Kind)
  | cannotFold (kind : Kind)
  | invalidDate (text : String)
  /-- A complaint of a host's own. -/
  | custom (message : String)
deriving DecidableEq

def TypeFault.message : TypeFault → String
  | unsupported operation kind => operation ++ " of " ++ kind.name
  | applyNeedsArray kind => "apply needs an array, got " ++ kind.name
  | cannotFold kind => "cannot fold over " ++ kind.name
  | invalidDate text => "invalid date: " ++ text
  | custom message => message

inductive Error where
  /-- No recognizer claims the text at an offset. -/
  | unparseableToken (offset : Nat) (remainder : String)
  /-- A bracket or period has no partner. -/
  | badNesting (token : String) (offset : Nat)
  | unclosedString (quote : Char) (offset : Nat)
  /-- A function asked for more arguments than the call has. -/
  | arity (callee : String) (supplied : Nat)
  | unknownFunction (name : String)
  | notCallable (what : String)
  | type (fault : TypeFault)
  | json (fault : Json.Fault) (line column : Nat)
  | tooDeep (limit : Nat)
deriving DecidableEq

def Error.message : Error → String
  | unparseableToken offset remainder =>
    "unable to determine next token at character " ++ toString offset ++ ": " ++ remainder
  | badNesting token offset =>
    "invalid nesting: unmatched '" ++ token ++ "' at character " ++ toString offset
  | unclosedString quote offset =>
    "unclosed " ++ quote.toString ++ " string starting at character " ++ toString offset
  | arity callee supplied =>
    "incorrect number of arguments: " ++ callee ++ " ran out after " ++ toString supplied
  | unknownFunction name => "function is undefined in given expression: " ++ name
  | notCallable what => what ++ " is not a function"
  | type fault => "type error: " ++ fault.message
  | json fault line column =>
    "invalid JSON: " ++ fault.message ++ " at line " ++ toString line ++ " column " ++
      toString column
  | tooDeep limit => "expression nested deeper than " ++ toString limit ++ " levels"

end Bracket
