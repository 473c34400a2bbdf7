/-!
The functions of the standard library, by name.
-/

namespace Bracket

inductive Builtin where
  | toString | plus | minus | divide | times | isNaN | max | min
  | greater | less | greaterEqual | lessEqual | double
  | ternary | not | looseEqual | strictEqual | looseUnequal | strictUnequal | or | either | and
  | object | array | map | sort | filter | findOne | fold | last
  | concat | join | slice | length | getValue | compare | contains | charAt | toLowerCase
  | format | refine
  | date | addDays | toJson | fromJson
  | bind | flip | compose | apply
deriving DecidableEq

namespace Builtin

/-- The name that the library binds a function to. -/
def name : Builtin → String
  | toString => "toString"
  | plus => "+"
  | minus => "-"
  | divide => "/"
  | times => "*"
  | isNaN => "isNaN"
  | max => "max"
  | min => "min"
  | greater => ">"
  | less => "<"
  | greaterEqual => ">="
  | lessEqual => "<="
  | double => "double"
  | ternary => "?"
  | not => "!"
  | looseEqual => "="
  | strictEqual => "=="
  | looseUnequal => "!="
  | strictUnequal => "!=="
  | or => "||"
  | either => "|"
  | and => "&&"
  | object => "object"
  | array => "array"
  | map => "map"
  | sort => "sort"
  | filter => "filter"
  | findOne => "findOne"
  | fold => "fold"
  | last => "last"
  | concat => "concat"
  | join => "join"
  | slice => "slice"
  | length => "length"
  | getValue => "getValue"
  | compare => "compare"
  | contains => "contains"
  | charAt => "charAt"
  | toLowerCase => "toLowerCase"
  | format => "format"
  | refine => "refine"
  | date => "date"
  | addDays => "addDays"
  | toJson => "toJSON"
  | fromJson => "fromJSON"
  | bind => "partial"
  | flip => "flip"
  | compose => "compose"
  | apply => "apply"

/-- All functions in the order of the library. -/
def all : List Builtin :=
  [toString, plus, minus, divide, times, isNaN, max, min, greater, less, greaterEqual, lessEqual,
   double, ternary, not, looseEqual, strictEqual, looseUnequal, strictUnequal, or, either, and,
   object, array, map, sort, filter, findOne, fold, last, concat, join, slice, length, getValue,
   compare, contains, charAt, toLowerCase, format, refine, date, addDays, toJson, fromJson, bind,
   flip, compose, apply]

end Builtin

end Bracket
