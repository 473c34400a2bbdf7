import Bracket.Json.Basic
import Bracket.Number.Shortest

/-!
The text of JSON documents, without any blanks.
-/

namespace Bracket.Json

/-! ### Numbers -/

/-- Two characters of a hexadecimal number below 256. -/
def hexByte (n : Nat) : List Char :=
  [Nat.digitChar (n / 16), Nat.digitChar (n % 16)]

/-- The shortest digits of a number `d.ddd * 10 ^ e`: in positions for exponents from -5 to 15,
with a fraction of zero for whole numbers, and with a signed exponent beyond. -/
def floatDigits (d : Decimal) : String :=
  let digits := Digits.ofNat d.digits
  let e := d.exponent + (digits.length - 1 : Nat)
  if -5 ≤ e ∧ e ≤ 15 then
    if 0 ≤ d.exponent then d.positional ++ ".0" else d.positional
  else
    let fraction := digits.drop 1
    let point := if fraction.isEmpty then [] else ['.']
    let exponent := (if 0 < e then "e+" else "e-") ++ String.ofList (Digits.ofNat e.natAbs)
    String.ofList (digits.take 1 ++ point ++ fraction) ++ exponent

def floatText : Number → String
  | .finite s m e _ =>
    let sign := if s then "-" else ""
    if m = 0 then sign ++ "0.0" else sign ++ floatDigits (Number.shortest .toEven m e)
  | _ => "null"

def integerText (n : Int) : String :=
  if n < 0 then "-" ++ String.ofList (Digits.ofNat n.natAbs)
  else String.ofList (Digits.ofNat n.natAbs)

/-! ### Strings -/

/-- A character inside a string: quote, backslash and controls are escaped. -/
def escape (c : Char) : List Char :=
  match c with
  | '"' => ['\\', '"']
  | '\\' => ['\\', '\\']
  | '\n' => ['\\', 'n']
  | '\r' => ['\\', 'r']
  | '\t' => ['\\', 't']
  | c =>
    if c.toNat = 0x8 then ['\\', 'b']
    else if c.toNat = 0xc then ['\\', 'f']
    else if c.toNat < 0x20 then ['\\', 'u', '0', '0'] ++ hexByte c.toNat
    else [c]

def stringText (s : String) : String :=
  String.ofList ('"' :: s.toList.flatMap escape ++ ['"'])

/-! ### Documents -/

mutual

def text : Json → String
  | .null => "null"
  | .bool b => if b then "true" else "false"
  | .integer n => integerText n
  | .float x => floatText x
  | .string s => stringText s
  | .array items => "[" ++ itemsText items ++ "]"
  | .object members => "\x7b" ++ membersText members ++ "\x7d"

/-- Documents with commas between them. -/
def itemsText : List Json → String
  | [] => ""
  | [item] => text item
  | item :: rest => text item ++ "," ++ itemsText rest

/-- Members with commas between them. -/
def membersText : List (String × Json) → String
  | [] => ""
  | [(key, item)] => stringText key ++ ":" ++ text item
  | (key, item) :: rest => stringText key ++ ":" ++ text item ++ "," ++ membersText rest

end

end Bracket.Json
