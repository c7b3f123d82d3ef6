import FeatureFlags.Decimal.Notation
import FeatureFlags.Json.Value
import FeatureFlags.Text.Digit

/-!
# Writing JSON texts

Compact text (`Json.compact`): no blanks, members in their order, only what must be escaped is
escaped. Integers are written out; other numbers are written with the fewest digits that identify
them, laid out by `numberLayout`.

Quotes, backslashes and control characters have to be escaped. Five control characters have letters
of their own, the others are written as units of four hexadecimal digits.
-/

namespace FeatureFlags
namespace Json

/-- Numbers are written positionally from 10^-5 up to below 10^16, otherwise with a signed exponent.
-/
def numberLayout : Decimal.Layout where
  plainFrom := -5
  plainBelow := 16
  signedExponent := true

def renderInt (n : Int) : List Char :=
  if n < 0 then '-' :: Decimal.digits n.natAbs else Decimal.digits n.natAbs

def renderNumber : Number → List Char
  | .int n => renderInt n
  | .float x =>
    match Binary64.ofFloat x with
    | some v =>
      let magnitude := Decimal.render numberLayout (Decimal.shortest v)
      if v.negative then '-' :: magnitude else magnitude
    | none => "null".toList

/-- A character inside quotes. -/
def escape (c : Char) : List Char :=
  match c with
  | '"' => ['\\', '"']
  | '\\' => ['\\', '\\']
  | '\x08' => ['\\', 'b']
  | '\x0c' => ['\\', 'f']
  | '\n' => ['\\', 'n']
  | '\r' => ['\\', 'r']
  | '\t' => ['\\', 't']
  | c =>
    if c < ' ' then
      ['\\', 'u', '0', '0', Digit.ofValue (c.toNat / 16), Digit.ofValue (c.toNat % 16)]
    else [c]

def quote (s : String) : List Char := '"' :: s.toList.flatMap escape ++ ['"']

def commaSeparated (parts : List (List Char)) : List Char := [','].intercalate parts

mutual
def render : Json → List Char
  | null => "null".toList
  | bool true => "true".toList
  | bool false => "false".toList
  | number n => renderNumber n
  | string s => quote s
  | array items => '[' :: commaSeparated (renderItems items) ++ [']']
  | object members => '{' :: commaSeparated (renderMembers members) ++ ['}']

def renderItems : List Json → List (List Char)
  | [] => []
  | v :: vs => render v :: renderItems vs

def renderMembers : List (String × Json) → List (List Char)
  | [] => []
  | (name, v) :: ms => (quote name ++ ':' :: render v) :: renderMembers ms
end

/-- The compact text of a value. -/
def compact (v : Json) : String := String.ofList v.render

end Json
end FeatureFlags
