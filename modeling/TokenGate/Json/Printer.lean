import TokenGate.Json.Basic
import TokenGate.Number.Shortest
/-!
JSON values as text, without spaces. Everything but quotes, backslashes and controls is written
as it is.
-/
namespace TokenGate.Json

/-- Floating-point numbers from `0.00001` up to `10 ^ 16` are written with a point and at least one
digit after it, all others with an exponent and its sign. -/
def doubleChars (x : Binary64) : List Char :=
  if x.magnitude = 0 then ['0', '.', '0'] else
  let d := x.shortest
  let ds := Text.digits d.digits
  let point : Int := ds.length + d.exponent
  if 0 ≤ d.exponent ∧ point ≤ 16 then
    ds ++ List.replicate d.exponent.toNat '0' ++ ['.', '0']
  else if 0 < point ∧ point ≤ 16 then
    ds.take point.toNat ++ '.' :: ds.drop point.toNat
  else if -5 < point ∧ point ≤ 0 then
    '0' :: '.' :: List.replicate (-point).toNat '0' ++ ds
  else
    let e := point - 1
    let fraction := if ds.length = 1 then [] else '.' :: ds.drop 1
    ds.take 1 ++ fraction ++ 'e' :: (if e < 0 then '-' else '+') :: Text.digits e.natAbs

def Number.chars : Number → List Char
  | .int i _ => Text.decimalChars i
  | .double x => if x.negative then '-' :: doubleChars x else doubleChars x

/-- A character inside a JSON string. -/
def escapedChar (c : Char) : List Char :=
  if c = '"' then ['\\', '"']
  else if c = '\\' then ['\\', '\\']
  else if c = '\x08' then ['\\', 'b']
  else if c = '\x0c' then ['\\', 'f']
  else if c = '\n' then ['\\', 'n']
  else if c = '\r' then ['\\', 'r']
  else if c = '\t' then ['\\', 't']
  else if c.toNat < 0x20 then
    let digits := Text.hexDigits c.toNat
    ['\\', 'u'] ++ List.replicate (4 - digits.length) '0' ++ digits
  else [c]

def stringChars (s : String) : List Char :=
  '"' :: s.toList.flatMap escapedChar ++ ['"']

mutual

def chars : Json → List Char
  | .null => ['n', 'u', 'l', 'l']
  | .bool true => ['t', 'r', 'u', 'e']
  | .bool false => ['f', 'a', 'l', 's', 'e']
  | .num n => n.chars
  | .str s => stringChars s
  | .arr items => '[' :: itemsChars items ++ [']']
  | .obj members => '\x7b' :: membersChars members ++ ['\x7d']

def itemsChars : List Json → List Char
  | [] => []
  | [item] => chars item
  | item :: rest => chars item ++ ',' :: itemsChars rest

def membersChars : List (String × Json) → List Char
  | [] => []
  | [(k, v)] => stringChars k ++ ':' :: chars v
  | (k, v) :: rest => stringChars k ++ ':' :: chars v ++ ',' :: membersChars rest

end

/-- The text of a value. -/
def text (j : Json) : String := String.ofList j.chars

end TokenGate.Json
