import TokenGate.Text.Decimal
import TokenGate.Text.Unprintable
/-!
Text between quotes, as messages show it: control characters, the quote, the backslash and
everything unprintable are written as escapes.
-/
namespace TokenGate.Text

/-- A character inside a pair of quotes of the given kind. -/
def escaped (quote : Char) (c : Char) : List Char :=
  if c = '\x00' then ['\\', '0']
  else if c = '\t' then ['\\', 't']
  else if c = '\r' then ['\\', 'r']
  else if c = '\n' then ['\\', 'n']
  else if c = '\\' ∨ c = quote then ['\\', c]
  else if isUnprintable c then ['\\', 'u', '\x7b'] ++ hexDigits c.toNat ++ ['\x7d']
  else [c]

/-- A text in double quotes. -/
def quoted (s : String) : String :=
  String.ofList ('"' :: s.toList.flatMap (escaped '"') ++ ['"'])

/-- A character in single quotes. -/
def quotedChar (c : Char) : String :=
  String.ofList ('\'' :: escaped '\'' c ++ ['\''])

end TokenGate.Text
