import TokenGate.HostName.Direction
import TokenGate.HostName.Joining
import TokenGate.HostName.Mapping
import TokenGate.HostName.Punycode
import TokenGate.Text.Composition
/-!
Names of hosts in all scripts. A name is made of labels with points between them; what is written
in other characters, in capitals or in letters and digits alone becomes one name.
-/
namespace TokenGate.HostName

/-- The most characters of a label that has others than those of ASCII. -/
def maxLabelLength : Nat := 1000

/-- The most characters that may follow the sign of an encoded label. -/
def maxCodeLength : Nat := 2000

/-- What an encoded label begins with. -/
def codeSign : List Char := "xn--".toList

def isAscii (c : Char) : Bool := c.toNat < 0x80

/-- Characters that no name of a host has. -/
def isForbidden (c : Char) : Bool :=
  c.toNat ≤ 32 || c.toNat = 127 || "#/:<>?@[\\]^|%".toList.contains c

/-- Whether a label begins with a character of its own, and all its characters may stand where they
are. -/
def isValid (label : List Char) : Bool :=
  !label.head?.any Text.isMark && label.all isKept && joinersStand [] label

/-- The label that an encoded one stands for, which cannot be written in ASCII. -/
def decodeLabel? (code : List Char) : Option (List Char) := do
  if maxCodeLength < code.length ∨ !code.all isAscii then none
  let label ← Punycode.decode? code
  if label.all isAscii ∨ codeSign.isPrefixOf label ∨ Text.Composition.compose label ≠ label ∨
      !isValid label then none
  return label

def label? (cs : List Char) : Option (List Char) :=
  if codeSign.isPrefixOf cs then decodeLabel? (cs.drop codeSign.length)
  else if cs.all isAscii ∨ (isValid cs ∧ cs.length ≤ maxLabelLength) then some cs
  else none

/-- What the characters of a text stand for, in composed form. -/
def unify? (cs : List Char) : Option (List Char) :=
  if cs.all isAscii then some (cs.map Char.toLower)
  else (cs.mapM meaning?).map fun parts => Text.Composition.compose parts.flatten

/-- Reads a name. -/
def read? (cs : List Char) : Option (List Char) := do
  let cs ← unify? cs
  if cs.any isForbidden then none
  let labels ← (cs.splitOn '.').mapM label?
  let directions := labels.map fun label => label.map direction
  if directions.flatten.any turns ∧ !directions.all hasOneDirection then none
  return ['.'].intercalate labels

end TokenGate.HostName
