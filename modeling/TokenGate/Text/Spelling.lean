import Std.Data.HashMap
import TokenGate.Text.CharClass
/-!
Characters and the characters that they are spelled with, written as words of three kinds:
`41-5A:61` for a run in which all are equally far from their spellings, `100-12E/2:101` for every
second one of such a run, and `E0:61.300,61.301` for characters in a row, one after the other.
-/
namespace TokenGate.Text

/-- Characters are looked up by their numbers. -/
instance hashableChar : Hashable Char where
  hash c := c.val.toUInt64

abbrev Spelling := Std.HashMap Char (List Char)

namespace Spelling

def charAt (code : List Char) : Char := Char.ofNat (ofHexDigits code)

/-- The characters of a word, each with its spelling. -/
def ofWord (word : List Char) : List (Char × List Char) :=
  let (sources, targets) := divide ':' word
  let (first, last) := divide '-' sources
  let start := ofHexDigits first
  if last = [] then
    (targets.splitOn ',').zipIdx.map fun (target, i) =>
      (Char.ofNat (start + i), (target.splitOn '.').map charAt)
  else
    let (last, stride) := divide '/' last
    let stride := if stride = [] then 1 else ofHexDigits stride
    (List.range ((ofHexDigits last - start) / stride + 1)).map fun i =>
      (Char.ofNat (start + stride * i), [Char.ofNat (ofHexDigits targets + stride * i)])

def read (s : String) : Spelling := .ofList ((words s).flatMap ofWord)

end Spelling

end TokenGate.Text
