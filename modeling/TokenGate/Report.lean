/-!
Reports of failures: what failed, and under it the chain of causes, numbered if there are several.
-/
namespace TokenGate

structure Report where
  context : String
  /-- The causes, the nearest first. -/
  causes : List String
  deriving Repr, DecidableEq

namespace Report

/-- A text after a lead; its other lines are indented. -/
def indented (lead indent text : String) : String :=
  lead ++ ("\n" ++ indent).intercalate ((text.toList.splitOn '\n').map String.ofList)

/-- What stands before the cause of a number; numbers are lined up at the right. -/
def lead (n : Nat) : String :=
  let number := s!"{n}"
  String.ofList (List.replicate (5 - number.length) ' ') ++ number ++ ": "

def lines (r : Report) : List String :=
  match r.causes with
  | [] => []
  | [cause] => ["", "Caused by:", indented "    " "    " cause]
  | causes =>
    "" :: "Caused by:" :: causes.zipIdx.map fun (cause, n) => indented (lead n) "       " cause

def text (r : Report) : String :=
  "\n".intercalate (("Error: " ++ r.context) :: r.lines) ++ "\n"

end Report

end TokenGate
