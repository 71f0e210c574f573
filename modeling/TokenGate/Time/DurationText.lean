import TokenGate.Text.WhiteSpace
import TokenGate.Text.Decimal
import TokenGate.Time.Duration
/-!
Spans of time as text: a number of milliseconds, seconds or minutes with its unit, or a number of
seconds alone.
-/
namespace TokenGate.Duration

inductive ParseError where
  | milliseconds
  | seconds
  | minutes
  | format
  deriving Repr, DecidableEq

def ParseError.message : ParseError → String
  | .milliseconds => "invalid milliseconds"
  | .seconds => "invalid seconds"
  | .minutes => "invalid minutes"
  | .format => "invalid duration format"

/-- Whole seconds unless there are milliseconds left. -/
def text (d : Duration) : String :=
  if d.subsecMillis = 0 then s!"{d.seconds}s" else s!"{d.millis}ms"

/-- A number of 64 bits, which may have white space around it. -/
def count? (cs : List Char) : Option UInt64 :=
  let s := String.ofList (Text.strip Text.isWhiteSpace cs)
  (Text.unsigned? 0x1_0000_0000_0000_0000 s).map UInt64.ofNat

def ofWord (n : UInt64) : Duration := .ofSeconds n.toNat n.toNat_lt

/-- Reads a span; the unit is the last letter, or the last two. -/
def parse (s : String) : Except ParseError Duration :=
  let cs := Text.strip Text.isWhiteSpace s.toList
  match cs.reverse with
  | 's' :: 'm' :: rest =>
    match count? rest.reverse with
    | some n => .ok (ofMillis n.toNat n.toNat_lt)
    | none => .error .milliseconds
  | 's' :: rest =>
    match count? rest.reverse with
    | some n => .ok (ofWord n)
    | none => .error .seconds
  | 'm' :: rest =>
    match count? rest.reverse with
    | some n => .ok (ofWord (n * 60))
    | none => .error .minutes
  | _ =>
    match count? cs with
    | some n => .ok (ofWord n)
    | none => .error .format

end TokenGate.Duration
