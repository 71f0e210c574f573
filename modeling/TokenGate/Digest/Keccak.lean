import TokenGate.Text.Utf8
/-!
The hash function Keccak-256: a sponge over 25 lanes of 64 bits that absorbs 136 bytes at a time.
-/
namespace TokenGate.Keccak

def roundConstants : List UInt64 := [
  0x0000000000000001, 0x0000000000008082, 0x800000000000808a, 0x8000000080008000,
  0x000000000000808b, 0x0000000080000001, 0x8000000080008081, 0x8000000000008009,
  0x000000000000008a, 0x0000000000000088, 0x0000000080008009, 0x000000008000000a,
  0x000000008000808b, 0x800000000000008b, 0x8000000000008089, 0x8000000000008003,
  0x8000000000008002, 0x8000000000000080, 0x000000000000800a, 0x800000008000000a,
  0x8000000080008081, 0x8000000000008080, 0x0000000080000001, 0x8000000080008008]

/-- How far each lane is rotated, lane `x + 5 * y` for column `x` and row `y`. -/
def rotations : List UInt64 := [
  0, 1, 62, 28, 27,
  36, 44, 6, 55, 20,
  3, 10, 43, 25, 39,
  41, 45, 15, 21, 8,
  18, 2, 61, 56, 14]

abbrev State := Vector UInt64 25

def lane (s : State) (x y : Nat) : UInt64 := s.getD (x % 5 + 5 * (y % 5)) 0

def rotateLeft (w n : UInt64) : UInt64 :=
  if n = 0 then w else (w <<< n) ||| (w >>> (64 - n))

/-- The state whose lanes a function gives by column and row. -/
def ofLanes (f : Nat → Nat → UInt64) : State := Vector.ofFn fun i => f (i.val % 5) (i.val / 5)

/-- Adds to every lane the parities of two columns beside it. -/
def theta (s : State) : State :=
  let parity : Vector UInt64 5 := Vector.ofFn fun x =>
    lane s x 0 ^^^ lane s x 1 ^^^ lane s x 2 ^^^ lane s x 3 ^^^ lane s x 4
  ofLanes fun x y => lane s x y ^^^
    (parity.getD ((x + 4) % 5) 0 ^^^ rotateLeft (parity.getD ((x + 1) % 5) 0) 1)

/-- Rotates every lane and moves it to its new place. -/
def rhoPi (s : State) : State :=
  ofLanes fun x y =>
    let x' := (x + 3 * y) % 5
    rotateLeft (lane s x' x) (rotations.getD (x' + 5 * x) 0)

def chi (s : State) : State :=
  ofLanes fun x y => lane s x y ^^^ (~~~(lane s (x + 1) y) &&& lane s (x + 2) y)

def iota (c : UInt64) (s : State) : State :=
  ofLanes fun x y => if x = 0 ∧ y = 0 then lane s 0 0 ^^^ c else lane s x y

def permute (s : State) : State :=
  roundConstants.foldl (fun s c => iota c (chi (rhoPi (theta s)))) s

/-- Eight bytes as a lane, least significant byte first. -/
def laneOfBytes (b : Bytes) : UInt64 := b.foldr (fun x w => (w <<< 8) ||| x.toUInt64) 0

def bytesOfLane (w : UInt64) : Bytes :=
  ([0, 8, 16, 24, 32, 40, 48, 56] : List UInt64).map fun k => (w >>> k).toUInt8

/-- Bytes that one block holds. -/
def rate : Nat := 136

/-- A message with the marks and zeros that fill its last block. -/
def pad (message : Bytes) : Bytes :=
  let room := rate - message.length % rate
  if room = 1 then message ++ [0x81]
  else message ++ 0x01 :: List.replicate (room - 2) 0 ++ [0x80]

def absorbBlock (s : State) (block : Bytes) : State :=
  permute <| ofLanes fun x y =>
    let i := x + 5 * y
    lane s x y ^^^ laneOfBytes ((block.drop (8 * i)).take 8)

/-- Absorbs a number of blocks. -/
def absorb : Nat → State → Bytes → State
  | 0, s, _ => s
  | n + 1, s, b => absorb n (absorbBlock s (b.take rate)) (b.drop rate)

def digest (message : Bytes) : Bytes :=
  let b := pad message
  let s := absorb (b.length / rate) (Vector.replicate 25 0) b
  bytesOfLane (lane s 0 0) ++ bytesOfLane (lane s 1 0) ++ bytesOfLane (lane s 2 0) ++
    bytesOfLane (lane s 3 0)

theorem length_digest (message : Bytes) : (digest message).length = 32 := by
  simp [digest, bytesOfLane]

end TokenGate.Keccak
