/-!
# Keccak-256

The sponge with a 1600-bit state, a rate of 136 bytes and a padding that starts
with the byte 0x01, as event topics use it.

## Implementation notes

The state is a vector of 25 lanes; the lane at column `x` and row `y` has index
`x + 5 * y`. Lanes take in and give out their bytes with the lowest byte first.
-/

namespace OrderNarration.Keccak

/-- The 25 lanes. -/
abbrev State := Vector UInt64 25

/-- The lane at a column and a row, both counted modulo five. -/
def lane (s : State) (x y : Nat) : UInt64 := s[x % 5 + 5 * (y % 5)]

/-- A state given lane by lane. -/
def ofLanes (f : Nat → Nat → UInt64) : State := Vector.ofFn fun i => f (i.val % 5) (i.val / 5)

/-- Rotate towards the high end. -/
def rotate (w : UInt64) (k : Nat) : UInt64 :=
  (w <<< UInt64.ofNat k) ||| (w >>> UInt64.ofNat (64 - k))

/-- How far each lane is rotated. -/
def offsets : Vector Nat 25 := #v[
  0, 1, 62, 28, 27, 36, 44, 6, 55, 20, 3, 10, 43, 25, 39, 41, 45, 15, 21, 8, 18, 2, 61, 56, 14]

/-- The constants of the 24 rounds. -/
def roundConstants : List UInt64 := [
  0x0000000000000001, 0x0000000000008082, 0x800000000000808A, 0x8000000080008000,
  0x000000000000808B, 0x0000000080000001, 0x8000000080008081, 0x8000000000008009,
  0x000000000000008A, 0x0000000000000088, 0x0000000080008009, 0x000000008000000A,
  0x000000008000808B, 0x800000000000008B, 0x8000000000008089, 0x8000000000008003,
  0x8000000000008002, 0x8000000000000080, 0x000000000000800A, 0x800000008000000A,
  0x8000000080008081, 0x8000000000008080, 0x0000000080000001, 0x8000000080008008]

/-- Mix every lane with the parities of the two columns beside it. -/
def theta (s : State) : State :=
  let parity : Vector UInt64 5 := Vector.ofFn fun x =>
    lane s x 0 ^^^ lane s x 1 ^^^ lane s x 2 ^^^ lane s x 3 ^^^ lane s x 4
  let column (x : Nat) : UInt64 := parity[x % 5]
  ofLanes fun x y => lane s x y ^^^ (column (x + 4) ^^^ rotate (column (x + 1)) 1)

/-- Rotate every lane and move it to its new place. -/
def rhoPi (s : State) : State :=
  ofLanes fun x y =>
    let source := (x + 3 * y) % 5
    rotate (lane s source x) offsets[source + 5 * (x % 5)]

/-- Combine every lane with the two lanes after it in its row. -/
def chi (s : State) : State :=
  ofLanes fun x y => lane s x y ^^^ (~~~ lane s (x + 1) y &&& lane s (x + 2) y)

/-- One round. -/
def round (s : State) (constant : UInt64) : State :=
  let t := chi (rhoPi (theta s))
  t.set 0 (t[0] ^^^ constant)

/-- The permutation of 24 rounds. -/
def permute (s : State) : State := roundConstants.foldl round s

/-- The number of bytes that one block takes in. -/
def rate : Nat := 136

/-- Append the padding, which fills up the last block. -/
def pad (bytes : List UInt8) : List UInt8 :=
  let missing := rate - bytes.length % rate
  if missing = 1 then bytes ++ [0x81]
  else bytes ++ 0x01 :: List.replicate (missing - 2) 0x00 ++ [0x80]

/-- The lane that eight bytes spell. -/
def laneOfBytes (bytes : List UInt8) : UInt64 :=
  UInt64.ofNat (bytes.foldr (fun b n => b.toNat + 256 * n) 0)

/-- The eight bytes of a lane. -/
def bytesOfLane (w : UInt64) : List UInt8 :=
  (List.range 8).map fun i => UInt8.ofNat (w.toNat / Nat.pow 256 i)

/-- Take in one block and permute. -/
def absorb (s : State) (block : List UInt8) : State :=
  permute <| ofLanes fun x y =>
    lane s x y ^^^ laneOfBytes ((block.drop (8 * (x + 5 * y))).take 8)

/-- The 32-byte digest of a byte string. -/
def digest (bytes : List UInt8) : List UInt8 :=
  let padded := pad bytes
  let blocks := (List.range (padded.length / rate)).map fun i => (padded.drop (rate * i)).take rate
  let final := blocks.foldl absorb (Vector.replicate 25 0)
  (final.toList.take 4).flatMap bytesOfLane

end OrderNarration.Keccak
