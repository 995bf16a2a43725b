/-!
# Keccak-256

The sponge of Keccak with a rate of 136 bytes and the first padding rule of the
family (a single 1 bit, zeros, a final 1 bit). The state is a 5 by 5 square of
64-bit lanes; the lane in column `x` and row `y` has the index `x + 5 * y`.
-/

namespace SelectorRouter.Keccak

abbrev State := Vector UInt64 25

def rate : Nat := 136

def rotate (lane : UInt64) (n : Nat) : UInt64 :=
  if n = 0 then lane else (lane <<< UInt64.ofNat n) ||| (lane >>> UInt64.ofNat (64 - n))

/-- The rotation of each lane, by its index. -/
def rotations : Vector Nat 25 :=
  #v[0, 1, 62, 28, 27, 36, 44, 6, 55, 20, 3, 10, 43, 25, 39, 41, 45, 15, 21, 8, 18, 2, 61,
    56, 14]

def roundConstants : List UInt64 :=
  [0x0000000000000001, 0x0000000000008082, 0x800000000000808A, 0x8000000080008000,
    0x000000000000808B, 0x0000000080000001, 0x8000000080008081, 0x8000000000008009,
    0x000000000000008A, 0x0000000000000088, 0x0000000080008009, 0x000000008000000A,
    0x000000008000808B, 0x800000000000008B, 0x8000000000008089, 0x8000000000008003,
    0x8000000000008002, 0x8000000000000080, 0x000000000000800A, 0x800000008000000A,
    0x8000000080008081, 0x8000000000008080, 0x0000000080000001, 0x8000000080008008]

/-- Adds to each lane the parities of two neighbouring columns. -/
def theta (a : State) : State :=
  let parity : Vector UInt64 5 := Vector.ofFn fun x =>
    a[x.val] ^^^ a[x.val + 5] ^^^ a[x.val + 10] ^^^ a[x.val + 15] ^^^ a[x.val + 20]
  let effect : Vector UInt64 5 := Vector.ofFn fun x =>
    parity[(x.val + 4) % 5] ^^^ rotate parity[(x.val + 1) % 5] 1
  Vector.ofFn fun i => a[i] ^^^ effect[i.val % 5]

/-- Rotates each lane and moves the lane in column `x` and row `y` to column `y`
and row `2x + 3y`. -/
def rhoPi (a : State) : State :=
  Vector.ofFn fun i =>
    have bound : (i.val % 5 + 3 * (i.val / 5)) % 5 + 5 * (i.val % 5) < 25 := by omega
    rotate a[(i.val % 5 + 3 * (i.val / 5)) % 5 + 5 * (i.val % 5)]
      rotations[(i.val % 5 + 3 * (i.val / 5)) % 5 + 5 * (i.val % 5)]

/-- Combines each lane with the two lanes to its right. -/
def chi (a : State) : State :=
  Vector.ofFn fun i =>
    have right : 5 * (i.val / 5) + (i.val + 1) % 5 < 25 := by omega
    have second : 5 * (i.val / 5) + (i.val + 2) % 5 < 25 := by omega
    a[i] ^^^ (~~~ a[5 * (i.val / 5) + (i.val + 1) % 5] &&& a[5 * (i.val / 5) + (i.val + 2) % 5])

def round (a : State) (constant : UInt64) : State :=
  let b := chi (rhoPi (theta a))
  b.set 0 (b[0] ^^^ constant)

def permute (a : State) : State :=
  roundConstants.foldl round a

/-- The number whose least significant byte comes first. -/
def laneOf (bytes : List UInt8) : UInt64 :=
  bytes.foldr (fun b lane => (lane <<< 8) ||| b.toUInt64) 0

/-- Adds a block of at most 136 bytes to the first lanes. -/
def addBlock (a : State) (block : List UInt8) : State :=
  Vector.ofFn fun i => a[i] ^^^ laneOf ((block.drop (8 * i.val)).take 8)

/-- Fills the last block up: `0x01`, zeros, and `0x80` added to the last byte. -/
def pad (bytes : List UInt8) : List UInt8 :=
  match rate - 1 - bytes.length % rate with
  | 0 => bytes ++ [0x81]
  | n + 1 => bytes ++ 0x01 :: List.replicate n 0 ++ [0x80]

def absorb (a : State) (bytes : List UInt8) : State :=
  if _h : bytes = [] then a
  else absorb (permute (addBlock a (bytes.take rate))) (bytes.drop rate)
termination_by bytes.length
decreasing_by
  have := List.length_pos_iff.mpr _h
  simp only [List.length_drop, rate]
  omega

def laneBytes (lane : UInt64) : List UInt8 :=
  (List.range 8).map fun k => (lane >>> UInt64.ofNat (8 * k)).toUInt8

/-- The digest of a message: the first 32 bytes of the state after the last block. -/
def digest (message : List UInt8) : List UInt8 :=
  let a := absorb (Vector.replicate 25 0) (pad message)
  laneBytes a[0] ++ laneBytes a[1] ++ laneBytes a[2] ++ laneBytes a[3]

theorem length_digest (message : List UInt8) : (digest message).length = 32 := by
  simp [digest, laneBytes]

end SelectorRouter.Keccak
