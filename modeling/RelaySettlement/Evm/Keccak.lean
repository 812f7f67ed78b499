import RelaySettlement.Evm.Abi

/-!
# Keccak-256

Everything else takes the hash function as a parameter.  Where a contract carries the hash
of a fixed text as a literal, the two can only be compared by computing it.

The state is five planes of five lanes, lane `x` of plane `y` being the lane `(x, y)` of the
specification.
-/

namespace Evm.Keccak

abbrev Lane := BitVec 64

abbrev State := List (List Lane)

/-- The lane `(x, y)`, the first coordinate taken modulo 5. -/
def lane (state : State) (x y : ℕ) : Lane := (state.getD y []).getD (x % 5) 0

def tabulate (lanes : ℕ → ℕ → Lane) : State :=
  (List.range 5).map fun y => (List.range 5).map fun x => lanes x y

/-! ## The permutation -/

/-- Add to every lane the parity of two neighbouring columns. -/
def theta (state : State) : State :=
  let columns := (List.range 5).map fun x =>
    (state.map fun plane => plane.getD x 0).foldl (· ^^^ ·) 0
  let parities := (List.range 5).map fun x =>
    columns.getD ((x + 4) % 5) 0 ^^^ (columns.getD ((x + 1) % 5) 0).rotateLeft 1
  state.map fun plane => List.zipWith (· ^^^ ·) plane parities

def rotations : List (List ℕ) :=
  [[0, 1, 62, 28, 27], [36, 44, 6, 55, 20], [3, 10, 43, 25, 39], [41, 45, 15, 21, 8],
    [18, 2, 61, 56, 14]]

/-- Rotate every lane. -/
def rho (state : State) : State :=
  List.zipWith (List.zipWith BitVec.rotateLeft) state rotations

/-- Move the lanes. -/
def pi (state : State) : State := tabulate fun x y => lane state (x + 3 * y) x

/-- Combine every lane with the next two of its plane. -/
def chi (state : State) : State :=
  tabulate fun x y => lane state x y ^^^ (~~~ lane state (x + 1) y &&& lane state (x + 2) y)

/-- Break the symmetry with a constant in the lane `(0, 0)`. -/
def iota (constant : Lane) : State → State
  | (first :: plane) :: planes => ((first ^^^ constant) :: plane) :: planes
  | state => state

def roundConstants : List Lane :=
  [0x0000000000000001, 0x0000000000008082, 0x800000000000808a, 0x8000000080008000,
    0x000000000000808b, 0x0000000080000001, 0x8000000080008081, 0x8000000000008009,
    0x000000000000008a, 0x0000000000000088, 0x0000000080008009, 0x000000008000000a,
    0x000000008000808b, 0x800000000000008b, 0x8000000000008089, 0x8000000000008003,
    0x8000000000008002, 0x8000000000000080, 0x000000000000800a, 0x800000008000000a,
    0x8000000080008081, 0x8000000000008080, 0x0000000080000001, 0x8000000080008008]

def round (state : State) (constant : Lane) : State :=
  iota constant (chi (pi (rho (theta state))))

def permute (state : State) : State := roundConstants.foldl round state

/-! ## The sponge -/

/-- The bytes one permutation absorbs. -/
def rate : ℕ := 136

/-- Fill the last block up, its first free bit and its last bit being set. -/
def pad (data : Bytes) : Bytes :=
  match rate - 1 - data.length % rate with
  | 0 => data ++ [0x81]
  | zeros + 1 => data ++ [0x01] ++ List.replicate zeros 0 ++ [0x80]

def readLane (data : Bytes) (index : ℕ) : Lane :=
  BitVec.ofNat 64 (Abi.readBigEndian ((data.drop (8 * index)).take 8).reverse)

def absorb (state : State) (block : Bytes) : State :=
  permute (tabulate fun x y =>
    if 8 * (x + 5 * y) < rate then lane state x y ^^^ readLane block (x + 5 * y)
    else lane state x y)

/-- The first blocks of a byte string. -/
def blocks : ℕ → Bytes → List Bytes
  | 0, _ => []
  | count + 1, data => data.take rate :: blocks count (data.drop rate)

/-- The hash function of the EVM. -/
def keccak256 (data : Bytes) : Bytes32 :=
  let padded := pad data
  let state := (blocks (padded.length / rate) padded).foldl absorb (tabulate fun _ _ => 0)
  BitVec.ofNat 256 (Abi.readBigEndian ((List.range 4).flatMap fun x =>
    (Abi.bigEndian 8 (lane state x 0).toNat).reverse))

end Evm.Keccak
