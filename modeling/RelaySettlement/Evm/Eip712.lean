import RelaySettlement.Evm.Abi

/-!
# EIP-712 struct hashes

The hash of a struct covers its type, written out as a text, and its members in the order
of their declaration, one word each.  The members here are of the types that name no other
struct.
-/

namespace Evm.Eip712

/-- A member of a struct, with its type. -/
inductive Member where
  | uint (width : ℕ) (value : BitVec width)
  | bytes32 (value : Bytes32)
  | bytes (data : Bytes)

/-- The members of a struct under their names, in the order of their declaration. -/
abbrev Struct := List (String × Member)

def Member.typeName : Member → Bytes
  | .uint width _ =>
      Abi.utf8 "uint" ++ (Nat.toDigits 10 width).map fun digit => UInt8.ofNat digit.toNat
  | .bytes32 _ => Abi.utf8 "bytes32"
  | .bytes _ => Abi.utf8 "bytes"

/-- `encodeType`: the name of a struct and, in parentheses, the types and names of its
members. -/
def encodeType (name : String) (struct : Struct) : Bytes :=
  Abi.utf8 name ++ Abi.utf8 "(" ++
    (Abi.utf8 ",").intercalate (struct.map fun (memberName, member) =>
      member.typeName ++ Abi.utf8 " " ++ Abi.utf8 memberName) ++ Abi.utf8 ")"

variable (keccak256 : Bytes → Bytes32)

/-- An integer is widened to a word, a dynamic member is replaced by its hash. -/
def Member.encode : Member → Bytes32
  | .uint _ value => value.setWidth 256
  | .bytes32 value => value
  | .bytes data => keccak256 data

/-- `encodeData`. -/
def encodeData (struct : Struct) : Bytes :=
  struct.flatMap fun (_, member) => Abi.word (member.encode keccak256)

def hashStruct (name : String) (struct : Struct) : Bytes32 :=
  keccak256 (Abi.word (keccak256 (encodeType name struct)) ++ encodeData keccak256 struct)

end Evm.Eip712
