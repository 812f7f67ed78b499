import RelaySettlement.Evm.Abi

/-!
# Typed ABI values

Types of the ABI with the decoder for each of them.  What is decoded is a value of the
type, and decoding the encoding of a typed value gives the value back.  So an encoding
determines the values in it, and whatever `abi.decode` returns on an encoding is what was
encoded.

A decoder follows offsets and lengths up to a limit.  For `abi.decode` it is `2 ^ 64 - 1`;
that an encoding determines its values is shown with the largest limit a word allows.
-/

namespace Evm.Abi

/-- Types of the ABI.  Addresses, booleans, enumerations and fixed bytes are unsigned
integers of their width; strings are bytes. -/
inductive Ty where
  | uint (width : ℕ)
  | bytes
  | tuple (members : List Ty)
  | array (element : Ty)

abbrev Ty.address : Ty := .uint 160

abbrev Ty.bool : Ty := .uint 1

mutual
/-- A value of a type. -/
inductive HasType : Value → Ty → Prop where
  | word {value : U256} {width : ℕ} (small : value.toNat < 2 ^ width) :
      HasType (.word value) (.uint width)
  | bytes {data : Bytes} (short : data.length < 2 ^ 64) : HasType (.bytes data) .bytes
  | tuple {members : List Value} {types : List Ty} (typed : HaveTypes members types) :
      HasType (.tuple members) (.tuple types)
  | array {elements : List Value} {element : Ty} (short : elements.length < 2 ^ 64)
      (typed : HaveTypes elements (List.replicate elements.length element)) :
      HasType (.array elements) (.array element)

/-- Values of types, one by one. -/
inductive HaveTypes : List Value → List Ty → Prop where
  | nil : HaveTypes [] []
  | cons {value : Value} {type : Ty} {values : List Value} {types : List Ty}
      (first : HasType value type) (rest : HaveTypes values types) :
      HaveTypes (value :: values) (type :: types)
end

theorem HaveTypes.replicate {type : Ty} : (values : List Value) →
    (∀ value ∈ values, HasType value type) →
      HaveTypes values (List.replicate values.length type)
  | [], _ => .nil
  | value :: values, typed =>
      .cons (typed value List.mem_cons_self)
        (HaveTypes.replicate values fun other member => typed other (List.mem_cons_of_mem _ member))

theorem hasType_word (value : U256) : HasType (.word value) (.uint 256) := .word value.isLt

theorem hasType_widen {width : ℕ} (narrow : width ≤ 256) (value : BitVec width) :
    HasType (.word (value.setWidth 256)) (.uint width) := by
  apply HasType.word
  rw [toNat_widen narrow]
  exact value.isLt

theorem hasType_address (account : Address) : HasType (.address account) .address :=
  hasType_widen (by decide) account

theorem hasType_bool (flag : Bool) : HasType (.bool flag) .bool := by
  cases flag <;> exact .word (by decide)

/-! ## Decoding -/

/-- How a member of a tuple is decoded: whether it is dynamic, its size when it is not,
and its decoder. -/
structure Member where
  dynamic : Bool
  size : ℕ
  decode : Decoder Value

/-- What a member takes among the heads of a tuple. -/
def Member.headSize (member : Member) : ℕ := if member.dynamic then 32 else member.size

section Limit

variable (limit : ℕ)

/-- The member of the tuple at `base` whose head is at `head`. -/
def Member.read (member : Member) (data : Bytes) (base head : ℕ) : Option Value :=
  if member.dynamic then
    (Decoder.word data head).bind fun offset =>
      if offset ≤ limit then member.decode data (base + offset) else none
  else
    member.decode data head

/-- The members of the tuple at `base` whose heads start at `head`. -/
def readMembers : List Member → Bytes → ℕ → ℕ → Option (List Value)
  | [], _, _, _ => some []
  | member :: members, data, base, head =>
      (member.read limit data base head).bind fun value =>
        (readMembers members data base (head + member.headSize)).map (value :: ·)

def readWord (width : ℕ) : Decoder Value := fun data position =>
  (Decoder.word data position).bind fun value =>
    if value < 2 ^ width then some (.word (BitVec.ofNat 256 value)) else none

def readString : Decoder Value := fun data position =>
  (Decoder.word data position).bind fun length =>
    if length ≤ limit ∧ position + 32 + length ≤ data.length then
      some (.bytes ((data.drop (position + 32)).take length))
    else
      none

def readTuple (members : List Member) : Decoder Value := fun data position =>
  (readMembers limit members data position position).map .tuple

def readArray (element : Member) : Decoder Value := fun data position =>
  (Decoder.word data position).bind fun length =>
    if length ≤ limit then
      (readMembers limit (List.replicate length element) data (position + 32)
        (position + 32)).map .array
    else
      none

mutual
/-- The member of a type. -/
def Ty.member : Ty → Member
  | .uint width => ⟨false, 32, readWord width⟩
  | .bytes => ⟨true, 32, readString limit⟩
  | .tuple types =>
      ⟨(Ty.members types).any Member.dynamic, ((Ty.members types).map Member.headSize).sum,
        readTuple limit (Ty.members types)⟩
  | .array element => ⟨true, 32, readArray limit element.member⟩

/-- The members of a list of types. -/
def Ty.members : List Ty → List Member
  | [] => []
  | type :: types => type.member :: Ty.members types
end

/-- `abi.decode` into a list of types. -/
def decode (types : List Ty) (data : Bytes) : Option (List Value) :=
  readMembers limit (Ty.members limit types) data 0 0

end Limit

/-- `abi.decode` into one struct, given how the struct is read off its value. -/
def decodeAs {α : Type} (type : Ty) (ofValue : Value → Option α) (data : Bytes) : Option α :=
  (decode Decoder.limit [type] data).bind fun
    | [value] => ofValue value
    | _ => none

/-- The same without the limit on offsets and lengths, as a reader outside of the EVM does
it. -/
def readAs {α : Type} (type : Ty) (ofValue : Value → Option α) (data : Bytes) : Option α :=
  (decode (2 ^ 256 - 1) [type] data).bind fun
    | [value] => ofValue value
    | _ => none

/-! ## What is decoded is typed -/

theorem HaveTypes.length_eq : {values : List Value} → {types : List Ty} →
    HaveTypes values types → values.length = types.length
  | _, _, .nil => rfl
  | _, _, .cons _ rest => congrArg (· + 1) rest.length_eq

theorem forall₂_replicate {α β : Type} {related : α → β → Prop} (count : ℕ) {a : α} {b : β}
    (holds : related a b) :
    List.Forall₂ related (List.replicate count a) (List.replicate count b) := by
  rw [List.forall₂_iff_get]
  simp [holds]

/-- A member decodes only values of a type. -/
def Member.Typed (member : Member) (type : Ty) : Prop :=
  ∀ data position value, member.decode data position = some value → HasType value type

variable {limit larger : ℕ} {member member' : Member} {members members' : List Member}
variable {type : Ty} {types : List Ty} {value : Value} {values : List Value}
variable {data : Bytes} {base head : ℕ}

section Typed

theorem Member.Typed.read (typed : member.Typed type)
    (read : member.read limit data base head = some value) : HasType value type := by
  rw [Member.read] at read
  split at read
  · simp only [Option.bind_eq_some_iff, Option.ite_none_right_eq_some] at read
    obtain ⟨offset, _, _, decoded⟩ := read
    exact typed _ _ _ decoded
  · exact typed _ _ _ read

theorem readMembers_typed (typed : List.Forall₂ Member.Typed members types)
    (read : readMembers limit members data base head = some values) :
    HaveTypes values types := by
  induction typed generalizing head values with
  | nil =>
      cases read
      exact .nil
  | cons first _ ih =>
      obtain ⟨value, here, rest⟩ := bind_eq_some.mp read
      obtain ⟨others, there, rfl⟩ := Option.map_eq_some_iff.mp rest
      exact .cons (first.read here) (ih there)

theorem readWord_typed (width : ℕ) : (⟨false, 32, readWord width⟩ : Member).Typed
    (.uint width) := by
  intro data position value decoded
  simp only [readWord, Option.bind_eq_some_iff, Option.ite_none_right_eq_some,
    Option.some.injEq] at decoded
  obtain ⟨number, _, small, rfl⟩ := decoded
  apply HasType.word
  rw [BitVec.toNat_ofNat]
  exact (Nat.mod_le _ _).trans_lt small

theorem readString_typed (small : limit < 2 ^ 64) :
    (⟨true, 32, readString limit⟩ : Member).Typed .bytes := by
  intro data position value decoded
  simp only [readString, Option.bind_eq_some_iff, Option.ite_none_right_eq_some,
    Option.some.injEq] at decoded
  obtain ⟨length, _, within, rfl⟩ := decoded
  apply HasType.bytes
  exact ((List.length_take_le _ _).trans within.1).trans_lt small

theorem readTuple_typed {dynamic : Bool} {size : ℕ}
    (typed : List.Forall₂ Member.Typed members types) :
    (⟨dynamic, size, readTuple limit members⟩ : Member).Typed (.tuple types) := by
  intro data position value decoded
  obtain ⟨values, read, rfl⟩ := Option.map_eq_some_iff.mp decoded
  exact .tuple (readMembers_typed typed read)

theorem readArray_typed (small : limit < 2 ^ 64) (typed : member.Typed type) :
    (⟨true, 32, readArray limit member⟩ : Member).Typed (.array type) := by
  intro data position value decoded
  simp only [readArray, Option.bind_eq_some_iff, Option.ite_none_right_eq_some,
    Option.map_eq_some_iff] at decoded
  obtain ⟨length, _, within, values, read, rfl⟩ := decoded
  have typedValues := readMembers_typed (forall₂_replicate length typed) read
  have count := typedValues.length_eq
  rw [List.length_replicate] at count
  subst count
  exact .array (within.trans_lt small) typedValues

mutual
theorem Ty.member_typed (small : limit < 2 ^ 64) : (type : Ty) →
    (type.member limit).Typed type
  | .uint width => by
      rw [Ty.member]
      exact readWord_typed width
  | .bytes => by
      rw [Ty.member]
      exact readString_typed small
  | .tuple types => by
      rw [Ty.member]
      exact readTuple_typed (Ty.members_typed small types)
  | .array element => by
      rw [Ty.member]
      exact readArray_typed small (element.member_typed small)

theorem Ty.members_typed (small : limit < 2 ^ 64) : (types : List Ty) →
    List.Forall₂ Member.Typed (Ty.members limit types) types
  | [] => by
      rw [Ty.members]
      exact .nil
  | type :: types => by
      rw [Ty.members]
      exact .cons (type.member_typed small) (Ty.members_typed small types)
end

/-- Whatever is decoded has the types asked for. -/
theorem decode_typed (small : limit < 2 ^ 64) (decoded : decode limit types data = some values) :
    HaveTypes values types :=
  readMembers_typed (Ty.members_typed small types) decoded

end Typed

/-! ## A larger limit decodes the same -/

/-- A member decodes all that another one does, in the same way. -/
structure Member.Below (member larger : Member) : Prop where
  dynamic : member.dynamic = larger.dynamic
  size : member.size = larger.size
  decode : ∀ data position value, member.decode data position = some value →
    larger.decode data position = some value

theorem Member.Below.headSize (below : member.Below member') :
    member.headSize = member'.headSize := by
  rw [Member.headSize, Member.headSize, below.dynamic, below.size]

theorem dynamic_and_size_mono (below : List.Forall₂ Member.Below members members') :
    members.any Member.dynamic = members'.any Member.dynamic ∧
      members.map Member.headSize = members'.map Member.headSize := by
  induction below with
  | nil => exact ⟨rfl, rfl⟩
  | cons first _ ih =>
      simp [first.dynamic, first.headSize, ih.1, ih.2]

section Larger

variable (within : limit ≤ larger)
include within

theorem Member.Below.read (below : member.Below member')
    (read : member.read limit data base head = some value) :
    member'.read larger data base head = some value := by
  rw [Member.read] at read ⊢
  rw [← below.dynamic]
  split at read
  next isDynamic =>
    simp only [if_pos isDynamic, Option.bind_eq_some_iff, Option.ite_none_right_eq_some]
      at read ⊢
    obtain ⟨offset, isOffset, inLimit, decoded⟩ := read
    exact ⟨offset, isOffset, inLimit.trans within, below.decode _ _ _ decoded⟩
  next isStatic =>
    rw [if_neg isStatic]
    exact below.decode _ _ _ read

theorem readMembers_mono (below : List.Forall₂ Member.Below members members')
    (read : readMembers limit members data base head = some values) :
    readMembers larger members' data base head = some values := by
  induction below generalizing head values with
  | nil => exact read
  | cons first _ ih =>
      obtain ⟨value, here, rest⟩ := bind_eq_some.mp read
      obtain ⟨others, there, rfl⟩ := Option.map_eq_some_iff.mp rest
      rw [readMembers, first.read within here, Option.bind_some, ← first.headSize, ih there,
        Option.map_some]

theorem readString_mono :
    (⟨true, 32, readString limit⟩ : Member).Below ⟨true, 32, readString larger⟩ where
  dynamic := rfl
  size := rfl
  decode := by
    intro data position value decoded
    simp only [readString, Option.bind_eq_some_iff, Option.ite_none_right_eq_some] at decoded ⊢
    obtain ⟨length, isLength, fits, isValue⟩ := decoded
    exact ⟨length, isLength, ⟨fits.1.trans within, fits.2⟩, isValue⟩

theorem readArray_mono (below : member.Below member') :
    (⟨true, 32, readArray limit member⟩ : Member).Below
      ⟨true, 32, readArray larger member'⟩ where
  dynamic := rfl
  size := rfl
  decode := by
    intro data position value decoded
    simp only [readArray, Option.bind_eq_some_iff, Option.ite_none_right_eq_some,
      Option.map_eq_some_iff] at decoded ⊢
    obtain ⟨length, isLength, fits, values, read, isValue⟩ := decoded
    exact ⟨length, isLength, fits.trans within, values,
      readMembers_mono within (forall₂_replicate length below) read, isValue⟩

end Larger

mutual
theorem Ty.member_mono (within : limit ≤ larger) : (type : Ty) →
    (type.member limit).Below (type.member larger)
  | .uint width => by
      rw [Ty.member, Ty.member]
      exact ⟨rfl, rfl, fun _ _ _ => id⟩
  | .bytes => by
      rw [Ty.member, Ty.member]
      exact readString_mono within
  | .tuple types => by
      rw [Ty.member, Ty.member]
      have below := Ty.members_mono within types
      obtain ⟨dynamic, sizes⟩ := dynamic_and_size_mono below
      refine ⟨dynamic, congrArg List.sum sizes, ?_⟩
      intro data position value decoded
      obtain ⟨values, read, rfl⟩ := Option.map_eq_some_iff.mp decoded
      simp [readTuple, readMembers_mono within below read]
  | .array element => by
      rw [Ty.member, Ty.member]
      exact readArray_mono within (element.member_mono within)

theorem Ty.members_mono (within : limit ≤ larger) : (types : List Ty) →
    List.Forall₂ Member.Below (Ty.members limit types) (Ty.members larger types)
  | [] => by
      rw [Ty.members, Ty.members]
      exact .nil
  | type :: types => by
      rw [Ty.members, Ty.members]
      exact .cons (type.member_mono within) (Ty.members_mono within types)
end

theorem decode_mono (within : limit ≤ larger) (decoded : decode limit types data = some values) :
    decode larger types data = some values :=
  readMembers_mono within (Ty.members_mono within types) decoded

/-! ## Parts of a buffer -/

/-- Some bytes stand at a position of a buffer. -/
def At (data : Bytes) (position : ℕ) (part : Bytes) : Prop := part <+: data.drop position

variable {part part' : Bytes} {position : ℕ}

theorem at_append :
    At data position (part ++ part') ↔
      At data position part ∧ At data (position + part.length) part' := by
  constructor
  · rintro ⟨rest, split⟩
    refine ⟨⟨part' ++ rest, by rw [← List.append_assoc, split]⟩, ⟨rest, ?_⟩⟩
    rw [← List.drop_drop, ← split, List.append_assoc, List.drop_left]
  · rintro ⟨⟨after, first⟩, ⟨rest, second⟩⟩
    refine ⟨rest, ?_⟩
    rw [← List.drop_drop, ← first, List.drop_left] at second
    rw [List.append_assoc, second, first]

theorem At.inside (here : At data position part) : part.length ≤ data.length - position := by
  rw [← List.length_drop]
  exact here.length_le

theorem At.take (here : At data position part) :
    (data.drop position).take part.length = part := by
  obtain ⟨rest, split⟩ := here
  rw [← split, List.take_left]

theorem At.word {value : ℕ} (here : At data position (bigEndian 32 value))
    (small : value < 2 ^ 256) : Decoder.word data position = some value := by
  have inside := here.inside
  have taken := here.take
  rw [length_bigEndian] at inside taken
  rw [Decoder.word, if_pos (by omega), taken, readBigEndian_bigEndian,
    Nat.mod_eq_of_lt (by simpa using small)]

/-! ## The layout of a tuple -/

/-- The heads of members whose tails start at an offset. -/
def heads : ℕ → List (Bool × Bytes) → Bytes
  | _, [] => []
  | offset, (true, encoding) :: members =>
      bigEndian 32 offset ++ heads (offset + encoding.length) members
  | offset, (false, encoding) :: members => encoding ++ heads offset members

/-- The tails of members. -/
def tails (members : List (Bool × Bytes)) : Bytes :=
  members.flatMap fun (dynamic, encoding) => if dynamic then encoding else []

/-- The length of the heads of members. -/
def headsSize (members : List (Bool × Bytes)) : ℕ :=
  (members.map fun (dynamic, encoding) => if dynamic then 32 else encoding.length).sum

theorem layout_eq (members : List (Bool × Bytes)) :
    layout members = heads (headsSize members) members ++ tails members := by
  have folded : ∀ (members : List (Bool × Bytes)) (before : Bytes) (offset : ℕ),
      (members.foldl (fun (heads, tail) (dynamic, encoding) =>
        if dynamic then (heads ++ bigEndian 32 tail, tail + encoding.length)
        else (heads ++ encoding, tail)) (before, offset)).1 =
          before ++ heads offset members := by
    intro members
    induction members with
    | nil => simp [heads]
    | cons member members ih =>
        intro before offset
        obtain ⟨dynamic, encoding⟩ := member
        cases dynamic <;> simp [heads, ih]
  rw [layout, folded, List.nil_append]
  rfl

theorem length_heads (offset : ℕ) (members : List (Bool × Bytes)) :
    (heads offset members).length = headsSize members := by
  induction members generalizing offset with
  | nil => rfl
  | cons member members ih =>
      obtain ⟨dynamic, encoding⟩ := member
      cases dynamic <;> simp [heads, headsSize, ih]

/-! ## Sizes -/

/-- The length of the encoding of a value. -/
def Value.size (value : Value) : ℕ := value.encode.2.length

theorem Value.size_word (value : U256) : (Value.word value).size = 32 := by
  rw [Value.size, Value.encode, Abi.word, length_bigEndian]

theorem Value.size_bytes_le (data : Bytes) : (Value.bytes data).size ≤ data.length + 63 := by
  rw [Value.size, Value.encode, List.length_append, length_bigEndian, padRight,
    List.length_append, List.length_replicate]
  omega

/-- A member takes at most one head besides its encoding. -/
theorem length_layout_le {bound : ℕ} (within : ∀ value ∈ values, value.size ≤ bound) :
    (layout (encodeAll values)).length ≤ values.length * (bound + 32) := by
  rw [layout_eq, List.length_append, length_heads]
  induction values with
  | nil => exact Nat.zero_le _
  | cons value values ih =>
      rw [List.forall_mem_cons] at within
      have rest := ih within.2
      have here := within.1
      rw [Value.size] at here
      rw [encodeAll, List.length_cons, Nat.succ_mul]
      generalize value.encode = encoded at here ⊢
      obtain ⟨dynamic, encoding⟩ := encoded
      cases dynamic <;>
        simp only [headsSize, tails, List.map_cons, List.sum_cons, List.flatMap_cons,
          List.length_append, List.length_nil, if_true, Bool.false_eq_true, if_false] at *
      all_goals omega

theorem Value.size_tuple_le (bound : ℕ) (within : ∀ value ∈ values, value.size ≤ bound) :
    (Value.tuple values).size ≤ values.length * (bound + 32) := by
  rw [Value.size, Value.encode]
  exact length_layout_le within

theorem Value.size_array_le (bound : ℕ) (within : ∀ value ∈ values, value.size ≤ bound) :
    (Value.array values).size ≤ 32 + values.length * (bound + 32) := by
  rw [Value.size, Value.encode, List.length_append, length_bigEndian]
  exact Nat.add_le_add_left (length_layout_le within) 32

theorem length_encode_single_le {bound : ℕ} (within : value.size ≤ bound) :
    (encode [value]).length ≤ bound + 32 := by
  have length := length_layout_le (List.forall_mem_singleton.mpr within)
  rwa [List.length_singleton, Nat.one_mul] at length

/-! ## Words -/

theorem heads_words (offset : ℕ) (words : List U256) :
    heads offset (encodeAll (words.map .word)) = words.flatMap word := by
  induction words with
  | nil => rfl
  | cons value words ih =>
      rw [List.map_cons, encodeAll, Value.encode, heads, ih, List.flatMap_cons]

theorem tails_words (words : List U256) : tails (encodeAll (words.map .word)) = [] := by
  induction words with
  | nil => rfl
  | cons value words ih =>
      rw [List.map_cons, encodeAll, Value.encode, tails, List.flatMap_cons, ← tails, ih]
      rfl

theorem encode_words (words : List U256) : encode (words.map .word) = words.flatMap word := by
  rw [encode, layout_eq, heads_words, tails_words, List.append_nil]

theorem length_encode_words (words : List U256) :
    (encode (words.map .word)).length = 32 * words.length := by
  rw [encode_words]
  induction words with
  | nil => rfl
  | cons value words ih =>
      rw [List.flatMap_cons, List.length_append, ih, word, length_bigEndian, List.length_cons]
      ring

theorem word_inj {value value' : U256} (same : word value = word value') : value = value' := by
  apply BitVec.eq_of_toNat_eq
  exact bigEndian_inj value.isLt value'.isLt same

/-- Words side by side determine the list of words. -/
theorem flatMap_word_inj {words words' : List U256}
    (same : words.flatMap word = words'.flatMap word) : words = words' := by
  induction words generalizing words' with
  | nil =>
      cases words' with
      | nil => rfl
      | cons value' words' =>
          have lengths := congrArg List.length same
          simp [word] at lengths
          omega
  | cons value words ih =>
      cases words' with
      | nil =>
          have lengths := congrArg List.length same
          simp [word] at lengths
      | cons value' words' =>
          rw [List.flatMap_cons, List.flatMap_cons] at same
          obtain ⟨first, rest⟩ := List.append_inj same (by simp [word])
          rw [word_inj first, ih rest]

theorem encode_words_inj (words words' : List U256)
    (same : encode (words.map .word) = encode (words'.map .word)) : words = words' := by
  rw [encode_words, encode_words] at same
  exact flatMap_word_inj same

theorem typedData_inj {domainSeparator domainSeparator' structHash structHash' : Bytes32}
    (same : typedData domainSeparator structHash = typedData domainSeparator' structHash') :
    domainSeparator = domainSeparator' ∧ structHash = structHash' := by
  rw [typedData, typedData] at same
  obtain ⟨first, second⟩ := List.append_inj same (by simp [word])
  exact ⟨word_inj (List.append_cancel_left first), word_inj second⟩

/-- What is hashed for the digest of the encoding of a struct. -/
def digestInputs (keccak256 : Bytes → Bytes32) (domainSeparator : Bytes32) (data : Bytes) :
    List Bytes :=
  [typedData domainSeparator (keccak256 data), data]

/-- Without a collision a digest determines the domain and the encoding of the struct. -/
theorem eq_of_hashTypedData_eq {keccak256 : Bytes → Bytes32}
    {domainSeparator domainSeparator' : Bytes32} {data data' : Bytes}
    (noCollision : NoCollision keccak256
      (digestInputs keccak256 domainSeparator data ++
        digestInputs keccak256 domainSeparator' data'))
    (same : hashTypedData keccak256 domainSeparator (keccak256 data) =
      hashTypedData keccak256 domainSeparator' (keccak256 data')) :
    domainSeparator = domainSeparator' ∧ data = data' := by
  have typed : typedData domainSeparator (keccak256 data) =
      typedData domainSeparator' (keccak256 data') :=
    noCollision _ (by simp [digestInputs]) _ (by simp [digestInputs]) same
  obtain ⟨sameDomain, sameStruct⟩ := typedData_inj typed
  exact ⟨sameDomain,
    noCollision _ (by simp [digestInputs]) _ (by simp [digestInputs]) sameStruct⟩

/-! ## The round trip -/

/-- A member decodes a value from every buffer in which its encoding stands. -/
structure Decodes (limit : ℕ) (value : Value) (member : Member) : Prop where
  dynamic : value.encode.1 = member.dynamic
  size : value.encode.1 = false → value.encode.2.length = member.size
  decodes : ∀ data position, At data position value.encode.2 →
    value.encode.2.length ≤ limit → member.decode data position = some value

theorem Decodes.headSize (decodes : Decodes limit value member) :
    (if value.encode.1 then 32 else value.encode.2.length) = member.headSize := by
  rw [Member.headSize, ← decodes.dynamic]
  split
  · rfl
  next static => exact decodes.size (Bool.eq_false_iff.mpr static)

theorem any_dynamic (decodes : List.Forall₂ (Decodes limit) values members) :
    (encodeAll values).any Prod.fst = members.any Member.dynamic := by
  induction decodes with
  | nil => rfl
  | cons first _ ih => rw [encodeAll, List.any_cons, List.any_cons, first.dynamic, ih]

theorem headsSize_eq (decodes : List.Forall₂ (Decodes limit) values members) :
    headsSize (encodeAll values) = (members.map Member.headSize).sum := by
  induction decodes with
  | nil => rfl
  | cons first _ ih =>
      rw [List.map_cons, List.sum_cons, ← ih, ← first.headSize]
      rfl

/-- Static members have no tails. -/
theorem tails_of_static {members : List (Bool × Bytes)}
    (static : members.any Prod.fst = false) : tails members = [] := by
  rw [tails, List.flatMap_eq_nil_iff]
  intro member listed
  have here := List.any_eq_false.mp static member listed
  simp only [Bool.not_eq_true] at here
  simp [here]

theorem word_decodes {value : U256} {width : ℕ} (small : value.toNat < 2 ^ width) :
    Decodes limit (.word value) ⟨false, 32, readWord width⟩ where
  dynamic := rfl
  size := by
    intro _
    rw [Value.encode, word, length_bigEndian]
  decodes := by
    intro data position here _
    rw [Value.encode, word] at here
    simp [readWord, here.word value.isLt, small]

theorem length_padRight (part : Bytes) : part.length ≤ (padRight part).length := by
  rw [padRight, List.length_append]
  exact Nat.le_add_right _ _

theorem members_replicate (count : ℕ) (type : Ty) :
    Ty.members limit (List.replicate count type) =
      List.replicate count (type.member limit) := by
  induction count with
  | zero => rw [List.replicate_zero, Ty.members, List.replicate_zero]
  | succ count ih => rw [List.replicate_succ, Ty.members, ih, List.replicate_succ]

section RoundTrip

variable (small : limit < 2 ^ 256)
include small

/-- Members are read one after the other, the heads and the tails side by side. -/
theorem readMembers_eq {offset : ℕ} (decodes : List.Forall₂ (Decodes limit) values members)
    (headsAt : At data head (heads offset (encodeAll values)))
    (tailsAt : At data (base + offset) (tails (encodeAll values)))
    (headsFit : headsSize (encodeAll values) ≤ limit)
    (tailsFit : offset + (tails (encodeAll values)).length ≤ limit) :
    readMembers limit members data base head = some values := by
  induction decodes generalizing head offset with
  | nil => rfl
  | @cons value member values members first rest ih =>
      have headSize := first.headSize
      have same := first.dynamic
      have decode := first.decodes data
      rw [encodeAll] at headsAt tailsAt headsFit tailsFit
      generalize value.encode = encoded at headsAt tailsAt headsFit tailsFit headSize same decode
      obtain ⟨dynamic, encoding⟩ := encoded
      cases dynamic with
      | true =>
          simp only [if_true, heads, tails, List.flatMap_cons, headsSize, List.map_cons,
            List.sum_cons, List.length_append, at_append, length_bigEndian] at *
          have read := decode (base + offset) tailsAt.1 (by omega)
          have others := @ih (head + 32) (offset + encoding.length) headsAt.2
            (by rw [← Nat.add_assoc]; exact tailsAt.2) (by omega) (by omega)
          rw [readMembers, Member.read, ← same, if_pos rfl, headsAt.1.word (by omega),
            Option.bind_some, if_pos (by omega), read, Option.bind_some, ← headSize, others]
          rfl
      | false =>
          simp only [Bool.false_eq_true, if_false, heads, tails, List.flatMap_cons, headsSize,
            List.map_cons, List.sum_cons, List.nil_append, at_append] at *
          have read := decode head headsAt.1 (by omega)
          have others := @ih (head + encoding.length) offset headsAt.2 tailsAt (by omega)
            tailsFit
          rw [readMembers, Member.read, ← same, if_neg Bool.false_ne_true, read,
            Option.bind_some, ← headSize, others]
          rfl

/-- Values that decode one by one decode as a tuple. -/
theorem tuple_decodes (decodes : List.Forall₂ (Decodes limit) values members) :
    Decodes limit (.tuple values)
      ⟨members.any Member.dynamic, (members.map Member.headSize).sum,
        readTuple limit members⟩ where
  dynamic := by
    rw [Value.encode]
    exact any_dynamic decodes
  size := by
    intro static
    rw [Value.encode] at static ⊢
    rw [layout_eq, List.length_append, length_heads, tails_of_static static, List.length_nil,
      Nat.add_zero, headsSize_eq decodes]
  decodes := by
    intro data position here fits
    rw [Value.encode, layout_eq] at here fits
    rw [List.length_append, length_heads] at fits
    obtain ⟨headsAt, tailsAt⟩ := at_append.mp here
    rw [length_heads] at tailsAt
    have headsFit := Nat.le_trans (Nat.le_add_right _ _) fits
    simp [readTuple, readMembers_eq small decodes headsAt tailsAt headsFit fits]

theorem array_decodes
    (short : (Value.array values).encode.2.length ≤ limit → values.length ≤ limit)
    (decodes : List.Forall₂ (Decodes limit) values (List.replicate values.length member)) :
    Decodes limit (.array values) ⟨true, 32, readArray limit member⟩ where
  dynamic := rfl
  size := by
    intro static
    cases static
  decodes := by
    intro data position here fits
    have short := short fits
    rw [Value.encode, layout_eq] at here fits
    rw [List.length_append, List.length_append, length_bigEndian, length_heads] at fits
    obtain ⟨lengthAt, layoutAt⟩ := at_append.mp here
    rw [length_bigEndian] at layoutAt
    obtain ⟨headsAt, tailsAt⟩ := at_append.mp layoutAt
    rw [length_heads] at tailsAt
    simp [readArray, lengthAt.word (by omega), if_pos short,
      readMembers_eq small decodes headsAt tailsAt (by omega) (by omega)]

/-- An array that takes up more bytes than it has elements fits if its encoding does. -/
theorem array_decodes_of_wide (wide : 0 < member.headSize)
    (decodes : List.Forall₂ (Decodes limit) values (List.replicate values.length member)) :
    Decodes limit (.array values) ⟨true, 32, readArray limit member⟩ := by
  refine array_decodes small (fun fits => ?_) decodes
  have heads := headsSize_eq decodes
  rw [List.map_replicate, List.sum_replicate_nat] at heads
  have counted := Nat.le_mul_of_pos_right values.length wide
  rw [Value.encode, layout_eq, List.length_append, List.length_append, length_heads] at fits
  omega

theorem string_decodes (part : Bytes) :
    Decodes limit (.bytes part) ⟨true, 32, readString limit⟩ where
  dynamic := rfl
  size := by
    intro static
    cases static
  decodes := by
    intro data position here fits
    rw [Value.encode] at here fits
    obtain ⟨lengthAt, paddedAt⟩ := at_append.mp here
    rw [List.length_append, length_bigEndian] at fits
    rw [length_bigEndian] at paddedAt
    have longer := length_padRight part
    have inside := lengthAt.inside
    have paddedInside := paddedAt.inside
    rw [length_bigEndian] at inside
    obtain ⟨partAt, _⟩ := at_append.mp paddedAt
    simp only [readString, lengthAt.word (by omega), Option.bind_some]
    rw [if_pos (by omega), partAt.take]

/-- An encoding that fits the limit is decoded if each of its values is. -/
theorem decode_encode_of_decodes
    (decodes : List.Forall₂ (Decodes limit) values (Ty.members limit types))
    (fits : (encode values).length ≤ limit) : decode limit types (encode values) = some values := by
  have here : At (encode values) 0 (layout (encodeAll values)) := List.prefix_refl _
  rw [encode, layout_eq, List.length_append, length_heads] at fits
  rw [layout_eq] at here
  obtain ⟨headsAt, tailsAt⟩ := at_append.mp here
  rw [length_heads] at tailsAt
  have headsFit := Nat.le_trans (Nat.le_add_right _ _) fits
  exact readMembers_eq small decodes headsAt tailsAt headsFit fits

theorem decode_encode_tuple
    (decodes : List.Forall₂ (Decodes limit) values (Ty.members limit types))
    (fits : (encode [.tuple values]).length ≤ limit) :
    decode limit [.tuple types] (encode [.tuple values]) = some [.tuple values] := by
  apply decode_encode_of_decodes small _ fits
  rw [Ty.members, Ty.members, Ty.member]
  exact .cons (tuple_decodes small decodes) .nil

end RoundTrip

mutual
theorem HasType.decodes (large : 2 ^ 64 - 1 ≤ limit) (small : limit < 2 ^ 256) :
    {value : Value} → {type : Ty} → HasType value type →
      Decodes limit value (type.member limit)
  | _, _, .word inWidth => by
      rw [Ty.member]
      exact word_decodes inWidth
  | _, _, .bytes _ => by
      rw [Ty.member]
      exact string_decodes small _
  | _, _, .tuple typed => by
      rw [Ty.member]
      exact tuple_decodes small (typed.decodes large small)
  | _, _, .array short typed => by
      rw [Ty.member]
      have decodes := typed.decodes large small
      rw [members_replicate] at decodes
      exact array_decodes small (fun _ => by omega) decodes

theorem HaveTypes.decodes (large : 2 ^ 64 - 1 ≤ limit) (small : limit < 2 ^ 256) :
    {values : List Value} → {types : List Ty} → HaveTypes values types →
      List.Forall₂ (Decodes limit) values (Ty.members limit types)
  | _, _, .nil => by
      rw [Ty.members]
      exact .nil
  | _, _, .cons first rest => by
      rw [Ty.members]
      exact .cons (first.decodes large small) (rest.decodes large small)
end

/-- Decoding an encoding that fits the limit gives the values back. -/
theorem decode_encode (large : 2 ^ 64 - 1 ≤ limit) (small : limit < 2 ^ 256)
    (typed : HaveTypes values types) (fits : (encode values).length ≤ limit) :
    decode limit types (encode values) = some values :=
  decode_encode_of_decodes small (typed.decodes large small) fits

/-- An array may be longer than those that decoders of 64-bit lengths read. -/
theorem HasType.array_decodes (large : 2 ^ 64 - 1 ≤ limit) (small : limit < 2 ^ 256)
    (short : values.length ≤ limit) (typed : ∀ value ∈ values, HasType value type) :
    Decodes limit (.array values) ((Ty.array type).member limit) := by
  have decodes := (HaveTypes.replicate values typed).decodes large small
  rw [members_replicate] at decodes
  rw [Ty.member]
  exact Abi.array_decodes small (fun _ => short) decodes

/-- Whatever is decoded from an encoding is what was encoded. -/
theorem eq_of_decode_encode {values' : List Value} (small : limit < 2 ^ 256)
    (typed : HaveTypes values types) (short : (encode values).length < 2 ^ 256)
    (decoded : decode limit types (encode values) = some values') : values' = values := by
  have larger := decode_mono (Nat.le_sub_one_of_lt small) decoded
  rw [decode_encode (by decide) (by decide) typed (Nat.le_sub_one_of_lt short)] at larger
  exact (Option.some.inj larger).symm

/-- An encoding determines the values in it. -/
theorem encode_inj {values' : List Value} (typed : HaveTypes values types)
    (typed' : HaveTypes values' types) (short : (encode values).length < 2 ^ 256)
    (same : encode values = encode values') : values = values' := by
  have decoded := decode_encode (by decide) (by decide) typed' (same ▸ Nat.le_sub_one_of_lt short)
  rw [← same] at decoded
  exact (eq_of_decode_encode (by decide) typed short decoded).symm

section DecodeAs

variable {α : Type} {ofValue : Value → Option α} {result : α}

/-- The structs of an array are read off one by one. -/
theorem mapM_ofValue {toValue : α → Value}
    (inverse : ∀ struct, ofValue (toValue struct) = some struct) (structs : List α) :
    (structs.map toValue).mapM ofValue = some structs := by
  induction structs with
  | nil => rfl
  | cons struct structs ih => simp [List.mapM_cons, inverse, ih]

theorem length_of_mapM {structs : List α}
    (read : values.mapM ofValue = some structs) : structs.length = values.length := by
  induction values generalizing structs with
  | nil =>
      cases read
      rfl
  | cons value values ih =>
      rw [List.mapM_cons] at read
      obtain ⟨struct, _, read⟩ := bind_eq_some.mp read
      obtain ⟨rest, isRest, isStructs⟩ := bind_eq_some.mp read
      cases isStructs
      rw [List.length_cons, List.length_cons, ih isRest]

theorem decodeAs_encode (typed : HasType value type)
    (short : (encode [value]).length ≤ Decoder.limit) :
    decodeAs type ofValue (encode [value]) = ofValue value := by
  rw [decodeAs, decode_encode (by decide) (by decide) (.cons typed .nil) short,
    Option.bind_some]

variable {members : List Value}

theorem decodeAs_encode_of_decodes
    (decodes : List.Forall₂ (Decodes Decoder.limit) members (Ty.members Decoder.limit types))
    (short : (encode [.tuple members]).length ≤ Decoder.limit) :
    decodeAs (.tuple types) ofValue (encode [.tuple members]) = ofValue (.tuple members) := by
  rw [decodeAs, decode_encode_tuple (by decide) decodes short, Option.bind_some]

/-- A struct of few members is decoded to what was encoded, unless one of them is huge. -/
theorem decodeAs_encode_tuple (typed : HasType (.tuple members) (.tuple types))
    (few : members.length ≤ 2 ^ 16) (within : ∀ member ∈ members, member.size ≤ 2 ^ 32) :
    decodeAs (.tuple types) ofValue (encode [.tuple members]) = ofValue (.tuple members) := by
  apply decodeAs_encode typed
  have size := Value.size_tuple_le (2 ^ 32) within
  have bounded := Nat.le_trans size (Nat.mul_le_mul_right _ few)
  exact Nat.le_trans (length_encode_single_le bounded) (by decide)

theorem readAs_encode (typed : HasType value type)
    (short : (encode [value]).length < 2 ^ 256) :
    readAs type ofValue (encode [value]) = ofValue value := by
  rw [readAs, decode_encode (by decide) (by decide) (.cons typed .nil)
    (Nat.le_sub_one_of_lt short), Option.bind_some]

theorem readAs_encode_of_decodes
    (decodes : List.Forall₂ (Decodes (2 ^ 256 - 1)) members (Ty.members (2 ^ 256 - 1) types))
    (short : (encode [.tuple members]).length < 2 ^ 256) :
    readAs (.tuple types) ofValue (encode [.tuple members]) = ofValue (.tuple members) := by
  rw [readAs, decode_encode_tuple (by decide) decodes (Nat.le_sub_one_of_lt short),
    Option.bind_some]

/-- A struct is read back unless it is larger than any that can be written down. -/
theorem readAs_encode_tuple (typed : HaveTypes members types) (few : members.length ≤ 2 ^ 32)
    (within : ∀ member ∈ members, member.size ≤ 2 ^ 200) :
    readAs (.tuple types) ofValue (encode [.tuple members]) = ofValue (.tuple members) := by
  apply readAs_encode (.tuple typed)
  have size := Value.size_tuple_le (2 ^ 200) within
  have bounded := Nat.le_trans size (Nat.mul_le_mul_right _ few)
  exact Nat.lt_of_le_of_lt (length_encode_single_le bounded) (by decide)

theorem ofValue_of_decodeAs (typed : HasType value type)
    (short : (encode [value]).length < 2 ^ 256)
    (decoded : decodeAs type ofValue (encode [value]) = some result) :
    ofValue value = some result := by
  obtain ⟨values, isValues, isResult⟩ := bind_eq_some.mp decoded
  rw [eq_of_decode_encode (by decide) (.cons typed .nil) short isValues] at isResult
  exact isResult

/-- What the contracts decode is read. -/
theorem readAs_of_decodeAs (decoded : decodeAs type ofValue data = some result) :
    readAs type ofValue data = some result := by
  obtain ⟨values, isValues, isResult⟩ := bind_eq_some.mp decoded
  rw [readAs, decode_mono (by decide) isValues]
  exact isResult

/-- A struct that can be decoded has a value of its type. -/
theorem exists_of_decodeAs (decoded : decodeAs type ofValue data = some result) :
    ∃ value, HasType value type ∧ ofValue value = some result := by
  obtain ⟨values, isValues, isResult⟩ := bind_eq_some.mp decoded
  have typed := decode_typed (by decide) isValues
  cases typed with
  | cons first rest =>
      cases rest
      exact ⟨_, first, isResult⟩

end DecodeAs

end Evm.Abi
