import RelaySettlement.Evm.Abi

/-!
# Reading byte strings from the front

Binary formats of other chains are read field by field.  A reader takes some bytes off the
front and leaves the rest, or fails.  Numbers are little-endian in most of these formats.
-/

namespace Evm

/-! ## Little-endian numbers -/

/-- The `width` low bytes of a number, least significant first. -/
def littleEndian (width value : ℕ) : Bytes :=
  (List.range width).map fun position => UInt8.ofNat (value / 256 ^ position)

/-- The number a little-endian byte string denotes. -/
def readLittleEndian : Bytes → ℕ
  | [] => 0
  | byte :: data => byte.toNat + 256 * readLittleEndian data

@[simp] theorem length_littleEndian (width value : ℕ) :
    (littleEndian width value).length = width := by
  rw [littleEndian, List.length_map, List.length_range]

theorem littleEndian_succ (width value : ℕ) :
    littleEndian (width + 1) value = UInt8.ofNat value :: littleEndian width (value / 256) := by
  rw [littleEndian, List.range_succ_eq_map, List.map_cons, List.map_map, littleEndian, pow_zero,
    Nat.div_one]
  congr 1
  apply List.map_congr_left
  intro position _
  rw [Function.comp_apply, Nat.div_div_eq_div_mul, ← Nat.pow_succ']

theorem readLittleEndian_littleEndian (width value : ℕ) :
    readLittleEndian (littleEndian width value) = value % 256 ^ width := by
  induction width generalizing value with
  | zero =>
      rw [pow_zero, Nat.mod_one]
      rfl
  | succ width ih =>
      have shift : 256 ^ (width + 1) = 256 * 256 ^ width := Nat.pow_succ'
      rw [littleEndian_succ, readLittleEndian, ih, UInt8.toNat_ofNat', shift, Nat.mod_mul]

theorem littleEndian_readLittleEndian (data : Bytes) :
    littleEndian data.length (readLittleEndian data) = data := by
  induction data with
  | nil => rfl
  | cons byte data ih =>
      have small := byte.toNat_lt
      have high : (byte.toNat + 256 * readLittleEndian data) / 256 = readLittleEndian data := by
        omega
      have low : UInt8.ofNat (byte.toNat + 256 * readLittleEndian data) = byte := by
        apply UInt8.toNat_inj.mp
        rw [UInt8.toNat_ofNat']
        omega
      rw [List.length_cons, littleEndian_succ, readLittleEndian, high, low, ih]

theorem readLittleEndian_lt (data : Bytes) : readLittleEndian data < 256 ^ data.length := by
  have back := readLittleEndian_littleEndian data.length (readLittleEndian data)
  rw [littleEndian_readLittleEndian] at back
  rw [back]
  exact Nat.mod_lt _ (Nat.pow_pos (by decide))

theorem readLittleEndian_toNat {width bits : ℕ} (wide : bits ≤ 8 * width) (value : BitVec bits) :
    readLittleEndian (littleEndian width value.toNat) = value.toNat := by
  rw [readLittleEndian_littleEndian]
  apply Nat.mod_eq_of_lt
  have bound : 2 ^ bits ≤ 256 ^ width := by
    rw [show 256 = 2 ^ 8 from rfl, ← Nat.pow_mul]
    exact Nat.pow_le_pow_right (by decide) wide
  exact Nat.lt_of_lt_of_le value.isLt bound

/-! ## Readers -/

/-- A reader goes on with what the one before it has left. -/
theorem run_bind_of {σ α β : Type} {reader : StateT σ Option α} {next : α → StateT σ Option β}
    {state rest : σ} {value : α} (read : reader.run state = some (value, rest)) :
    (reader >>= next).run state = (next value).run rest := by
  rw [StateT.run_bind, read]
  rfl

theorem run_bind_eq_some {σ α β : Type} {reader : StateT σ Option α}
    {next : α → StateT σ Option β} {state : σ} {result : β × σ} :
    (reader >>= next).run state = some result ↔
      ∃ value rest, reader.run state = some (value, rest) ∧
        (next value).run rest = some result := by
  rw [StateT.run_bind, bind_eq_some, Prod.exists]

/-- Takes a value off the front of a byte string. -/
abbrev Reader (α : Type) := StateT Bytes Option α

namespace Reader

variable {α β : Type}

/-- Read something that takes up all of a byte string. -/
def whole (reader : Reader α) (data : Bytes) : Option α :=
  match reader.run data with
  | some (value, []) => some value
  | _ => none

def bytes (count : ℕ) : Reader Bytes := fun data =>
  if count ≤ data.length then some (data.take count, data.drop count) else none

def byte : Reader UInt8
  | [] => none
  | first :: data => some (first, data)

/-- A 32-byte word. -/
def word : Reader Bytes32 := do
  let data ← bytes 32
  return BitVec.ofNat 256 (Abi.readBigEndian data)

/-- A little-endian number. -/
def uint (bits : ℕ) : Reader (BitVec bits) := do
  let data ← bytes (bits / 8)
  return BitVec.ofNat bits (readLittleEndian data)

theorem run_bytes (data rest : Bytes) :
    (bytes data.length).run (data ++ rest) = some (data, rest) := by
  simp [bytes, StateT.run]

@[simp] theorem run_byte (first : UInt8) (rest : Bytes) :
    byte.run (first :: rest) = some (first, rest) := rfl

theorem run_word (value : Bytes32) (rest : Bytes) :
    word.run (Abi.word value ++ rest) = some (value, rest) := by
  have read := run_bytes (Abi.word value) rest
  have fits : Abi.readBigEndian (Abi.word value) = value.toNat := by
    rw [Abi.word, Abi.readBigEndian_bigEndian]
    exact Nat.mod_eq_of_lt value.isLt
  rw [Abi.word, Abi.length_bigEndian, ← Abi.word] at read
  simp [word, read, fits]

theorem run_uint {bits : ℕ} (octets : bits % 8 = 0) (value : BitVec bits) (rest : Bytes) :
    (uint bits).run (littleEndian (bits / 8) value.toNat ++ rest) = some (value, rest) := by
  have read := run_bytes (littleEndian (bits / 8) value.toNat) rest
  have fits : readLittleEndian (littleEndian (bits / 8) value.toNat) = value.toNat :=
    readLittleEndian_toNat (by omega) value
  rw [length_littleEndian] at read
  simp [uint, read, fits]

/-- Reads values until nothing is left.  If every value takes a byte at least, `fuel` bytes hold
no more than `fuel` values. -/
def many (reader : Reader α) : ℕ → Bytes → Option (List α)
  | _, [] => some []
  | 0, _ :: _ => none
  | fuel + 1, data => do
      let (value, rest) ← reader.run data
      return value :: (← many reader fuel rest)

/-- The values that take up all of a byte string. -/
def all (reader : Reader α) (data : Bytes) : Option (List α) := many reader data.length data

section All

variable {reader : Reader α} {encode : α → Bytes} {values : List α}
variable (reads : ∀ value ∈ values, ∀ rest,
  reader.run (encode value ++ rest) = some (value, rest))
variable (filled : ∀ value ∈ values, encode value ≠ [])

include reads filled

theorem many_flatMap {fuel : ℕ} (enough : values.length ≤ fuel) :
    many reader fuel (values.flatMap encode) = some values := by
  induction values generalizing fuel with
  | nil =>
      cases fuel with
      | zero => rfl
      | succ fuel => rfl
  | cons value values ih =>
      cases fuel with
      | zero => cases enough
      | succ fuel =>
          have read := reads value List.mem_cons_self (values.flatMap encode)
          have others := ih (fun value listed => reads value (List.mem_cons_of_mem _ listed))
            (fun value listed => filled value (List.mem_cons_of_mem _ listed))
            (Nat.le_of_succ_le_succ enough)
          have nonempty : (value :: values).flatMap encode ≠ [] := by
            rw [List.flatMap_cons]
            exact fun empty => filled value List.mem_cons_self (List.append_eq_nil_iff.mp empty).1
          rw [many]
          · simp [read, others]
          · exact nonempty

/-- What is written value by value is read value by value. -/
theorem all_flatMap : all reader (values.flatMap encode) = some values := by
  apply many_flatMap reads filled
  clear reads
  induction values with
  | nil => exact Nat.le_refl 0
  | cons value values ih =>
      have nonempty := List.length_pos_of_ne_nil (filled value List.mem_cons_self)
      have others := ih fun value listed => filled value (List.mem_cons_of_mem _ listed)
      rw [List.flatMap_cons, List.length_append, List.length_cons]
      omega

end All

/-! ## A given number of values -/

/-- Reads a value again and again. -/
def replicate (reader : Reader α) : ℕ → Reader (List α)
  | 0 => return []
  | count + 1 => do
      let value ← reader
      return value :: (← replicate reader count)

theorem run_replicate_map {reader : Reader β} {encode : α → Bytes} {image : α → β}
    {values : List α}
    (reads : ∀ value ∈ values, ∀ rest,
      reader.run (encode value ++ rest) = some (image value, rest)) (rest : Bytes) :
    (replicate reader values.length).run (values.flatMap encode ++ rest) =
      some (values.map image, rest) := by
  induction values with
  | nil => rfl
  | cons value values ih =>
      have first := reads value List.mem_cons_self (values.flatMap encode ++ rest)
      have others := ih fun value listed => reads value (List.mem_cons_of_mem _ listed)
      rw [List.flatMap_cons, List.append_assoc, List.length_cons, replicate, run_bind_of first,
        run_bind_of others]
      rfl

theorem run_replicate {reader : Reader α} {encode : α → Bytes} {values : List α}
    (reads : ∀ value ∈ values, ∀ rest, reader.run (encode value ++ rest) = some (value, rest))
    (rest : Bytes) :
    (replicate reader values.length).run (values.flatMap encode ++ rest) = some (values, rest) := by
  have read := @run_replicate_map α α reader encode id values reads rest
  rwa [List.map_id] at read

/-- Bytes one by one. -/
theorem replicate_byte (count : ℕ) : replicate byte count = bytes count := by
  funext data
  change (replicate byte count).run data = (bytes count).run data
  induction count generalizing data with
  | zero => rfl
  | succ count ih =>
      cases data with
      | nil => rfl
      | cons first data =>
          rw [replicate, run_bind_of (run_byte first data), StateT.run_bind, ih]
          simp only [bytes, StateT.run, List.length_cons, Nat.add_le_add_iff_right]
          split
          next => rfl
          next => rfl

/-! ## What is read -/

/-- Every value that is read has a property. -/
def Ensures (reader : Reader α) (property : α → Prop) : Prop :=
  ∀ ⦃data value rest⦄, reader.run data = some (value, rest) → property value

section Ensures

variable {reader : Reader α} {property : α → Prop} {result : β → Prop}

theorem Ensures.pure {value : β} (holds : result value) : Ensures (Pure.pure value) result := by
  intro data read rest isRead
  cases isRead
  exact holds

theorem Ensures.failure : Ensures (failure : Reader β) result := by
  intro data read rest isRead
  cases isRead

theorem Ensures.bind {next : α → Reader β} (first : Ensures reader property)
    (second : ∀ value, property value → Ensures (next value) result) :
    Ensures (reader >>= next) result := by
  intro data value rest isRead
  obtain ⟨between, left, isFirst, isSecond⟩ := run_bind_eq_some.mp isRead
  exact second between (first isFirst) isSecond

theorem Ensures.trivial (reader : Reader α) : Ensures reader fun _ => True :=
  fun _ _ _ _ => True.intro

theorem Ensures.replicate (each : Ensures reader property) (count : ℕ) :
    Ensures (replicate reader count) fun values => ∀ value ∈ values, property value := by
  induction count with
  | zero => exact .pure (List.forall_mem_nil _)
  | succ count ih =>
      exact each.bind fun value holds => ih.bind fun values all =>
        .pure (List.forall_mem_cons.mpr ⟨holds, all⟩)

end Ensures

theorem ensures_bytes (count : ℕ) : Ensures (bytes count) fun data => data.length = count := by
  intro data value rest isRead
  obtain ⟨enough, ⟨⟩⟩ := Option.ite_none_right_eq_some.mp isRead
  rw [List.length_take, Nat.min_eq_left enough]

/-! ## Readers that agree -/

/-- Where a reader reads a value, another one reads its image. -/
def Follows (image : α → β) (reader : Reader α) (other : Reader β) : Prop :=
  ∀ ⦃data value rest⦄, reader.run data = some (value, rest) →
    other.run data = some (image value, rest)

theorem Follows.refl (reader : Reader α) : Follows id reader reader := fun _ _ _ read => read

section Follows

variable {γ δ : Type} {image : α → β} {result : γ → δ} {reader : Reader α} {other : Reader β}

theorem Follows.pure {value : γ} {value' : δ} (same : value' = result value) :
    Follows result (Pure.pure value) (Pure.pure value') := by
  rintro data read rest isRead
  cases isRead
  rw [same]
  rfl

theorem Follows.bind {next : α → Reader γ} {next' : β → Reader δ}
    (first : Follows image reader other)
    (second : ∀ value, Follows result (next value) (next' (image value))) :
    Follows result (reader >>= next) (other >>= next') := by
  intro data value rest isRead
  obtain ⟨between, left, isFirst, isSecond⟩ := run_bind_eq_some.mp isRead
  rw [run_bind_of (first isFirst)]
  exact second between isSecond

theorem Follows.failure {reader' : Reader δ} : Follows result failure reader' := by
  intro data value rest read
  cases read

theorem Follows.ite {condition condition' : Prop} [Decidable condition] [Decidable condition']
    {reader₁ reader₂ : Reader γ} {other₁ other₂ : Reader δ} (same : condition ↔ condition')
    (positive : condition → Follows result reader₁ other₁)
    (negative : ¬ condition → Follows result reader₂ other₂) :
    Follows result (if condition then reader₁ else reader₂)
      (if condition' then other₁ else other₂) := by
  by_cases holds : condition
  · rw [if_pos holds, if_pos (same.mp holds)]
    exact positive holds
  · rw [if_neg holds, if_neg fun holds' => holds (same.mpr holds')]
    exact negative holds

theorem Follows.replicate (follows : Follows image reader other) (count : ℕ) :
    Follows (List.map image) (replicate reader count) (replicate other count) := by
  induction count with
  | zero => exact .pure rfl
  | succ count ih => exact follows.bind fun value => ih.bind fun values => .pure rfl

end Follows

end Reader

end Evm
