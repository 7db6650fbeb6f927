import Mathlib.Algebra.Group.Nat.Basic
import Mathlib.Data.List.Basic

/-!
# Molecule primitives

The byte-level pieces of the molecule serialization that `ckb_types::packed`
is generated from: little-endian numbers, `Uint64`, the `Bytes` fixvec, and
UTF-8 text as `str::from_utf8` accepts it. Lengths are written `as u32`, so
every number field keeps its value modulo `2 ^ 32`.
-/

set_option autoImplicit false

namespace Ckb.Packed

/-- A byte string: `&[u8]`, `Bytes`, `Vec<u8>`. -/
abbrev Bytes := List UInt8

/-! ## Little-endian numbers -/

/-- The `width` little-endian bytes of `value`. Only `value % 256 ^ width` is
kept, as a `to_le_bytes` after an `as` cast keeps it. -/
def packLe : Nat → Nat → Bytes
  | 0, _ => []
  | width + 1, value => UInt8.ofNat value :: packLe width (value / 256)

/-- The number whose little-endian bytes are `bytes`. -/
def unpackLe : Bytes → Nat
  | [] => 0
  | byte :: rest => byte.toNat + 256 * unpackLe rest

@[simp] theorem length_packLe (width value : Nat) : (packLe width value).length = width := by
  induction width generalizing value with
  | zero => rfl
  | succ width ih => simp [packLe, ih]

theorem toNat_uint8_ofNat (value : Nat) : (UInt8.ofNat value).toNat = value % 256 := rfl

theorem toNat_uint64_ofNat (value : Nat) : (UInt64.ofNat value).toNat = value % 256 ^ 8 := rfl

theorem unpackLe_packLe (width value : Nat) :
    unpackLe (packLe width value) = value % 256 ^ width := by
  induction width generalizing value with
  | zero => simp [packLe, unpackLe, Nat.mod_one]
  | succ width ih =>
      rw [packLe, unpackLe, ih, toNat_uint8_ofNat, Nat.pow_succ, Nat.mul_comm _ 256, Nat.mod_mul]

theorem packLe_unpackLe (bytes : Bytes) : packLe bytes.length (unpackLe bytes) = bytes := by
  induction bytes with
  | nil => rfl
  | cons byte rest ih =>
      have low : (byte.toNat + 256 * unpackLe rest) % 256 = byte.toNat := by
        have : byte.toNat < 256 := byte.toNat_lt_size; omega
      have high : (byte.toNat + 256 * unpackLe rest) / 256 = unpackLe rest := by
        have : byte.toNat < 256 := byte.toNat_lt_size; omega
      simp only [List.length_cons, packLe, unpackLe, high, ih, List.cons.injEq, and_true]
      exact UInt8.toNat.inj (by rw [toNat_uint8_ofNat, low])

theorem unpackLe_lt (bytes : Bytes) : unpackLe bytes < 256 ^ bytes.length := by
  induction bytes with
  | nil => simp [unpackLe]
  | cons byte rest ih =>
      have : byte.toNat < 256 := byte.toNat_lt_size
      simp only [unpackLe, List.length_cons, Nat.pow_succ]
      omega

/-! ## Numbers and `Uint64` -/

/-- `molecule::NUMBER_SIZE`: every header number is a `u32`. -/
def numberSize : Nat := 4

/-- `molecule::pack_number(n as Number)`. -/
def packNumber (value : Nat) : Bytes := packLe numberSize value

/-- `molecule::unpack_number`: the little-endian `u32` at the front of a slice. -/
def unpackNumber (slice : Bytes) : Nat := unpackLe (slice.take numberSize)

@[simp] theorem length_packNumber (value : Nat) : (packNumber value).length = numberSize :=
  length_packLe _ _

theorem numberSize_range : 256 ^ numberSize = 2 ^ 32 := rfl

theorem unpackNumber_packNumber_append (value : Nat) (rest : Bytes) :
    unpackNumber (packNumber value ++ rest) = value % 2 ^ 32 := by
  simp only [unpackNumber, packNumber]
  rw [List.take_append_of_le_length (by simp), List.take_of_length_le (by simp), unpackLe_packLe,
    numberSize_range]

/-- The first four bytes of a slice are the packed form of the number they hold. -/
theorem packNumber_unpackNumber {slice : Bytes} (long : numberSize ≤ slice.length) :
    packNumber (unpackNumber slice) = slice.take numberSize := by
  have width : (slice.take numberSize).length = numberSize := List.length_take_of_le long
  have repacked := packLe_unpackLe (slice.take numberSize)
  rwa [width] at repacked

/-- `u64::pack`: the eight little-endian bytes of a `Uint64` field. -/
def packUint64 (value : UInt64) : Bytes := packLe 8 value.toNat

/-- `Uint64Reader::unpack`. -/
def unpackUint64 (slice : Bytes) : UInt64 := UInt64.ofNat (unpackLe (slice.take 8))

/-- `Uint64Reader::verify`: a `Uint64` is exactly eight bytes. -/
def uint64Verify (slice : Bytes) : Bool := slice.length == 8

@[simp] theorem length_packUint64 (value : UInt64) : (packUint64 value).length = 8 :=
  length_packLe _ _

theorem unpackUint64_packUint64 (value : UInt64) : unpackUint64 (packUint64 value) = value := by
  have fits : value.toNat < 256 ^ 8 := value.toNat_lt_size
  rw [unpackUint64, List.take_of_length_le (by simp), packUint64, unpackLe_packLe,
    Nat.mod_eq_of_lt fits]
  exact UInt64.toNat.inj (by rw [toNat_uint64_ofNat, Nat.mod_eq_of_lt fits])

theorem packUint64_unpackUint64 {slice : Bytes} (eight : slice.length = 8) :
    packUint64 (unpackUint64 slice) = slice := by
  have fits : unpackLe slice < 256 ^ 8 := eight ▸ unpackLe_lt slice
  have value : (unpackUint64 slice).toNat = unpackLe slice := by
    rw [unpackUint64, List.take_of_length_le (le_of_eq eight), toNat_uint64_ofNat, Nat.mod_eq_of_lt fits]
  rw [packUint64, value, ← eight]
  exact packLe_unpackLe slice

/-! ## The `Bytes` fixvec -/

/-- `impl Pack<packed::Bytes> for [u8]`: the item count `len as u32`, then the items. -/
def packBytes (data : Bytes) : Bytes := packNumber data.length ++ data

/-- `BytesReader::verify`: a count, then exactly that many one-byte items. -/
def bytesVerify (slice : Bytes) : Bool :=
  if slice.length < numberSize then false
  else
    let itemCount := unpackNumber slice
    if itemCount = 0 then slice.length == numberSize
    else slice.length == numberSize + itemCount

/-- `BytesReader::raw_data`: the items after the count. -/
def rawData (slice : Bytes) : Bytes := slice.drop numberSize

@[simp] theorem length_packBytes (data : Bytes) :
    (packBytes data).length = numberSize + data.length := by
  simp [packBytes]

@[simp] theorem rawData_packBytes (data : Bytes) : rawData (packBytes data) = data := by
  simp [rawData, packBytes, List.drop_left']

theorem bytesVerify_iff (slice : Bytes) :
    bytesVerify slice = true ↔
      numberSize ≤ slice.length ∧ slice.length = numberSize + unpackNumber slice := by
  unfold bytesVerify
  dsimp only
  split
  · simp only [Bool.false_eq_true, false_iff, not_and]; omega
  · split <;> simp_all

theorem bytesVerify_packBytes {data : Bytes} (fits : data.length < 2 ^ 32) :
    bytesVerify (packBytes data) = true := by
  rw [bytesVerify_iff, length_packBytes, packBytes, unpackNumber_packNumber_append,
    Nat.mod_eq_of_lt fits]
  simp

/-- A slice the fixvec check accepts is the packed form of its items. -/
theorem packBytes_rawData {slice : Bytes} (verified : bytesVerify slice = true) :
    packBytes (rawData slice) = slice := by
  obtain ⟨long, size⟩ := (bytesVerify_iff slice).mp verified
  have count : (rawData slice).length = unpackNumber slice := by
    simp only [rawData, List.length_drop]; omega
  rw [packBytes, count, packNumber_unpackNumber long, rawData, List.take_append_drop]

/-- `slice[start..stop]`. -/
def subslice (slice : Bytes) (start stop : Nat) : Bytes := (slice.take stop).drop start

/-! ## UTF-8 text -/

/-- `core::str::utf8_char_width`: how many bytes the character led by `first`
takes, `0` for a byte that cannot lead one. -/
def utf8CharWidth (first : UInt8) : Nat :=
  if first < 0x80 then 1
  else if first < 0xC2 then 0
  else if first < 0xE0 then 2
  else if first < 0xF0 then 3
  else if first < 0xF5 then 4
  else 0

/-- A continuation byte, `next as i8 < -64`. -/
def isContinuation (byte : UInt8) : Bool := 0x80 ≤ byte && byte < 0xC0

/-- The allowed second bytes of a three-byte character: no overlong forms and
no surrogates. -/
def secondOfThree (first second : UInt8) : Bool :=
  (first == 0xE0 && 0xA0 ≤ second && second ≤ 0xBF) ||
  (0xE1 ≤ first && first ≤ 0xEC && isContinuation second) ||
  (first == 0xED && 0x80 ≤ second && second ≤ 0x9F) ||
  (0xEE ≤ first && first ≤ 0xEF && isContinuation second)

/-- The allowed second bytes of a four-byte character: no overlong forms and
nothing above `U+10FFFF`. -/
def secondOfFour (first second : UInt8) : Bool :=
  (first == 0xF0 && 0x90 ≤ second && second ≤ 0xBF) ||
  (0xF1 ≤ first && first ≤ 0xF3 && isContinuation second) ||
  (first == 0xF4 && 0x80 ≤ second && second ≤ 0x8F)

/-- `core::str::run_utf8_validation`: whether `str::from_utf8` accepts the bytes. -/
def utf8Valid : Bytes → Bool
  | [] => true
  | first :: rest =>
      match utf8CharWidth first, rest with
      | 1, rest => utf8Valid rest
      | 2, second :: rest => isContinuation second && utf8Valid rest
      | 3, second :: third :: rest =>
          secondOfThree first second && isContinuation third && utf8Valid rest
      | 4, second :: third :: fourth :: rest =>
          secondOfFour first second && isContinuation third && isContinuation fourth &&
            utf8Valid rest
      | _, _ => false

/-- A Rust `String`: bytes that are valid UTF-8, which `String` guarantees. -/
structure RustString where
  bytes : Bytes
  utf8 : utf8Valid bytes = true
deriving DecidableEq

/-- `str::from_utf8(raw).ok()`: the bytes as text when they are valid UTF-8. -/
def asUtf8 (raw : Bytes) : Option RustString :=
  if valid : utf8Valid raw = true then some ⟨raw, valid⟩ else none

@[simp] theorem asUtf8_bytes (text : RustString) : asUtf8 text.bytes = some text := by
  simp [asUtf8, text.utf8]

theorem bytes_of_asUtf8 {raw : Bytes} {text : RustString} (decoded : asUtf8 raw = some text) :
    text.bytes = raw := by
  unfold asUtf8 at decoded
  split at decoded
  · cases decoded; rfl
  · cases decoded

end Ckb.Packed
