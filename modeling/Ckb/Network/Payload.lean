import Ckb.Packed.Identify

/-!
# The identify payload

The local identity (`Identify`: network name, capability flags, client
version) and its wire form, the packed `Identify` table. `encode` fills a
cache on first use; `verify` reads a peer's table and accepts it only when the
network name is ours and the flags are not zero.
-/

set_option autoImplicit false

namespace Ckb.Network

open Ckb.Packed

/-! ## Flags -/

/-- `enum Flag`: the one capability bit the node defines. -/
inductive Flag where
  | fullNode
deriving DecidableEq, Repr

/-- `Flag as u64`. -/
def Flag.toU64 : Flag → UInt64
  | .fullNode => 0x1

/-- `struct Flags(u64)`: a capability bitset. -/
structure Flags where
  bits : UInt64
deriving DecidableEq, Repr

/-- `impl From<Flag> for Flags`. -/
def Flags.ofFlag (flag : Flag) : Flags := ⟨flag.toU64⟩

/-- `Flags::contains`: every bit set in `flags` is set in `self`. -/
def Flags.contains (self flags : Flags) : Bool := (self.bits &&& flags.bits) == flags.bits

/-- `contains` is the bitwise subset test, for every pair of flag words. -/
theorem Flags.contains_iff (self flags : Flags) :
    self.contains flags = true ↔
      ∀ i, flags.bits.toNat.testBit i = true → self.bits.toNat.testBit i = true := by
  rw [Flags.contains, beq_iff_eq]
  constructor
  · intro covered i set
    have bit := congrArg (fun word : UInt64 => word.toNat.testBit i) covered
    simpa only [UInt64.and_toNat, Nat.testBit_and, set, Bool.and_true] using bit
  · intro covered
    refine UInt64.toNat.inj (Nat.eq_of_testBit_eq fun i => ?_)
    rw [UInt64.and_toNat, Nat.testBit_and]
    cases set : flags.bits.toNat.testBit i
    · exact Bool.and_false _
    · rw [covered i set, Bool.and_self]

/-! ## The local identity -/

/-- The builder chain of `Identify::encode`: the packed table of a name, the
flag word and a client version. -/
def packIdentify (name : RustString) (flags : Flags) (clientVersion : RustString) : Bytes :=
  IdentifyBuilder.build ⟨packBytes name.bytes, packUint64 flags.bits, packBytes clientVersion.bytes⟩

/-- `struct Identify`. Its fields are private to the module: `Identify::new`
leaves the cache `encode_data` empty and only `encode` writes it, with the
packed table, so every value has an empty cache or exactly that table. -/
structure Identify where
  name : RustString
  clientVersion : RustString
  flags : Flags
  encodeData : Bytes
  encodeData_cached : encodeData = [] ∨ encodeData = packIdentify name flags clientVersion

/-- `Identify::new`. -/
def Identify.new (name : RustString) (flags : Flags) (clientVersion : RustString) : Identify :=
  ⟨name, clientVersion, flags, [], .inl rfl⟩

/-- `Identify::encode(&mut self) -> &[u8]`: build the table on the first call
and keep it; return the cache. -/
def Identify.encode (self : Identify) : Identify × Bytes :=
  if self.encodeData.isEmpty then
    let data := packIdentify self.name self.flags self.clientVersion
    ({ self with encodeData := data, encodeData_cached := .inr rfl }, data)
  else (self, self.encodeData)

/-- `Identify::verify`: read a peer's packed table. `None` when it is
malformed, names another network, has a zero flag word or a client version
that is not UTF-8. -/
def Identify.verify (self : Identify) (data : Bytes) : Option (Flags × RustString) := do
  let reader ← IdentifyReader.fromSlice data
  let name ← asUtf8 (rawData reader.name)
  if self.name ≠ name then none else
  let flag := unpackUint64 reader.flag
  if flag = 0 then none else
  let rawClientVersion ← asUtf8 (rawData reader.clientVersion)
  some (⟨flag⟩, rawClientVersion)

/-! ## The encoding cache -/

section Encode

variable (identify : Identify)

@[simp] theorem Identify.encode_name : identify.encode.1.name = identify.name := by
  unfold Identify.encode; split <;> rfl

@[simp] theorem Identify.encode_flags : identify.encode.1.flags = identify.flags := by
  unfold Identify.encode; split <;> rfl

@[simp] theorem Identify.encode_clientVersion :
    identify.encode.1.clientVersion = identify.clientVersion := by
  unfold Identify.encode; split <;> rfl

/-- Whatever the cache holds, `encode` returns the packed table. -/
theorem Identify.encode_bytes :
    identify.encode.2 = packIdentify identify.name identify.flags identify.clientVersion := by
  unfold Identify.encode
  split
  · rfl
  · rename_i nonempty
    rcases identify.encodeData_cached with empty | cached
    · simp [empty] at nonempty
    · exact cached

/-- Every later call of `encode` returns the same table as a fresh build. -/
theorem Identify.encode_iterate_bytes (calls : Nat) :
    ((fun current : Identify => current.encode.1)^[calls] identify).encode.2 =
      packIdentify identify.name identify.flags identify.clientVersion := by
  induction calls generalizing identify with
  | zero => exact Identify.encode_bytes identify
  | succ calls ih =>
      rw [Function.iterate_succ_apply, ih, Identify.encode_name, Identify.encode_flags,
        Identify.encode_clientVersion]

end Encode

/-! ## Reading a peer's table -/

section Verify

variable {self : Identify} {data : Bytes} {flags : Flags} {clientVersion : RustString}

/-- What an accepted payload says about its bytes: the table check passed, the
name field is our name, the flag word is the returned, nonzero flags, and the
client version field is the returned text. -/
theorem Identify.verify_eq_some (verified : self.verify data = some (flags, clientVersion)) :
    IdentifyReader.verify data = true ∧
      rawData (IdentifyReader.mk data).name = self.name.bytes ∧
      unpackUint64 (IdentifyReader.mk data).flag = flags.bits ∧ flags.bits ≠ 0 ∧
      rawData (IdentifyReader.mk data).clientVersion = clientVersion.bytes := by
  unfold Identify.verify IdentifyReader.fromSlice at verified
  split at verified
  · rename_i checked
    simp only [Option.bind_eq_bind, Option.some_bind] at verified
    obtain ⟨name, decodedName, named⟩ := Option.bind_eq_some.mp verified
    split at named
    · cases named
    split at named
    · cases named
    rename_i sameName nonzero
    obtain ⟨raw, decodedVersion, result⟩ := Option.bind_eq_some.mp named
    simp only [Option.some.injEq, Prod.mk.injEq] at result
    obtain ⟨rfl, rfl⟩ := result
    refine ⟨checked, ?_, rfl, ?_, (bytes_of_asUtf8 decodedVersion).symm⟩
    · rw [not_not.mp sameName, bytes_of_asUtf8 decodedName]
    · exact nonzero
  · simp at verified

/-- An accepted payload is exactly the packed table of our name, the returned
flags and the returned client version. -/
theorem Identify.eq_packIdentify_of_verify
    (verified : self.verify data = some (flags, clientVersion)) :
    data = packIdentify self.name flags clientVersion := by
  obtain ⟨checked, name, flag, -, version⟩ := Identify.verify_eq_some verified
  obtain ⟨layout, nameValid, flagValid, versionValid⟩ := build_of_verify checked
  rw [layout, packIdentify, ← name, ← flag, ← version, packBytes_rawData nameValid,
    packBytes_rawData versionValid, packUint64_unpackUint64 (by simpa [uint64Verify] using flagValid)]

end Verify

section RoundTrip

variable (self : Identify) (name : RustString) (flags : Flags) (clientVersion : RustString)

/-- Within the `u32` size limit a packed table reads back: it is accepted iff it
names our network and its flags are not zero, and then its fields come back. -/
theorem Identify.verify_packIdentify
    (fits : name.bytes.length + clientVersion.bytes.length + 32 < 2 ^ 32) :
    self.verify (packIdentify name flags clientVersion) =
      if self.name = name ∧ flags.bits ≠ 0 then some (flags, clientVersion) else none := by
  have tableFits : 16 + (packBytes name.bytes).length + (packUint64 flags.bits).length +
      (packBytes clientVersion.bytes).length < 2 ^ 32 := by
    simp only [length_packBytes, length_packUint64, numberSize]; omega
  have checked : IdentifyReader.verify (packIdentify name flags clientVersion) = true :=
    verify_build tableFits (bytesVerify_packBytes (by omega)) (by simp [uint64Verify])
      (bytesVerify_packBytes (by omega))
  obtain ⟨nameField, flagField, versionField⟩ := fields_build tableFits
  rw [packIdentify] at checked ⊢
  simp only [Identify.verify, IdentifyReader.fromSlice, checked, if_true, Option.bind_eq_bind,
    Option.some_bind, nameField, flagField, versionField, rawData_packBytes, asUtf8_bytes,
    unpackUint64_packUint64]
  by_cases sameName : self.name = name <;> by_cases zero : flags.bits = 0 <;> simp [sameName, zero]

/-- Past the `u32` size limit the table's header is wrong and nothing is accepted. -/
theorem Identify.verify_packIdentify_of_too_long
    (tooLong : 2 ^ 32 ≤ name.bytes.length + clientVersion.bytes.length + 32) :
    self.verify (packIdentify name flags clientVersion) = none := by
  have rejected : IdentifyReader.verify (packIdentify name flags clientVersion) = false :=
    verify_build_of_too_long (by simp only [length_packBytes, length_packUint64, numberSize]; omega)
  simp [Identify.verify, IdentifyReader.fromSlice, rejected]

/-- A table that names another network or has zero flags is refused, whatever its size. -/
theorem Identify.verify_packIdentify_of_not_accepted
    (refused : ¬ (self.name = name ∧ flags.bits ≠ 0)) :
    self.verify (packIdentify name flags clientVersion) = none := by
  by_cases fits : name.bytes.length + clientVersion.bytes.length + 32 < 2 ^ 32
  · rw [Identify.verify_packIdentify self name flags clientVersion fits, if_neg refused]
  · exact Identify.verify_packIdentify_of_too_long self name flags clientVersion (by omega)

end RoundTrip

/-- The payload laws. `verify` undoes `encode` whenever the packed table fits
its `u32` header, and refuses a foreign name or zero flags at any size; an
accepted payload is the packed table of our name with the returned flags and
version; and every call of `encode` returns that same table. -/
theorem identify_verify_encode (self identify : Identify) :
    (identify.name.bytes.length + identify.clientVersion.bytes.length + 32 < 2 ^ 32 →
      self.verify identify.encode.2 =
        if identify.name = self.name ∧ identify.flags.bits ≠ 0 then
          some (identify.flags, identify.clientVersion)
        else none) ∧
    (¬ (identify.name = self.name ∧ identify.flags.bits ≠ 0) → self.verify identify.encode.2 = none) ∧
    (∀ (payload : Bytes) (flags : Flags) (clientVersion : RustString),
      self.verify payload = some (flags, clientVersion) →
        payload = packIdentify self.name flags clientVersion ∧
        IdentifyReader.verify payload = true ∧
        rawData (IdentifyReader.mk payload).name = self.name.bytes ∧
        unpackUint64 (IdentifyReader.mk payload).flag = flags.bits ∧ flags.bits ≠ 0 ∧
        rawData (IdentifyReader.mk payload).clientVersion = clientVersion.bytes) ∧
    (∀ calls : Nat, ((fun current : Identify => current.encode.1)^[calls] identify).encode.2 =
      packIdentify identify.name identify.flags identify.clientVersion) := by
  refine ⟨fun fits => ?_, fun refused => ?_, fun payload flags clientVersion verified =>
    ⟨Identify.eq_packIdentify_of_verify verified, Identify.verify_eq_some verified⟩,
    Identify.encode_iterate_bytes identify⟩
  · rw [Identify.encode_bytes, Identify.verify_packIdentify self _ _ _ fits]
    simp only [eq_comm]
  · rw [Identify.encode_bytes]
    exact Identify.verify_packIdentify_of_not_accepted self _ _ _ (by rwa [eq_comm])

private theorem utf8Valid_replicate_letter (count : Nat) :
    utf8Valid (List.replicate count 0x61) = true := by
  induction count with
  | zero => rfl
  -- a letter is one byte wide: the check goes on with the rest
  | succ count ih => exact ih

/-- A name of `2 ^ 32` letters: a valid `String`, too long for the `u32` header. -/
def overlongName : RustString := ⟨List.replicate (2 ^ 32) 0x61, utf8Valid_replicate_letter _⟩

/-- A full-node identity on a network with that name. -/
def overlongIdentify : Identify := Identify.new overlongName (Flags.ofFlag .fullNode) ⟨[], rfl⟩

theorem identify_verify_encode_overlong :
    overlongIdentify.name = overlongIdentify.name ∧ overlongIdentify.flags.bits ≠ 0 ∧
      overlongIdentify.verify overlongIdentify.encode.2 = none := by
  have long : overlongIdentify.name.bytes.length = 2 ^ 32 := List.length_replicate _ _
  refine ⟨rfl, by decide, ?_⟩
  rw [Identify.encode_bytes]
  exact Identify.verify_packIdentify_of_too_long _ _ _ _ (by omega)

end Ckb.Network
