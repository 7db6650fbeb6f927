import Ckb.Packed.Basic

/-!
# The packed `Identify` table

`packed::Identify` is the molecule table `{ name: Bytes, flag: Uint64,
client_version: Bytes }`. A table is its total size, one offset per field, then
the fields. The builder writes exactly that layout, and the strict reader
check (`from_slice`, not the compatible one) accepts exactly the slices laid
out that way: a slice passes the check iff it is the builder's output for the
fields it holds.
-/

set_option autoImplicit false

namespace Ckb.Packed

/-- `packed::IdentifyBuilder`: the table's three fields, each already packed. -/
structure IdentifyBuilder where
  name : Bytes
  flag : Bytes
  clientVersion : Bytes

/-- `Identify::FIELD_COUNT`. -/
def identifyFieldCount : Nat := 3

/-- Modelled from the spec: `IdentifyBuilder::build().as_bytes()`, generated
code that is not under `src/`. The "length-tagged binary format" is the
molecule table layout: total size, the three field offsets, then the fields,
every size and offset written `as u32`. -/
def IdentifyBuilder.build (builder : IdentifyBuilder) : Bytes :=
  let nameOffset := numberSize * (identifyFieldCount + 1)
  let flagOffset := nameOffset + builder.name.length
  let clientVersionOffset := flagOffset + builder.flag.length
  let totalSize := clientVersionOffset + builder.clientVersion.length
  packNumber totalSize ++ packNumber nameOffset ++ packNumber flagOffset ++
    packNumber clientVersionOffset ++ builder.name ++ builder.flag ++ builder.clientVersion

/-- `slice[4..].chunks(4).take(count).map(unpack_number)`: the header offsets. -/
def readOffsets (bytes : Bytes) : Nat → List Nat
  | 0 => []
  | count + 1 => unpackNumber bytes :: readOffsets (bytes.drop numberSize) count

/-- Modelled from the spec: `IdentifyReader::verify(slice, false)`, the check
behind `IdentifyReader::from_slice`, generated code that is not under `src/`.
The header must be consistent (total size, exactly three offsets, offsets in
order) and each field must pass its own check. -/
def IdentifyReader.verify (slice : Bytes) : Bool :=
  let sliceLen := slice.length
  if sliceLen < numberSize then false else
  let totalSize := unpackNumber slice
  if sliceLen ≠ totalSize then false else
  if sliceLen < numberSize * 2 then false else
  let offsetFirst := unpackNumber (slice.drop numberSize)
  if offsetFirst % numberSize ≠ 0 ∨ offsetFirst < numberSize * 2 then false else
  let fieldCount := offsetFirst / numberSize - 1
  if fieldCount < identifyFieldCount then false else
  if fieldCount > identifyFieldCount then false else
  if sliceLen < numberSize * (fieldCount + 1) then false else
  let offsets := readOffsets (slice.drop numberSize) fieldCount ++ [totalSize]
  if (offsets.zip offsets.tail).any (fun pair => pair.1 > pair.2) then false else
  match offsets with
  | [nameStart, flagStart, clientVersionStart, stop] =>
      bytesVerify (subslice slice nameStart flagStart) &&
        uint64Verify (subslice slice flagStart clientVersionStart) &&
        bytesVerify (subslice slice clientVersionStart stop)
  | _ => false

/-- `packed::IdentifyReader`: a slice the table check accepted. -/
structure IdentifyReader where
  slice : Bytes

/-- `IdentifyReader::from_slice(data).ok()`. -/
def IdentifyReader.fromSlice (slice : Bytes) : Option IdentifyReader :=
  if IdentifyReader.verify slice then some ⟨slice⟩ else none

/-- `IdentifyReader::name`: the slice between the first two offsets. -/
def IdentifyReader.name (reader : IdentifyReader) : Bytes :=
  subslice reader.slice (unpackNumber (reader.slice.drop 4)) (unpackNumber (reader.slice.drop 8))

/-- `IdentifyReader::flag`: the slice between the second and third offsets. -/
def IdentifyReader.flag (reader : IdentifyReader) : Bytes :=
  subslice reader.slice (unpackNumber (reader.slice.drop 8)) (unpackNumber (reader.slice.drop 12))

/-- `IdentifyReader::client_version`: the last field runs to the end of the slice. -/
def IdentifyReader.clientVersion (reader : IdentifyReader) : Bytes :=
  reader.slice.drop (unpackNumber (reader.slice.drop 12))

/-! ## Slices of concatenations -/

private theorem subslice_middle (pre mid post : Bytes) :
    subslice (pre ++ (mid ++ post)) pre.length (pre.length + mid.length) = mid := by
  simp [subslice, List.take_append_eq_append_take, List.take_of_length_le, List.drop_left']

private theorem drop_eq_subslice_append {slice : Bytes} {start stop : Nat}
    (ordered : start ≤ stop) (inside : stop ≤ slice.length) :
    slice.drop start = subslice slice start stop ++ slice.drop stop := by
  conv_lhs => rw [← List.take_append_drop stop slice]
  rw [List.drop_append_of_le_length (by rw [List.length_take]; exact le_min ordered (ordered.trans inside)), subslice]

private theorem length_subslice {slice : Bytes} {start stop : Nat} (inside : stop ≤ slice.length) :
    (subslice slice start stop).length = stop - start := by
  simp [subslice, Nat.min_eq_left inside]

/-- A slice of at least four bytes is the number it starts with, then the rest. -/
private theorem eq_packNumber_append {slice : Bytes} (long : numberSize ≤ slice.length) :
    slice = packNumber (unpackNumber slice) ++ slice.drop numberSize := by
  rw [packNumber_unpackNumber long, List.take_append_drop]

/-! ## The builder's layout -/

section Layout

variable (name flag clientVersion : Bytes)

/-- The sixteen header bytes the builder writes for these fields. -/
private def header : Bytes :=
  packNumber (16 + name.length + flag.length + clientVersion.length) ++
    (packNumber 16 ++ (packNumber (16 + name.length) ++ packNumber (16 + name.length + flag.length)))

@[simp] private theorem length_header : (header name flag clientVersion).length = 16 := by
  simp [header, numberSize]

private theorem build_eq :
    IdentifyBuilder.build ⟨name, flag, clientVersion⟩ =
      header name flag clientVersion ++ (name ++ (flag ++ clientVersion)) := by
  simp [IdentifyBuilder.build, header, identifyFieldCount, numberSize]

theorem length_build :
    (IdentifyBuilder.build ⟨name, flag, clientVersion⟩).length =
      16 + name.length + flag.length + clientVersion.length := by
  rw [build_eq]; simp; omega

/-- The three field slices of the builder's output are the fields. -/
private theorem build_fields :
    subslice (IdentifyBuilder.build ⟨name, flag, clientVersion⟩) 16 (16 + name.length) = name ∧
      subslice (IdentifyBuilder.build ⟨name, flag, clientVersion⟩) (16 + name.length)
        (16 + name.length + flag.length) = flag ∧
      (IdentifyBuilder.build ⟨name, flag, clientVersion⟩).drop (16 + name.length + flag.length) =
        clientVersion := by
  have nameSlice := subslice_middle (header name flag clientVersion) name (flag ++ clientVersion)
  have flagSlice := subslice_middle (header name flag clientVersion ++ name) flag clientVersion
  simp only [length_header, List.length_append, List.append_assoc] at nameSlice flagSlice
  refine ⟨by rw [build_eq]; exact nameSlice, by rw [build_eq]; exact flagSlice, ?_⟩
  rw [build_eq, ← List.append_assoc, ← List.append_assoc]
  exact List.drop_left' (by simp [Nat.add_assoc])

variable {name flag clientVersion}

/-- With every size below `2 ^ 32`, the header numbers read back as written. -/
private theorem unpack_build_header
    (fits : 16 + name.length + flag.length + clientVersion.length < 2 ^ 32) :
    unpackNumber (IdentifyBuilder.build ⟨name, flag, clientVersion⟩) =
        16 + name.length + flag.length + clientVersion.length ∧
      unpackNumber ((IdentifyBuilder.build ⟨name, flag, clientVersion⟩).drop 4) = 16 ∧
      unpackNumber ((IdentifyBuilder.build ⟨name, flag, clientVersion⟩).drop 8) =
        16 + name.length ∧
      unpackNumber ((IdentifyBuilder.build ⟨name, flag, clientVersion⟩).drop 12) =
        16 + name.length + flag.length := by
  have skip : ∀ (value : Nat) (rest : Bytes), (packNumber value ++ rest).drop 4 = rest :=
    fun _ _ => List.drop_left' (by simp [numberSize])
  simp only [build_eq, header, List.append_assoc, show 8 = 4 + 4 from rfl,
    show 12 = 4 + 4 + 4 from rfl, ← List.drop_drop, skip]
  have read : ∀ (value : Nat) (rest : Bytes), value < 2 ^ 32 → unpackNumber (packNumber value ++ rest) = value :=
    fun value rest fits => (unpackNumber_packNumber_append value rest).trans (Nat.mod_eq_of_lt fits)
  exact ⟨read _ _ fits, read _ _ (by omega), read _ _ (by omega), read _ _ (by omega)⟩

end Layout

private theorem readOffsets_three (bytes : Bytes) :
    readOffsets bytes 3 =
      [unpackNumber bytes, unpackNumber (bytes.drop 4), unpackNumber (bytes.drop 8)] := by
  simp [readOffsets, List.drop_drop, numberSize]

/-! ## The table check -/

/-- The builder's output passes the table check whenever its fields pass theirs
and the total size fits the `u32` header. -/
theorem verify_build {name flag clientVersion : Bytes}
    (fits : 16 + name.length + flag.length + clientVersion.length < 2 ^ 32)
    (nameValid : bytesVerify name = true) (flagValid : uint64Verify flag = true)
    (clientVersionValid : bytesVerify clientVersion = true) :
    IdentifyReader.verify (IdentifyBuilder.build ⟨name, flag, clientVersion⟩) = true := by
  obtain ⟨total, first, second, third⟩ := unpack_build_header fits
  obtain ⟨nameSlice, flagSlice, clientVersionSlice⟩ := build_fields name flag clientVersion
  have lastSlice : subslice (IdentifyBuilder.build ⟨name, flag, clientVersion⟩)
      (16 + name.length + flag.length) (16 + name.length + flag.length + clientVersion.length) =
        clientVersion := by
    rw [subslice, ← length_build, List.take_length, clientVersionSlice]
  simp only [IdentifyReader.verify, length_build, total, first, numberSize, identifyFieldCount,
    show 16 / 4 - 1 = 3 from rfl, readOffsets_three, List.drop_drop, second, third,
    List.cons_append, List.nil_append, nameSlice, flagSlice, lastSlice, nameValid, flagValid,
    clientVersionValid]
  simp
  omega

/-- Every slice the table check accepts is the builder's output for the three
field slices the reader returns, and each of them passes its own check. -/
theorem build_of_verify {slice : Bytes} (verified : IdentifyReader.verify slice = true) :
    slice = IdentifyBuilder.build ⟨(IdentifyReader.mk slice).name, (IdentifyReader.mk slice).flag,
        (IdentifyReader.mk slice).clientVersion⟩ ∧
      bytesVerify (IdentifyReader.mk slice).name = true ∧
      uint64Verify (IdentifyReader.mk slice).flag = true ∧
      bytesVerify (IdentifyReader.mk slice).clientVersion = true := by
  unfold IdentifyReader.verify at verified
  simp only [numberSize, identifyFieldCount, Bool.if_false_left, Bool.and_eq_true, Bool.not_eq_true',
    decide_eq_false_iff_not] at verified
  obtain ⟨short, sized, small, misaligned, few, many, headerless, descending, verified⟩ := verified
  have three : unpackNumber (slice.drop 4) / 4 - 1 = 3 := by omega
  have firstOffset : unpackNumber (slice.drop 4) = 16 := by omega
  rw [three] at descending verified
  simp only [readOffsets_three, List.drop_drop, Nat.reduceAdd, List.cons_append, List.nil_append,
    Bool.and_eq_true] at descending verified
  simp only [List.tail_cons, List.zip_cons_cons, List.zip_nil_right, List.any_cons,
    List.any_nil, Bool.or_false, Bool.or_eq_true, decide_eq_true_eq, not_or, not_lt] at descending
  obtain ⟨⟨nameValid, flagValid⟩, clientVersionValid⟩ := verified
  obtain ⟨nameOrdered, flagOrdered, lastOrdered⟩ := descending
  have length : slice.length = unpackNumber slice := by omega
  have lastSlice : subslice slice (unpackNumber (slice.drop 12)) (unpackNumber slice) =
      slice.drop (unpackNumber (slice.drop 12)) := by
    rw [subslice, ← length, List.take_length]
  simp only [IdentifyReader.name, IdentifyReader.flag, IdentifyReader.clientVersion, ← lastSlice]
  refine ⟨?_, nameValid, flagValid, clientVersionValid⟩
  have number : ∀ start next, next = start + 4 → next ≤ slice.length →
      slice.drop start = packNumber (unpackNumber (slice.drop start)) ++ slice.drop next := by
    intro start next step room
    have split := @eq_packNumber_append (slice.drop start) (by simp [numberSize]; omega)
    rwa [List.drop_drop, show start + numberSize = next from step.symm] at split
  have fields : slice.drop 16 = subslice slice 16 (unpackNumber (slice.drop 8)) ++
      (subslice slice (unpackNumber (slice.drop 8)) (unpackNumber (slice.drop 12)) ++
        subslice slice (unpackNumber (slice.drop 12)) (unpackNumber slice)) := by
    rw [@drop_eq_subslice_append slice 16 (unpackNumber (slice.drop 8)) (by omega) (by omega),
      @drop_eq_subslice_append slice (unpackNumber (slice.drop 8)) (unpackNumber (slice.drop 12))
        (by omega) (by omega),
      @drop_eq_subslice_append slice (unpackNumber (slice.drop 12)) (unpackNumber slice)
        (by omega) (by omega), ← length, List.drop_length, List.append_nil]
  have whole := List.drop_zero slice
  rw [number 0 4 rfl (by omega), number 4 8 rfl (by omega), number 8 12 rfl (by omega),
    number 12 16 rfl (by omega), List.drop_zero, fields] at whole
  refine whole.symm.trans ?_
  rw [build_eq, header, length_subslice (by omega), length_subslice (by omega),
    length_subslice (by omega), firstOffset]
  have nameEnd : 16 + (unpackNumber (slice.drop 8) - 16) = unpackNumber (slice.drop 8) := by omega
  have flagEnd : unpackNumber (slice.drop 8) +
      (unpackNumber (slice.drop 12) - unpackNumber (slice.drop 8)) = unpackNumber (slice.drop 12) := by
    omega
  have lastEnd : unpackNumber (slice.drop 12) + (unpackNumber slice - unpackNumber (slice.drop 12)) =
      unpackNumber slice := by
    omega
  simp only [List.append_assoc, nameEnd, flagEnd, lastEnd]

section Fields

variable {name flag clientVersion : Bytes}

/-- The reader's accessors return the fields the builder was given. -/
theorem fields_build (fits : 16 + name.length + flag.length + clientVersion.length < 2 ^ 32) :
    (IdentifyReader.mk (IdentifyBuilder.build ⟨name, flag, clientVersion⟩)).name = name ∧
      (IdentifyReader.mk (IdentifyBuilder.build ⟨name, flag, clientVersion⟩)).flag = flag ∧
      (IdentifyReader.mk (IdentifyBuilder.build ⟨name, flag, clientVersion⟩)).clientVersion =
        clientVersion := by
  obtain ⟨-, first, second, third⟩ := unpack_build_header fits
  obtain ⟨nameSlice, flagSlice, clientVersionSlice⟩ := build_fields name flag clientVersion
  simp only [IdentifyReader.name, IdentifyReader.flag, IdentifyReader.clientVersion, first, second,
    third]
  exact ⟨nameSlice, flagSlice, clientVersionSlice⟩

/-- A table whose size does not fit the `u32` header fails the check: the
written total size is the true one modulo `2 ^ 32`. -/
theorem verify_build_of_too_long
    (tooLong : 2 ^ 32 ≤ 16 + name.length + flag.length + clientVersion.length) :
    IdentifyReader.verify (IdentifyBuilder.build ⟨name, flag, clientVersion⟩) = false := by
  have total : unpackNumber (IdentifyBuilder.build ⟨name, flag, clientVersion⟩) =
      (16 + name.length + flag.length + clientVersion.length) % 2 ^ 32 := by
    rw [build_eq, header, List.append_assoc, unpackNumber_packNumber_append]
  have differs : (IdentifyBuilder.build ⟨name, flag, clientVersion⟩).length ≠
      unpackNumber (IdentifyBuilder.build ⟨name, flag, clientVersion⟩) := by
    rw [length_build, total]
    have := Nat.mod_lt (16 + name.length + flag.length + clientVersion.length)
      (show 0 < 2 ^ 32 by decide)
    omega
  unfold IdentifyReader.verify
  dsimp only
  rw [if_neg (by rw [length_build]; simp only [numberSize]; omega), if_pos differs]

end Fields

end Ckb.Packed
