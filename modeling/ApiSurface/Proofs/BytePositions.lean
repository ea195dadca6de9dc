import Mathlib.Tactic.SplitIfs
import ApiSurface.Signature

/-!
# Positions of bytes

A text is stored as the bytes of its encoding, and a reader knows how many of them it has passed.
The position stands before a character or within one. Bytes below 128 are characters themselves, so
marks are found byte by byte, and where a name is cut out of the text it is cut between characters.
-/

namespace ApiSurface.Signature

/-- The byte at a position, shown as the character of its code. -/
def byteAt (text : String) (position : Nat) : Option Char :=
  text.toByteArray.data[position]?.map Char.ofUInt8

/-- What stands between two positions, which have to be in order and before characters. -/
def slice? (text : String) (start stop : Nat) : Option String :=
  (Substring.Raw.mk text ⟨start⟩ ⟨stop⟩).toSlice?.map String.Slice.copy

/-- The position before a character, or at the end, behind which `rest` is left of a text. -/
def At (text : String) (position : Nat) (rest : List Char) : Prop :=
  ∃ before, text.toList = before ++ rest ∧ position = byteLength before

/-! ## Bytes of characters -/

/-- The bytes of a character, each shown as the character of its code. -/
def bytesOf (c : Char) : List Char := (String.utf8EncodeChar c).map Char.ofUInt8

section

variable {c mark : Char}

theorem length_bytesOf (c : Char) : (bytesOf c).length = c.utf8Size := by
  rw [bytesOf, List.length_map, String.length_utf8EncodeChar]

theorem toNat_ofUInt8 (byte : UInt8) : (Char.ofUInt8 byte).toNat = byte.toNat :=
  UInt8.toNat_toUInt32 byte

theorem ofUInt8_ofNat (n : Nat) : Char.ofUInt8 (UInt8.ofNat n) = Char.ofNat (n % 256) := by
  rw [← Char.ofNat_toNat (Char.ofUInt8 _), toNat_ofUInt8, UInt8.toNat_ofNat']

theorem bytesOf_ascii (h : c.toNat < 0x80) : bytesOf c = [c] := by
  have hmod : c.toNat % 256 = c.toNat := Nat.mod_eq_of_lt (by omega)
  rw [bytesOf, String.utf8EncodeChar, Char.toNat_val, if_pos (Nat.le_of_lt_succ h),
    List.map_singleton, ofUInt8_ofNat, hmod, Char.ofNat_toNat]

theorem utf8Size_ascii (h : c.toNat < 0x80) : c.utf8Size = 1 := by
  rw [← length_bytesOf, bytesOf_ascii h, List.length_singleton]

/-- The bytes of other characters are not below 128. -/
theorem le_toNat_of_mem_bytesOf (h : 0x80 ≤ c.toNat) : ∀ byte ∈ bytesOf c, 0x80 ≤ byte.toNat := by
  have hfirst : ¬ c.val.toNat ≤ 0x7f := by rw [Char.toNat_val]; omega
  unfold bytesOf String.utf8EncodeChar
  simp only [hfirst, if_false]
  split_ifs <;> simp [toNat_ofUInt8] <;> omega

/-- Each way to encode a character begins with the byte that is shown for it. -/
theorem head?_bytesOf (c : Char) : (bytesOf c).head? = some (firstByte c) := by
  have hlast : c.toNat < 0x110000 := by
    have hvalid := c.valid
    simp only [UInt32.isValidChar, Nat.isValidChar, Char.toNat_val] at hvalid
    omega
  unfold bytesOf String.utf8EncodeChar firstByte
  simp only [Char.toNat_val, ← Nat.lt_add_one_iff, Nat.reduceAdd]
  split_ifs with hone htwo hthree <;>
    simp only [List.map_cons, List.head?_cons, ofUInt8_ofNat, Option.some.injEq]
  · rw [Nat.mod_eq_of_lt (by omega), Char.ofNat_toNat]
  · exact congrArg Char.ofNat (by omega)
  · exact congrArg Char.ofNat (by omega)
  · exact congrArg Char.ofNat (by omega)

theorem firstByte_ascii (h : c.toNat < 0x80) : firstByte c = c := if_pos h

theorem le_toNat_firstByte (h : 0x80 ≤ c.toNat) : 0x80 ≤ (firstByte c).toNat :=
  le_toNat_of_mem_bytesOf h _ (List.mem_of_head? (head?_bytesOf c))

/-- The first byte is a mark only if it is all of the character. -/
theorem firstByte_eq_iff (hmark : mark.toNat < 0x80) : firstByte c = mark ↔ c = mark := by
  constructor
  · intro hfirst
    rcases Nat.lt_or_ge c.toNat 0x80 with hascii | hwide
    · rw [← firstByte_ascii hascii, hfirst]
    · have hbyte := le_toNat_firstByte hwide
      rw [hfirst] at hbyte
      omega
  · rintro rfl
    exact firstByte_ascii hmark

end

/-! ## Bytes of texts -/

theorem byteLength_cons (c : Char) (rest : List Char) :
    byteLength (c :: rest) = c.utf8Size + byteLength rest := rfl

theorem length_flatMap_bytesOf (text : List Char) :
    (text.flatMap bytesOf).length = byteLength text := by
  induction text with
  | nil => rfl
  | cons c text ih =>
    rw [List.flatMap_cons, List.length_append, ih, length_bytesOf, byteLength_cons]

theorem byteLength_append (before rest : List Char) :
    byteLength (before ++ rest) = byteLength before + byteLength rest := by
  simp only [← length_flatMap_bytesOf, List.flatMap_append, List.length_append]

theorem byteLength_le (text : List Char) : byteLength text ≤ 4 * text.length := by
  induction text with
  | nil => exact Nat.le_refl 0
  | cons c text ih =>
    have hone := c.utf8Size_le_four
    rw [byteLength_cons, List.length_cons]
    omega

theorem byteLength_eq_zero_iff {text : List Char} : byteLength text = 0 ↔ text = [] := by
  cases text with
  | nil => simp [byteLength]
  | cons c text =>
    have hpos := c.utf8Size_pos
    simp only [byteLength_cons, reduceCtorEq, iff_false]
    omega

theorem flatMap_bytesOf (text : List Char) :
    text.flatMap bytesOf = (text.flatMap String.utf8EncodeChar).map Char.ofUInt8 :=
  List.map_flatMap.symm

theorem byteLength_eq_size (text : List Char) : byteLength text = text.utf8Encode.size := by
  rw [← length_flatMap_bytesOf, flatMap_bytesOf, List.length_map, List.utf8Encode,
    List.size_toByteArray]

theorem utf8ByteSize_ofList (text : List Char) :
    (String.ofList text).utf8ByteSize = byteLength text := by
  rw [← String.size_toByteArray, String.toByteArray_ofList, byteLength_eq_size]

theorem toByteArray_eq_utf8Encode (text : String) : text.toByteArray = text.toList.utf8Encode := by
  rw [← String.toByteArray_ofList, String.ofList_toList]

theorem byteAt_eq (text : String) (position : Nat) :
    byteAt text position = (text.toList.flatMap bytesOf)[position]? := by
  rw [byteAt, toByteArray_eq_utf8Encode, List.utf8Encode, List.data_toByteArray,
    List.getElem?_toArray, flatMap_bytesOf, List.getElem?_map]

/-! ## Positions between characters -/

section

variable {text : String} {position : Nat} {c mark : Char} {name rest : List Char}

theorem at_zero (text : String) : At text 0 text.toList := ⟨[], rfl, rfl⟩

theorem At.append (h : At text position (name ++ rest)) :
    At text (position + byteLength name) rest := by
  obtain ⟨before, htext, rfl⟩ := h
  exact ⟨before ++ name, by rw [htext, List.append_assoc], (byteLength_append before name).symm⟩

theorem At.tail (h : At text position (mark :: rest)) (hmark : mark.toNat < 0x80) :
    At text (position + 1) rest := by
  have htail : At text (position + byteLength [mark]) rest := At.append h
  rwa [byteLength_cons, utf8Size_ascii hmark] at htail

theorem At.suffix (h : At text position rest) : rest <:+ text.toList := by
  obtain ⟨before, htext, -⟩ := h
  exact ⟨before, htext.symm⟩

theorem At.position_eq (h : At text position rest) :
    position = byteLength text.toList - byteLength rest := by
  obtain ⟨before, htext, rfl⟩ := h
  rw [htext, byteLength_append, Nat.add_sub_cancel]

theorem At.isValid (h : At text position rest) : String.Pos.Raw.IsValid text ⟨position⟩ := by
  obtain ⟨before, htext, rfl⟩ := h
  refine String.Pos.Raw.isValid_iff_exists_append.mpr
    ⟨String.ofList before, String.ofList rest, ?_, ?_⟩
  · rw [← String.ofList_append, ← htext, String.ofList_toList]
  · rw [String.Pos.Raw.ext_iff, String.byteIdx_rawEndPos, utf8ByteSize_ofList]

/-- The bytes from a position on are those of the text that is left. -/
theorem At.byteAt_add (h : At text position rest) (i : Nat) :
    byteAt text (position + i) = (rest.flatMap bytesOf)[i]? := by
  obtain ⟨before, htext, rfl⟩ := h
  rw [byteAt_eq, htext, List.flatMap_append, ← length_flatMap_bytesOf,
    List.getElem?_append_right (Nat.le_add_right _ _), Nat.add_sub_cancel_left]

theorem At.byteAt_eq (h : At text position rest) :
    byteAt text position = rest.head?.map firstByte := by
  have hbyte := h.byteAt_add 0
  cases rest with
  | nil => exact hbyte
  | cons c rest =>
    have hfirst := head?_bytesOf c
    rw [Nat.add_zero, List.flatMap_cons, ← List.head?_eq_getElem?, List.head?_append, hfirst]
      at hbyte
    exact hbyte

/-- A name is cut out of the text where it stands. -/
theorem At.slice?_eq (h : At text position (name ++ rest)) :
    slice? text position (position + byteLength name) = some (String.ofList name) := by
  have hstart := h.isValid
  have hstop := h.append.isValid
  obtain ⟨before, htext, rfl⟩ := h
  have hcut : text.toByteArray.extract (byteLength before) (byteLength before + byteLength name) =
      name.utf8Encode := by
    rw [toByteArray_eq_utf8Encode, htext, List.utf8Encode_append, List.utf8Encode_append,
      byteLength_eq_size, byteLength_eq_size, ← Nat.add_zero before.utf8Encode.size, Nat.add_assoc,
      Nat.zero_add, ByteArray.extract_append_size_add, ByteArray.extract_append_eq_left rfl]
  rw [slice?, Substring.Raw.toSlice?, dif_pos ⟨hstart, hstop, Nat.le_add_right _ _⟩,
    Option.map_some, Option.some.injEq, ← String.toByteArray_inj, String.toByteArray_ofList, ← hcut]
  exact String.Slice.toByteArray_copy

end

/-- Between the bytes of a character nothing can be cut. -/
example : slice? "Lä;" 1 3 = some "ä" ∧ slice? "Lä;" 1 2 = none := by decide +kernel

end ApiSurface.Signature
