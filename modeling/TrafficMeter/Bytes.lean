/-
Module: TrafficMeter.Bytes
Purpose: Byte strings, the packed form in which long ones are kept, and the whole numbers written
  in them, in either byte order.
Main exports: Bytes, ofPacked, littleEndian, ofLittleEndian, word16, ofText, text?
-/

namespace TrafficMeter

/-- A byte string. -/
abbrev Bytes := List UInt8

namespace Bytes

/-! ### Packed byte strings -/

/-- The octets of a packed byte string. -/
def ofPacked (packed : ByteArray) : Bytes :=
  packed.data.toList

@[simp] theorem ofPacked_toByteArray (bytes : Bytes) : ofPacked bytes.toByteArray = bytes := by
  simp [ofPacked, List.data_toByteArray]

@[simp] theorem ofPacked_append (a b : ByteArray) :
    ofPacked (a ++ b) = ofPacked a ++ ofPacked b := by
  simp [ofPacked, ByteArray.data_append]

@[simp] theorem length_ofPacked (packed : ByteArray) : (ofPacked packed).length = packed.size := by
  rw [ofPacked, Array.length_toList, ByteArray.size_data]

/-- A cut through a packed byte string is a cut through its octets. -/
theorem ofPacked_extract (packed : ByteArray) (start stop : Nat) :
    ofPacked (packed.extract start stop) = ((ofPacked packed).drop start).take (stop - start) := by
  rw [ofPacked, ByteArray.data_extract, Array.toList_extract, List.extract_eq_take_drop, ofPacked]

/-- The first octets of a byte string that is long enough, and the others. -/
theorem exists_front {n : Nat} {bytes : Bytes} (long : n ≤ bytes.length) :
    ∃ (octets : Fin n → UInt8) (rest : Bytes), List.ofFn octets ++ rest = bytes := by
  refine ⟨fun i => bytes[i], bytes.drop n, ?_⟩
  have front : List.ofFn (fun i : Fin n => bytes[i]) = bytes.take n := by
    apply List.ext_getElem
    · simp [long]
    · simp
  rw [front, List.take_append_drop]

/-! ### Numbers -/

/-- The `width` low octets of a number, least significant first. -/
def littleEndian : Nat → Nat → Bytes
  | 0, _ => []
  | width + 1, n => UInt8.ofNat n :: littleEndian width (n / 256)

/-- The number whose octets are given, least significant first. -/
def ofLittleEndian : Bytes → Nat
  | [] => 0
  | octet :: rest => octet.toNat + 256 * ofLittleEndian rest

/-- The word of two octets, most significant first. -/
def word16 (high low : UInt8) : UInt16 :=
  high.toUInt16 <<< 8 ||| low.toUInt16

/-- The two octets of a word, most significant first. -/
def ofWord16 (word : UInt16) : Bytes :=
  [(word >>> 8).toUInt8, word.toUInt8]

/-- The octets of a text in UTF-8. -/
def ofText (text : String) : Bytes :=
  text.toUTF8.toList

/-- The text that the octets encode in UTF-8, if they encode one. -/
def text? (bytes : Bytes) : Option String :=
  String.fromUTF8? bytes.toByteArray

@[simp] theorem length_littleEndian (width n : Nat) : (littleEndian width n).length = width := by
  induction width generalizing n with
  | zero => rfl
  | succ width ih => simp [littleEndian, ih]

/-- How many numbers can be written in so many octets. -/
def bound : Nat → Nat
  | 0 => 1
  | width + 1 => 256 * bound width

example : bound 2 = 65536 := rfl

/-- A number that fits in `width` octets is read back from them. -/
theorem ofLittleEndian_littleEndian (width n : Nat) (h : n < bound width) :
    ofLittleEndian (littleEndian width n) = n := by
  induction width generalizing n with
  | zero => simp only [bound] at h; simp only [littleEndian, ofLittleEndian]; omega
  | succ width ih =>
    have quotient : n / 256 < bound width := by simp only [bound] at h; omega
    simp only [littleEndian, ofLittleEndian, ih _ quotient, UInt8.toNat_ofNat']
    omega

theorem toNat_word16 (high low : UInt8) :
    (word16 high low).toNat = 256 * high.toNat + low.toNat := by
  have bound := high.toNat_lt
  have low_lt : low.toNat < 2 ^ 8 := low.toNat_lt
  have places : (8 : UInt16).toNat % 16 = 8 := rfl
  have shifted : (high.toUInt16 <<< 8).toNat = high.toNat <<< 8 := by
    simp only [UInt16.toNat_shiftLeft, UInt8.toNat_toUInt16, Nat.shiftLeft_eq, places]
    omega
  rw [word16, UInt16.toNat_or, shifted, UInt8.toNat_toUInt16,
    ← Nat.shiftLeft_add_eq_or_of_lt low_lt, Nat.shiftLeft_eq]
  omega

/-- A word of two octets is written as these octets. -/
@[simp] theorem ofWord16_word16 (high low : UInt8) : ofWord16 (word16 high low) = [high, low] := by
  have number := toNat_word16 high low
  have high_lt := high.toNat_lt
  have low_lt := low.toNat_lt
  have places : (8 : UInt16).toNat % 16 = 8 := rfl
  have first : (word16 high low >>> 8).toUInt8 = high := by
    apply UInt8.toNat_inj.mp
    simp only [UInt16.toNat_toUInt8, UInt16.toNat_shiftRight, number, Nat.shiftRight_eq_div_pow,
      places]
    omega
  have second : (word16 high low).toUInt8 = low := by
    apply UInt8.toNat_inj.mp
    simp only [UInt16.toNat_toUInt8, number]
    omega
  rw [ofWord16, first, second]

/-- A word is read back from its octets. -/
@[simp] theorem word16_ofWord16 (word : UInt16) :
    word16 (word >>> 8).toUInt8 word.toUInt8 = word := by
  have word_lt := word.toNat_lt
  have places : (8 : UInt16).toNat % 16 = 8 := rfl
  apply UInt16.toNat_inj.mp
  simp only [toNat_word16, UInt16.toNat_toUInt8, UInt16.toNat_shiftRight,
    Nat.shiftRight_eq_div_pow, places]
  omega

/-- Words with the same octets are the same. -/
theorem ofWord16_inj {a b : UInt16} : ofWord16 a = ofWord16 b ↔ a = b := by
  constructor
  · intro same
    obtain ⟨high, low⟩ : (a >>> 8).toUInt8 = (b >>> 8).toUInt8 ∧ a.toUInt8 = b.toUInt8 := by
      simpa [ofWord16] using same
    rw [← word16_ofWord16 a, high, low, word16_ofWord16]
  · rintro rfl
    rfl

theorem ofLittleEndian_lt (bytes : Bytes) : ofLittleEndian bytes < bound bytes.length := by
  induction bytes with
  | nil => exact Nat.one_pos
  | cons octet rest ih =>
    have small := octet.toNat_lt
    simp only [ofLittleEndian, bound, List.length_cons]
    omega

/-- Octets are written again as they were read. -/
theorem littleEndian_ofLittleEndian (bytes : Bytes) :
    littleEndian bytes.length (ofLittleEndian bytes) = bytes := by
  induction bytes with
  | nil => rfl
  | cons octet rest ih =>
    have small := octet.toNat_lt
    have quotient : (octet.toNat + 256 * ofLittleEndian rest) / 256 = ofLittleEndian rest := by
      omega
    have low : UInt8.ofNat (octet.toNat + 256 * ofLittleEndian rest) = octet := by
      apply UInt8.toNat_inj.mp
      simp only [UInt8.toNat_ofNat']
      omega
    simp only [ofLittleEndian, List.length_cons, littleEndian, quotient, low, ih]

/-! ### Texts -/

/-- The octets are listed one by one from a place on. -/
theorem toList_loop (packed : ByteArray) (place : Nat) (front : List UInt8) :
    ByteArray.toList.loop packed place front = front.reverse ++ (ofPacked packed).drop place := by
  fun_induction ByteArray.toList.loop packed place front with
  | case1 place front inside ih =>
      have bound : place < (ofPacked packed).length := by simpa using inside
      have octet : packed.get! place = (ofPacked packed)[place] := by
        have inside : place < packed.data.size := inside
        simpa [ByteArray.get!, ofPacked] using getElem!_pos packed.data place inside
      rw [ih, List.drop_eq_getElem_cons bound, octet]
      simp
  | case2 place front outside =>
      rw [List.drop_eq_nil_of_le (by simpa using outside), List.append_nil]

theorem toList_eq_ofPacked (packed : ByteArray) : packed.toList = ofPacked packed := by
  rw [ByteArray.toList, toList_loop]
  rfl

/-- A text is read back from its octets. -/
theorem text?_ofText (text : String) : text? (ofText text) = some text := by
  have octets : (ofText text).toByteArray = text.toUTF8 := by
    apply ByteArray.ext
    apply Array.toList_inj.mp
    rw [List.toList_data_toByteArray, ofText, toList_eq_ofPacked, ofPacked]
  rw [text?, octets]
  exact dif_pos text.isValidUTF8

end Bytes

end TrafficMeter
