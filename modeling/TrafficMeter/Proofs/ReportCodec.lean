/-
Module: TrafficMeter.Proofs.ReportCodec
Purpose: Reports are read back from their bytes as they were written, whatever is in them.
Main exports: Uuid.read?_text, Value.fields?_ofMembers, Report.ofValue?_value, Report.proper_value,
  report_codec_lossless
-/
import Mathlib
import TrafficMeter.Proofs.FrameReading
import TrafficMeter.Proofs.JsonReading
import TrafficMeter.Report

namespace TrafficMeter

open Data Spool Text

/-! ### Identifiers -/

namespace Uuid

/-- Hyphens are taken out where they were put in. -/
theorem unhyphenate?_hyphenate (lengths : List Nat) (digits : List Char)
    (enough : lengths.sum ≤ digits.length) :
    unhyphenate? lengths (hyphenate lengths digits) = some digits := by
  induction lengths generalizing digits with
  | nil => rfl
  | cons length others ih =>
      cases others with
      | nil => rfl
      | cons next others =>
          rw [List.sum_cons] at enough
          have front : (digits.take length).length = length := by
            rw [List.length_take]
            omega
          have behind := ih (digits.drop length) (by rw [List.length_drop]; omega)
          rw [hyphenate, unhyphenate?, List.drop_left' front, List.take_left' front]
          · simp only [behind, Option.map_some, List.take_append_drop]
          · simp
          · simp

theorem length_hyphenate (lengths : List Nat) (digits : List Char)
    (enough : lengths.sum ≤ digits.length) :
    (hyphenate lengths digits).length = digits.length + (lengths.length - 1) := by
  induction lengths generalizing digits with
  | nil => rfl
  | cons length others ih =>
      cases others with
      | nil => rfl
      | cons next others =>
          rw [List.sum_cons] at enough
          have behind := ih (digits.drop length) (by rw [List.length_drop]; omega)
          rw [hyphenate, List.length_append, List.length_cons, behind]
          · simp
            omega
          · simp

/-- An identifier is read back from its text. -/
theorem read?_text (uuid : Uuid) : read? uuid.text = some uuid := by
  let digits := hexPadded 32 uuid.bits.toNat
  have count : digits.length = 32 := length_hexPadded (by decide) uuid.bits.isLt
  have enough : groupLengths.sum ≤ digits.length := Nat.le_of_eq count.symm
  have chars : uuid.text.toList = hyphenate groupLengths digits := String.toList_ofList
  have length : uuid.text.toList.length = 36 := by
    rw [chars, length_hyphenate _ _ enough, count]
    rfl
  have value : digitsValue? 16 digits = some uuid.bits.toNat := digitsValue?_hexPadded _ _
  rw [read?, length, if_neg (by decide), if_pos rfl, chars, ofGroups?,
    unhyphenate?_hyphenate _ _ enough, Option.bind_some, ofDigits?, if_pos count, value,
    Option.map_some, BitVec.ofNat_toNat, BitVec.setWidth_eq]

end Uuid

/-! ### Fields -/

namespace Data

variable {members : List (String × Value)}

/-- Steps that may fail are taken apart from the first one on. -/
theorem bind_eq_some_iff {α β : Type} {first : Option α} {next : α → Option β} {result : β} :
    (first >>= next) = some result ↔ ∃ value, first = some value ∧ next value = some result :=
  Option.bind_eq_some_iff

/-- A record that has exactly the wanted members gives them as they are. -/
theorem Value.fields?_ofMembers (distinct : (members.map Prod.fst).Nodup) (surplus : Bool) :
    (ofMembers members).fields? (members.map Prod.fst) surplus = some members := by
  have named : (members.map fun member => (some member.1, member.2)).mapM
      (fun member => member.1.map (·, member.2)) = some members := by
    induction members with
    | nil => rfl
    | cons member others ih => simp [ih distinct.of_cons]
  have wanted : ∀ member ∈ members, (members.map Prod.fst).contains member.1 = true :=
    fun member found => List.contains_iff_mem.mpr (List.mem_map_of_mem found)
  have known : members.filter (fun member => (members.map Prod.fst).contains member.1) =
      members := List.filter_eq_self.mpr wanted
  have others : members.filter (fun member => !(members.map Prod.fst).contains member.1) = [] := by
    apply List.filter_eq_nil_iff.mpr
    intro member found
    simp only [wanted member found, Bool.not_true, Bool.false_eq_true, not_false_eq_true]
  refine bind_eq_some_iff.mpr ⟨members, named, (if_pos ⟨?_, ?_⟩).trans (congrArg some known)⟩
  · rw [known]
    exact distinct
  · rw [others]
    rfl

/-- Each member of a record that has exactly the wanted ones is found under its name. -/
theorem Value.exists_fields (distinct : (members.map Prod.fst).Nodup) (surplus : Bool) :
    ∃ fields : Fields,
      (ofMembers members).fields? (members.map Prod.fst) surplus = some fields ∧
        ∀ member ∈ members, ∀ {α : Type} (read? : Value → Option α),
          fields.need member.1 read? = read? member.2 := by
  refine ⟨members, fields?_ofMembers distinct surplus, fun member found α read? => ?_⟩
  rw [Fields.need, lookup_of_mem distinct found, Option.bind_some]

@[simp] theorem Value.text?_ofText (content : String) : (ofText content).text? = some content :=
  rfl

end Data

/-! ### Reports -/

namespace Report

theorem ofValue?_value (report : Report) : ofValue? report.value = some report := by
  have distinct : fieldNames.Nodup := by decide
  -- the fields are a variable from here on, and are not searched name by name
  obtain ⟨fields, found, need⟩ :
      ∃ fields, report.value.fields? fieldNames false = some fields ∧ _ :=
    Value.exists_fields (by exact distinct) false
  simp only [List.forall_mem_cons] at need
  rw [ofValue?, found]
  simp [↓bind_eq_some_iff, need, Uuid.read?_text]

theorem proper_value (report : Report) : Json.Proper report.value := by
  simp [value, Value.ofMembers, Json.Proper, Json.AllMembersProper, Value.ofText, Value.ofInt,
    Value.ofNat, Json.isNumeral_decimal, Json.isNumeral_signedDecimal]

/-- The report that the bytes of a value describe, if it is all said. -/
theorem decode_write {value : Value} (proper : Json.Proper value) {report : Report}
    (described : ofValue? value = some report) :
    Record.decode (Bytes.ofText (Json.write value)) = .ok report := by
  simp only [Record.decode, Json.ofBytes?_write proper, Option.bind_some, described]

/-- A report is read back from its bytes. -/
theorem decode_encoding (report : Report) :
    ∃ bytes, Record.encode report = .ok bytes ∧ Record.decode bytes = .ok report :=
  ⟨_, rfl, decode_write report.proper_value report.ofValue?_value⟩

instance : LawfulRecord Report where
  decode_of_encode := by
    intro report bytes encoded
    obtain ⟨bytes', encoded', decoded⟩ := report.decode_encoding
    cases encoded.symm.trans encoded'
    exact decoded

end Report

/-- Every report can be written as bytes and is read back from them as it was, so that no two
reports have the same bytes.  Bytes that were written otherwise and are read as a report give the
same report once they are written anew. -/
theorem report_codec_lossless :
    (∀ report : Report, ∃ bytes,
        Record.encode report = .ok bytes ∧ Record.decode bytes = .ok report) ∧
      (∀ report other : Report, Record.encode report = Record.encode other → report = other) ∧
      ∀ (bytes : Bytes) (report : Report), Record.decode bytes = .ok report →
        ∃ again, Record.encode report = .ok again ∧ Record.decode again = .ok report := by
  refine ⟨Report.decode_encoding, fun report other same => ?_, fun _ report _ =>
    report.decode_encoding⟩
  obtain ⟨bytes, encoded, decoded⟩ := report.decode_encoding
  obtain ⟨bytes', encoded', decoded'⟩ := other.decode_encoding
  cases encoded.symm.trans (same.trans encoded')
  cases decoded.symm.trans decoded'
  rfl

/-- A report at the limits of its fields, with texts of which much must be escaped. -/
def sampleReport : Report where
  reportId := ⟨0xfedcba98765432100123456789abcdef⟩
  sessionKey := "a\"\\\n\x01🙂--9223372036854775808"
  instanceId := "a\"\\\n\x01🙂"
  vmId := Int64.minValue
  flowId := ""
  bizId := Int64.maxValue
  gid := -1
  areaType := Int32.minValue
  idc := "é"
  windowStart := 0
  windowEnd := 60000
  totalUp := 18446744073709551615
  totalDown := 0
  streamUp := 1
  streamDown := 10
  sequence := 4294967295

theorem report_codec_lossless_of_sampleReport : ∃ bytes,
    Record.encode sampleReport = .ok bytes ∧ Record.decode bytes = .ok sampleReport ∧
      ∃ again, Record.encode sampleReport = .ok again ∧ Record.decode again = .ok sampleReport := by
  obtain ⟨every, _, again⟩ := report_codec_lossless
  obtain ⟨bytes, encoded, decoded⟩ := every sampleReport
  exact ⟨bytes, encoded, decoded, again bytes sampleReport decoded⟩

end TrafficMeter
