/-
Module: TrafficMeter.Proofs.SessionKeyTexts
Purpose: Which session keys have the same text.  The hyphen between the two parts of a key is also the
  minus sign of a machine number, and it may end a workload.  So a text gives the digits of the machine
  number back, and what stands in front of the last hyphen, but not whose hyphen it is.
Main exports: SessionKey.stem, SessionKey.Mimics, SessionKey.Alike, SessionKey.text_eq_text_iff,
  SessionKey.nodup_texts_iff, key_texts_agree_iff
-/
import Mathlib
import TrafficMeter.Proofs.ByteAccounting
import TrafficMeter.Proofs.NumeralReading
import TrafficMeter.Proofs.SessionListing

namespace TrafficMeter

open Data Net Text Usage

/-! ### The last hyphen -/

namespace Text

theorem decimal_inj {m n : Nat} : decimal m = decimal n ↔ m = n := by
  constructor
  · intro same
    have read (n : Nat) : digitsValue? 10 (decimal n) = some n :=
      digitsValue?_toDigits (by decide) (by decide) n
    have shown := read m
    rw [same, read n] at shown
    exact (Option.some.inj shown).symm
  · exact congrArg decimal

theorem not_mem_decimal {c : Char} (other : c.isDigit = false) (n : Nat) : c ∉ decimal n := by
  intro member
  rw [isDigit_of_mem_decimal member] at other
  cases other

/-- A text is cut at its last mark in one way. -/
theorem append_mark_inj {mark : Char} {front front' back back' : List Char} (last : mark ∉ back)
    (last' : mark ∉ back') :
    front ++ mark :: back = front' ++ mark :: back' ↔ front = front' ∧ back = back' := by
  constructor
  · intro same
    rcases List.append_eq_append_iff.mp same with ⟨more, rfl, behind⟩ | ⟨more, rfl, behind⟩
    all_goals
      cases more with
      | nil =>
          cases behind
          simp
      | cons c more =>
          -- a longer front has the other mark within what stands behind its own
          obtain ⟨_, rfl⟩ := List.cons.inj behind
          simp at last last'
  · rintro ⟨rfl, rfl⟩
    rfl

end Text

namespace SessionKey

variable {left right key : SessionKey}

/-- What stands in front of the last hyphen of the text: the workload, and behind it the hyphen between
the parts where a minus sign follows. -/
def stem (key : SessionKey) : List Char :=
  if key.vmId.toInt < 0 then key.instanceId.toList ++ ['-'] else key.instanceId.toList

theorem toList_text (key : SessionKey) :
    key.text.toList = key.stem ++ '-' :: decimal key.vmId.toInt.natAbs := by
  rw [text, String.toList_ofList, stem, signedDecimal]
  by_cases negative : key.vmId.toInt < 0
  · simp [negative]
  · simp [negative]

/-- Texts agree where the stems and the amounts of the machine numbers do. -/
theorem text_eq_iff_stem : left.text = right.text ↔
    left.stem = right.stem ∧ left.vmId.toInt.natAbs = right.vmId.toInt.natAbs := by
  have unsigned (n : Nat) : '-' ∉ decimal n := not_mem_decimal (by decide) n
  rw [← String.toList_inj, toList_text, toList_text,
    append_mark_inj (unsigned _) (unsigned _), decimal_inj]

/-- The machine numbers are opposites, and the workload of the positive one is the other workload with
a hyphen behind it: this hyphen and the one between the parts are read as the other key's hyphen and its
minus sign. -/
structure Mimics (left right : SessionKey) : Prop where
  positive : 0 < left.vmId.toInt
  opposite : right.vmId.toInt = -left.vmId.toInt
  workload : left.instanceId = right.instanceId ++ "-"

/-- The keys are the same, or one of them mimics the other. -/
def Alike (left right : SessionKey) : Prop :=
  left = right ∨ left.Mimics right ∨ right.Mimics left

theorem ext_iff_toInt : left = right ↔
    left.instanceId = right.instanceId ∧ left.vmId.toInt = right.vmId.toInt := by
  obtain ⟨workload, machine⟩ := left
  obtain ⟨workload', machine'⟩ := right
  rw [SessionKey.mk.injEq, Int64.toInt_inj]

/-- Keys with machine numbers of one sign have the same text only if they are the same. -/
theorem eq_of_text_eq (sign : left.vmId.toInt < 0 ↔ right.vmId.toInt < 0)
    (same : left.text = right.text) : left = right := by
  obtain ⟨stems, amounts⟩ := text_eq_iff_stem.mp same
  apply ext_iff_toInt.mpr
  rw [stem, stem] at stems
  by_cases negative : left.vmId.toInt < 0
  · rw [if_pos negative, if_pos (sign.mp negative)] at stems
    have workloads := List.append_cancel_right stems
    exact ⟨String.toList_inj.mp workloads, by omega⟩
  · rw [if_neg negative, if_neg (mt sign.mpr negative)] at stems
    exact ⟨String.toList_inj.mp stems, by omega⟩

/-- A key whose machine number is not negative has the text of one whose number is, exactly if it
mimics it. -/
theorem text_eq_iff_mimics (positive : ¬ left.vmId.toInt < 0) (negative : right.vmId.toInt < 0) :
    left.text = right.text ↔ left.Mimics right := by
  rw [text_eq_iff_stem, stem, stem, if_neg positive, if_pos negative]
  have joined : left.instanceId.toList = right.instanceId.toList ++ ['-'] ↔
      left.instanceId = right.instanceId ++ "-" := by
    rw [← String.toList_inj, String.toList_append]
    rfl
  rw [joined]
  constructor
  · rintro ⟨workload, amounts⟩
    exact ⟨by omega, by omega, workload⟩
  · rintro ⟨_, opposite, workload⟩
    exact ⟨workload, by omega⟩

theorem Mimics.text_eq (mimics : left.Mimics right) : left.text = right.text := by
  have ⟨positive, opposite, _⟩ := mimics
  exact (text_eq_iff_mimics (by omega) (by omega)).mpr mimics

theorem text_eq_text_iff : left.text = right.text ↔ left.Alike right := by
  constructor
  · intro same
    by_cases first : left.vmId.toInt < 0 <;> by_cases second : right.vmId.toInt < 0
    · exact .inl (eq_of_text_eq (by simp [first, second]) same)
    · exact .inr (.inr ((text_eq_iff_mimics second first).mp same.symm))
    · exact .inr (.inl ((text_eq_iff_mimics first second).mp same))
    · exact .inl (eq_of_text_eq (by simp [first, second]) same)
  · rintro (rfl | mimics | mimics)
    · rfl
    · exact mimics.text_eq
    · exact mimics.text_eq.symm

/-- Texts are told apart where the keys are, and no key among them mimics another one. -/
theorem nodup_texts_iff {keys : List SessionKey} : (keys.map text).Nodup ↔
    keys.Nodup ∧ ∀ left ∈ keys, ∀ right ∈ keys, ¬ left.Mimics right := by
  constructor
  · intro distinct
    refine ⟨distinct.of_map text, fun left member right member' mimics => ?_⟩
    have same : left = right := List.inj_on_of_nodup_map distinct member member' mimics.text_eq
    obtain ⟨positive, opposite, _⟩ := mimics
    rw [same] at positive opposite
    omega
  · rintro ⟨distinct, apart⟩
    apply distinct.map_on
    intro left member right member' same
    rcases text_eq_text_iff.mp same with equal | mimics | mimics
    · exact equal
    · exact absurd mimics (apart left member right member')
    · exact absurd mimics (apart right member' left member)

end SessionKey

/-! ### Where the texts are shown -/

/-- A report shows the text of the key of its session. -/
theorem Reporter.sessionKey_of_tick {reporter : Reporter} {store : Store} {id : Uuid} {now : Int64}
    {report : Report} (made : (reporter.tick store id now).1 = some report) :
    report.sessionKey = reporter.session.key.text := by
  rcases reporter.tick_cases store id now with ⟨_, looked⟩ | ⟨_, _, looked⟩ | ⟨_, _, looked⟩
  all_goals
    rw [looked] at made
    cases made
  rfl

theorem Api.askOf_list {agent : Agent} {request : Request}
    (path : endpoint? (pathOf request.target) = some .list) (method : request.method = "GET") :
    askOf agent request = .list := by
  simp [askOf, path, method, Endpoint.method]

theorem Api.handle_of_list {agent : Agent} {request : Request}
    (asked : askOf agent request = .list) : (handle agent request).1 =
      ⟨200, some (.list (agent.activeSessions.map fun key => .ofText key.text))⟩ := by
  rw [handle_eq, asked]
  rfl

/-- Two session keys have the same text exactly if they are the same, or their machine numbers are
opposites other than zero and the workload of the positive one is the workload of the other with a
hyphen behind it.  So the text tells those keys apart whose machine numbers are not negative, and those
whose numbers are.  The reports of two sessions show the same text just where their keys are alike; and
a listing shows the texts of all sessions that are reported, none of them twice exactly if the keys are
listed once each and none of them mimics another. -/
theorem key_texts_agree_iff (left right : SessionKey) :
    (left.text = right.text ↔ left.Alike right) ∧
      Set.InjOn SessionKey.text {key | 0 ≤ key.vmId.toInt} ∧
      Set.InjOn SessionKey.text {key | key.vmId.toInt < 0} ∧
      (∀ (first second : Reporter) (store store' : Store) (id id' : Uuid) (now now' : Int64)
        (report report' : Report), first.session.key = left → second.session.key = right →
        (first.tick store id now).1 = some report → (second.tick store' id' now').1 = some report' →
        (report.sessionKey = left.text ∧ report'.sessionKey = right.text) ∧
          (report.sessionKey = report'.sessionKey ↔ left.Alike right)) ∧
      ∀ agent : Agent,
        (∀ request, Api.askOf agent request = .list → (Api.handle agent request).1 =
          ⟨200, some (.list (agent.activeSessions.map fun key => .ofText key.text))⟩) ∧
        ((agent.activeSessions.map SessionKey.text).Nodup ↔ agent.activeSessions.Nodup ∧
          ∀ one ∈ agent.activeSessions, ∀ other ∈ agent.activeSessions, ¬ one.Mimics other) := by
  refine ⟨SessionKey.text_eq_text_iff, ?positive, ?negative, ?reports, ?listing⟩
  case positive =>
    intro one nonnegative other nonnegative' same
    have signs : one.vmId.toInt < 0 ↔ other.vmId.toInt < 0 :=
      iff_of_false (not_lt.mpr nonnegative) (not_lt.mpr nonnegative')
    exact SessionKey.eq_of_text_eq signs same
  case negative =>
    intro one negative other negative' same
    exact SessionKey.eq_of_text_eq (iff_of_true negative negative') same
  case reports =>
    rintro first second store store' id id' now now' report report' rfl rfl made made'
    have shown := Reporter.sessionKey_of_tick made
    have shown' := Reporter.sessionKey_of_tick made'
    rw [shown, shown']
    exact ⟨⟨rfl, rfl⟩, SessionKey.text_eq_text_iff⟩
  case listing =>
    intro agent
    exact ⟨fun request => Api.handle_of_list, SessionKey.nodup_texts_iff⟩

/-- A reporter of a session that has everything for its own. -/
def sampleReporter (key : SessionKey) : Reporter :=
  .create { instanceId := key.instanceId, vmId := key.vmId, startTime := .ofMillis 0 } 0 10

/-- A store with some bytes of one endpoint. -/
def sampleStore : Store :=
  let sample : Sample :=
    { hardware := .zero, ip := .v4 (IpAddress.quad 192 0 2 1), port := 80, up := 7, down := 0,
      windowStart := 0, windowEnd := 5 }
  { Store.create [] {} with series := { samples := #[sample] } }

/-- Two sessions with the same text report under it and are listed with it. -/
theorem key_texts_agree_iff_of_hyphens :
    let hyphened : SessionKey := ⟨"web-", 5⟩
    let negative : SessionKey := ⟨"web", -5⟩
    hyphened.text = negative.text ∧ (⟨"web", 5⟩ : SessionKey).text ≠ negative.text ∧
      (∃ report report' : Report,
        ((sampleReporter hyphened).tick sampleStore default 9).1 = some report ∧
          ((sampleReporter negative).tick sampleStore default 9).1 = some report' ∧
          report.sessionKey = report'.sessionKey ∧ report.instanceId ≠ report'.instanceId) ∧
      (Api.handle { sampleAgent with registry := [(hyphened, 0), (negative, 1)] }
        Api.sampleList).1 = ⟨200, some (.list [.ofText "web--5", .ofText "web--5"])⟩ := by
  intro hyphened negative
  have mimics : hyphened.Mimics negative := ⟨by decide, by decide, by decide⟩
  obtain ⟨texts, _, _, reports, listing⟩ := key_texts_agree_iff hyphened negative
  have alike : hyphened.Alike negative := .inr (.inl mimics)
  refine ⟨texts.mpr alike, ?apart, ?reports, ?listed⟩
  case apart =>
    intro same
    rcases (key_texts_agree_iff ⟨"web", 5⟩ negative).1.mp same with equal | other | other
    · exact absurd equal (by decide)
    · exact absurd other.workload (by decide)
    · exact absurd other.positive (by decide)
  case reports =>
    obtain ⟨report, made⟩ := Option.isSome_iff_exists.mp
      (show ((sampleReporter hyphened).tick sampleStore default 9).1.isSome = true by decide +kernel)
    obtain ⟨report', made'⟩ := Option.isSome_iff_exists.mp
      (show ((sampleReporter negative).tick sampleStore default 9).1.isSome = true by decide +kernel)
    have shown := (reports _ _ _ _ _ _ _ _ report report' rfl rfl made made').2.mpr alike
    have workloads : ((sampleReporter hyphened).tick sampleStore default 9).1.map Report.instanceId ≠
        ((sampleReporter negative).tick sampleStore default 9).1.map Report.instanceId := by
      decide +kernel
    rw [made, made'] at workloads
    exact ⟨report, report', made, made', shown, fun same => workloads (congrArg some same)⟩
  case listed =>
    let agent : Agent := { sampleAgent with registry := [(hyphened, 0), (negative, 1)] }
    have keys : agent.activeSessions = [negative, hyphened] := by cbv
    have asked : Api.askOf agent Api.sampleList = .list := Api.askOf_list (by decide +kernel) rfl
    have shown : negative.text = "web--5" := by decide +kernel
    rw [(listing agent).1 _ asked, keys]
    simp only [List.map_cons, List.map_nil, texts.mpr alike, shown]

end TrafficMeter
