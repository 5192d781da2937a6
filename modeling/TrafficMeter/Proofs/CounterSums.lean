/-
Module: TrafficMeter.Proofs.CounterSums
Purpose: Sums of bytes.  A tally adds up what those items of a list weigh that are asked for; to count
  bytes adds their number to every tally that asks for their endpoint and direction, and the totals of
  samples are their tallies, up to the largest count.
Main exports: tally, Sample.bytes, Sample.bytes_add, tally_countIn, Totals.bytes_of, isSilent_iff
-/
import Mathlib.Algebra.GroupWithZero.Nat
import Mathlib.Data.List.Perm.Subperm
import TrafficMeter.Usage.Collector

namespace TrafficMeter.Usage

open Net

/-! ### Tallies -/

section Tally

variable {β γ : Type} (weight : β → Nat)

/-- What those items weigh together that satisfy `p`. -/
def tally (p : β → Bool) (items : List β) : Nat :=
  ((items.filter p).map weight).sum

@[simp] theorem tally_nil (p : β → Bool) : tally weight p [] = 0 :=
  rfl

theorem tally_cons (p : β → Bool) (item : β) (items : List β) :
    tally weight p (item :: items) = (if p item then weight item else 0) + tally weight p items := by
  by_cases counted : p item = true
  · rw [if_pos counted, tally, List.filter_cons_of_pos counted]
    rfl
  · rw [if_neg counted, tally, List.filter_cons_of_neg counted, Nat.zero_add]
    rfl

/-- What is in two lists is what is in the one and in the other. -/
theorem tally_append (p : β → Bool) (front back : List β) :
    tally weight p (front ++ back) = tally weight p front + tally weight p back := by
  rw [tally, List.filter_append, List.map_append, List.sum_append]
  rfl

theorem tally_concat (p : β → Bool) (items : List β) (item : β) :
    tally weight p (items ++ [item]) = tally weight p items + if p item then weight item else 0 := by
  rw [tally_append, tally_cons, tally_nil, Nat.add_zero]

theorem tally_map (p : β → Bool) (f : γ → β) (items : List γ) :
    tally weight p (items.map f) =
      tally (fun item => weight (f item)) (fun item => p (f item)) items := by
  rw [tally, List.filter_map, List.map_map]
  rfl

/-- The order in a list is of no account. -/
theorem tally_perm (p : β → Bool) {items others : List β} (perm : items.Perm others) :
    tally weight p items = tally weight p others :=
  ((perm.filter p).map weight).sum_nat

/-- Nor is what is asked of items that are not in it. -/
theorem tally_congr {p q : β → Bool} {items : List β} (same : ∀ item ∈ items, p item = q item) :
    tally weight p items = tally weight q items := by
  rw [tally, List.filter_congr same]
  rfl

/-- A tally is zero where all that it counts weighs nothing. -/
theorem tally_eq_zero_iff {p : β → Bool} {items : List β} :
    tally weight p items = 0 ↔ ∀ item ∈ items, p item = true → weight item = 0 := by
  rw [tally, List.sum_eq_zero_iff_forall_eq_nat, List.forall_mem_map]
  simp only [List.mem_filter, and_imp]

theorem tally_eq_zero {p : β → Bool} {items : List β} (none : ∀ item ∈ items, p item = false) :
    tally weight p items = 0 :=
  (tally_eq_zero_iff weight).mpr fun item member counted => by
    rw [none item member] at counted
    cases counted

/-- A tally is that of the items on one side of a line and of those on the other. -/
theorem tally_split (p q : β → Bool) (items : List β) :
    tally weight p items = tally weight (fun item => p item && q item) items +
      tally weight (fun item => p item && !q item) items := by
  induction items with
  | nil => rfl
  | cons item others ih =>
      rw [tally_cons, tally_cons, tally_cons, ih]
      cases p item <;> cases q item <;>
        simp only [Bool.true_and, Bool.false_and, Bool.not_true, Bool.not_false, if_true, if_false,
          Bool.false_eq_true] <;> omega

/-- To leave items out is to ask more of them. -/
theorem tally_filter (p q : β → Bool) (items : List β) :
    tally weight p (items.filter q) = tally weight (fun item => p item && q item) items := by
  rw [tally, List.filter_filter]
  rfl

/-- Fewer items weigh no more. -/
theorem tally_le (p : β → Bool) {items others : List β} (sub : items.Subperm others) :
    tally weight p items ≤ tally weight (fun _ => true) others := by
  obtain ⟨chosen, perm, sublist⟩ := sub
  rw [← tally_perm weight p perm]
  clear perm
  induction sublist with
  | slnil => exact Nat.le_refl _
  | cons item _ ih =>
      rw [tally_cons, if_pos rfl]
      exact Nat.le_trans ih (Nat.le_add_left _ _)
  | cons_cons item _ ih =>
      rw [tally_cons, tally_cons, if_pos rfl]
      split <;> omega

/-- A tally grows with what the items weigh. -/
theorem tally_mono {heavier : β → Nat} (p : β → Bool) {items : List β}
    (grows : ∀ item ∈ items, weight item ≤ heavier item) :
    tally weight p items ≤ tally heavier p items := by
  induction items with
  | nil => exact Nat.le_refl _
  | cons item others ih =>
      obtain ⟨here, grows⟩ := List.forall_mem_cons.mp grows
      rw [tally_cons, tally_cons]
      apply Nat.add_le_add _ (ih grows)
      split
      · exact here
      · exact Nat.le_refl _

/-- When one of several lists grows, all of them together grow by as much. -/
theorem tally_flatMap_modify {p : β → Bool} {items : γ → List β} {f : γ → γ} {parts : List γ}
    {i more : Nat} {part : γ} (here : parts[i]? = some part)
    (grown : tally weight p (items (f part)) = tally weight p (items part) + more) :
    tally weight p ((parts.modify i f).flatMap items) =
      tally weight p (parts.flatMap items) + more := by
  induction parts generalizing i with
  | nil => cases here
  | cons first others ih =>
      cases i with
      | zero =>
          cases here
          rw [List.modify_zero_cons, List.flatMap_cons, List.flatMap_cons, tally_append,
            tally_append, grown]
          omega
      | succ i =>
          rw [List.modify_succ_cons, List.flatMap_cons, List.flatMap_cons, tally_append,
            tally_append, ih here]
          omega

end Tally

/-! ### Counts -/

/-- An addition that stops at the largest count. -/
theorem toNat_addSaturating (a b : UInt64) :
    (addSaturating a b).toNat = min largestCount (a.toNat + b.toNat) := by
  have bounded : min largestCount (a.toNat + b.toNat) < UInt64.size :=
    Nat.lt_of_le_of_lt (Nat.min_le_left _ _) (by decide)
  rw [addSaturating, UInt64.toNat_ofNat_of_lt' bounded]

/-- A sum is zero only if both parts are, also where it stops growing. -/
theorem addSaturating_eq_zero_iff {a b : UInt64} :
    addSaturating a b = 0 ↔ a.toNat = 0 ∧ b.toNat = 0 := by
  rw [← UInt64.toNat_inj, toNat_addSaturating]
  show min largestCount (a.toNat + b.toNat) = 0 ↔ _
  rw [largestCount]
  omega

def Sample.bytes (direction : Direction) (sample : Sample) : Nat :=
  match direction with
  | .up => sample.up.toNat
  | .down => sample.down.toNat

/-- Further bytes are added in their direction, unless the count would pass the largest one. -/
theorem Sample.bytes_add {sample : Sample} {length : UInt64} {along : Direction}
    (room : sample.bytes along + length.toNat ≤ largestCount) (direction : Direction) :
    (sample.add length along).bytes direction =
      sample.bytes direction + if along = direction then length.toNat else 0 := by
  have counted := Nat.min_eq_right room
  cases along with
  | up =>
      cases direction with
      | up => exact (toNat_addSaturating _ _).trans counted
      | down => rfl
  | down =>
      cases direction with
      | up => rfl
      | down => exact (toNat_addSaturating _ _).trans counted

/-- Bytes counted for an endpoint add to the tallies that ask for it, if the tally of its own counter
in their direction stays within the largest count. -/
theorem tally_countIn {fresh : Sample} (zero : ∀ direction, fresh.bytes direction = 0)
    {length : UInt64} {along : Direction} {counters : List Sample}
    (room : tally (Sample.bytes along) (Sample.isOf fresh.ip fresh.port) counters +
      length.toNat ≤ largestCount) (direction : Direction) (q : IpAddress → UInt16 → Bool) :
    tally (Sample.bytes direction) (fun sample => q sample.ip sample.port)
        (Collector.countIn fresh length along counters) =
      tally (Sample.bytes direction) (fun sample => q sample.ip sample.port) counters +
        if q fresh.ip fresh.port && along == direction then length.toNat else 0 := by
  induction counters with
  | nil =>
      rw [Collector.countIn, tally_cons, tally_nil, Sample.bytes_add (by simpa [zero] using room),
        zero]
      cases along <;> cases direction <;> cases asked : q fresh.ip fresh.port <;>
        simp [Sample.add, asked]
  | cons counter others ih =>
      rw [tally_cons] at room
      rw [Collector.countIn]
      by_cases here : counter.isOf fresh.ip fresh.port = true
      · obtain ⟨ip, port⟩ : counter.ip = fresh.ip ∧ counter.port = fresh.port := by
          simpa [Sample.isOf] using here
        rw [if_pos here] at room ⊢
        rw [tally_cons, tally_cons, Sample.bytes_add (by omega)]
        cases along <;> cases direction <;> cases asked : q fresh.ip fresh.port <;>
          simp [Sample.add, asked, ip, port] <;> omega
      · rw [if_neg here, Nat.zero_add] at room
        rw [if_neg here, tally_cons, tally_cons, ih room, Nat.add_assoc]

/-! ### Totals -/

def Totals.bytes (direction : Direction) (totals : Totals) : Nat :=
  match direction with
  | .up => totals.up.toNat
  | .down => totals.down.toNat

theorem Totals.bytes_le (direction : Direction) (totals : Totals) :
    totals.bytes direction ≤ largestCount := by
  cases direction with
  | up => exact Nat.le_of_lt_succ totals.up.toNat_lt
  | down => exact Nat.le_of_lt_succ totals.down.toNat_lt

/-- Adding samples one by one stops where adding all at once would, whatever was there before. -/
theorem Totals.bytes_foldl (direction : Direction) (samples : List Sample) (totals : Totals) :
    (samples.foldl
      (fun totals sample =>
        { up := addSaturating totals.up sample.up
          down := addSaturating totals.down sample.down : Totals }) totals).bytes direction =
      min largestCount (totals.bytes direction +
        tally (Sample.bytes direction) (fun _ => true) samples) := by
  induction samples generalizing totals with
  | nil => exact (Nat.min_eq_right (totals.bytes_le direction)).symm
  | cons sample others ih =>
      have more : ({ up := addSaturating totals.up sample.up
                     down := addSaturating totals.down sample.down : Totals }).bytes direction =
          min largestCount (totals.bytes direction + sample.bytes direction) := by
        cases direction with
        | up => exact toNat_addSaturating _ _
        | down => exact toNat_addSaturating _ _
      rw [List.foldl_cons, ih, tally_cons, if_pos rfl, more]
      omega

/-- Totals are exact up to the largest count. -/
theorem Totals.bytes_of (direction : Direction) (samples : List Sample) :
    (Totals.of samples).bytes direction =
      min largestCount (tally (Sample.bytes direction) (fun _ => true) samples) := by
  rw [Totals.of, bytes_foldl]
  cases direction with
  | up => exact congrArg (min largestCount) (Nat.zero_add _)
  | down => exact congrArg (min largestCount) (Nat.zero_add _)

/-- Totals are silent if nothing went in either direction. -/
theorem Totals.isSilent_iff {totals : Totals} :
    totals.isSilent = true ↔ ∀ direction, totals.bytes direction = 0 := by
  rw [Totals.isSilent, beq_iff_eq, addSaturating_eq_zero_iff]
  constructor
  · intro both direction
    cases direction with
    | up => exact both.1
    | down => exact both.2
  · intro all
    exact ⟨all .up, all .down⟩

end TrafficMeter.Usage
