/-
Module: TrafficMeter.Proofs.SeriesRange
Purpose: A series stays sorted by window end, and holds nothing but samples that were merged into it,
  none more often than it was.  The two positions found by halving bound just the samples asked for.
Main exports: partitionPoint_spec, CutsAt, Series.Sorted, Series.search_eq, Series.merge_sorted,
  Series.merge_subperm
-/
import Mathlib.Data.List.Perm.Subperm
import TrafficMeter.Usage.Series

namespace TrafficMeter.Usage

/-! ### Halving -/

/-- Where the items that satisfy `p` come first, those before the position found satisfy it, and
those from there on do not. -/
theorem partitionPoint_spec {α : Type} {p : α → Bool} {items : Array α}
    (first : ∀ i j (inside : j < items.size), (le : i ≤ j) → p items[j] = true → p items[i] = true)
    {low high : Nat} (inside : high ≤ items.size) (ordered : low ≤ high)
    (below : ∀ i (within : i < items.size), i < low → p items[i] = true)
    (above : ∀ i (within : i < items.size), high ≤ i → p items[i] = false) :
    partitionPoint p items low high inside ≤ items.size ∧
      ∀ i (within : i < items.size),
        i < partitionPoint p items low high inside ↔ p items[i] = true := by
  fun_induction partitionPoint p items low high inside with
  | case1 low high inside more middle satisfied ih =>
      apply ih (by omega)
      · intro i within before
        exact first i middle (by omega) (by omega) satisfied
      · exact above
  | case2 low high inside more middle unsatisfied ih =>
      apply ih (by omega) below
      intro i within behind
      by_contra holds
      exact unsatisfied (first middle i within behind (by simpa using holds))
  | case3 low high inside done =>
      have same : low = high := by omega
      refine ⟨by omega, fun i within => ⟨below i within, fun holds => ?_⟩⟩
      by_contra behind
      rw [above i within (by omega)] at holds
      cases holds

/-! ### Cuts -/

section Cuts

variable {α : Type} {p q : α → Bool}

/-- The items in front of a position satisfy `p`, and those from there on do not. -/
def CutsAt (p : α → Bool) (items : List α) (cut : Nat) : Prop :=
  ∀ i (inside : i < items.length), i < cut ↔ p items[i] = true

theorem CutsAt.head {item : α} {others : List α} {cut : Nat} (cuts : CutsAt p (item :: others) cut) :
    0 < cut ↔ p item = true :=
  cuts 0 (Nat.succ_pos _)

/-- A cut of a list, with its head taken off. -/
theorem CutsAt.tail {item : α} {others : List α} {cut : Nat} (cuts : CutsAt p (item :: others) cut) :
    CutsAt p others (cut - 1) := by
  intro i inside
  have shifted := cuts (i + 1) (Nat.succ_lt_succ inside)
  rw [List.getElem_cons_succ] at shifted
  rw [← shifted]
  omega

/-- The items between two cuts are those behind the one and in front of the other. -/
theorem CutsAt.drop_take_eq_filter {items : List α} {first last : Nat}
    (lower : CutsAt p items first) (upper : CutsAt q items last) :
    (items.drop first).take (last - first) = items.filter fun item => !p item && q item := by
  induction items generalizing first last with
  | nil => simp
  | cons item others ih =>
      have rest := ih lower.tail upper.tail
      cases first with
      | zero =>
          have outside : p item = false := by simpa using lower.head
          cases last with
          | zero =>
              have late : q item = false := by simpa using upper.head
              rw [List.filter_cons_of_neg (by simp [late]), ← rest]
              rfl
          | succ last =>
              have early : q item = true := upper.head.mp (Nat.succ_pos _)
              rw [List.filter_cons_of_pos (by simp [outside, early]), ← rest]
              rfl
      | succ first =>
          have before : p item = true := lower.head.mp (Nat.succ_pos _)
          rw [List.filter_cons_of_neg (by simp [before]), ← rest, List.drop_succ_cons]
          congr 1
          omega

end Cuts

namespace Series

/-- The samples are in the order of their window ends. -/
def Sorted (series : Series) : Prop :=
  series.toList.Pairwise fun left right => left.windowEnd ≤ right.windowEnd

instance (series : Series) : Decidable series.Sorted :=
  inferInstanceAs (Decidable (series.toList.Pairwise fun left right =>
    left.windowEnd ≤ right.windowEnd))

theorem sorted_empty (capacity : Nat) : (empty capacity).Sorted :=
  List.Pairwise.nil

/-! ### Searching -/

/-- The samples before a position are those whose windows end before its time. -/
theorem cutsAt_position {series : Series} (sorted : series.Sorted) (time : Int64) :
    CutsAt (fun sample => decide (sample.windowEnd < time)) series.toList (series.position time) := by
  let early (sample : Sample) : Bool := sample.windowEnd < time
  have first : ∀ i j (inside : j < series.samples.size), (le : i ≤ j) →
      early series.samples[j] = true → early series.samples[i] = true := by
    intro i j inside le holds
    rcases Nat.eq_or_lt_of_le le with rfl | before
    · exact holds
    · have ends := List.pairwise_iff_getElem.mp sorted i j (Nat.lt_trans before inside) inside before
      exact decide_eq_true (Int64.lt_of_le_of_lt ends (of_decide_eq_true holds))
  exact (partitionPoint_spec first (Nat.le_refl _) (Nat.zero_le _)
    (fun i _ none => absurd none (Nat.not_lt_zero i))
    (fun i within behind => absurd within (Nat.not_lt_of_le behind))).2

/-- A search gives the samples whose windows end in the range, oldest first. -/
theorem search_eq {series : Series} (sorted : series.Sorted) (start stop : Int64) :
    series.search start stop = series.toList.filter fun sample =>
      !decide (sample.windowEnd < start) &&
        (!decide (0 < stop) || decide (sample.windowEnd < stop)) := by
  rw [search, Array.toList_extract, List.extract_eq_take_drop]
  apply (cutsAt_position sorted start).drop_take_eq_filter
  intro i inside
  by_cases bounded : 0 < stop
  · rw [if_pos bounded, cutsAt_position sorted stop i inside, decide_eq_true bounded]
    exact Iff.rfl
  · rw [if_neg bounded, decide_eq_false bounded]
    exact iff_of_true inside rfl

/-- What is found stands in the series, in its order. -/
theorem search_sublist (series : Series) (start stop : Int64) :
    (series.search start stop).Sublist series.toList := by
  rw [search, Array.toList_extract, List.extract_eq_take_drop]
  exact (List.take_sublist _ _).trans (List.drop_sublist _ _)

/-! ### Merging -/

theorem endsBy_trans (a b c : Sample) (one : a.endsBy b = true) (two : b.endsBy c = true) :
    a.endsBy c = true :=
  decide_eq_true (Int64.le_trans (of_decide_eq_true one) (of_decide_eq_true two))

theorem endsBy_total (a b : Sample) : (a.endsBy b || b.endsBy a) = true := by
  rcases Int64.le_total a.windowEnd b.windowEnd with before | behind
  · have ordered : a.endsBy b = true := decide_eq_true before
    rw [ordered, Bool.true_or]
  · have ordered : b.endsBy a = true := decide_eq_true behind
    rw [ordered, Bool.or_true]

/-- Sorting by window end puts every sample behind those that ended before it. -/
theorem mergeSort_endsBy_pairwise (samples : List Sample) :
    (samples.mergeSort Sample.endsBy).Pairwise
      fun left right => left.windowEnd ≤ right.windowEnd :=
  (List.pairwise_mergeSort endsBy_trans endsBy_total samples).imp of_decide_eq_true

/-- A merge sorts what it leaves, so that the next search may halve it. -/
theorem merge_sorted {series : Series} (sorted : series.Sorted) (batch : List Sample) :
    (series.merge batch).Sorted := by
  rw [merge]
  split
  · exact sorted
  · rw [Sorted, toList, List.toList_toArray]
    split
    · exact (mergeSort_endsBy_pairwise batch).drop
    · exact mergeSort_endsBy_pairwise _

/-- A merged series holds nothing but what it held before and the samples of the batch. -/
theorem merge_subperm (series : Series) (batch : List Sample) :
    (series.merge batch).toList.Subperm (series.toList ++ batch) := by
  have sorted := List.mergeSort_perm batch Sample.endsBy
  rw [merge]
  split
  · exact (List.sublist_append_left _ _).subperm
  · rw [toList, List.toList_toArray]
    split
    · have dropped := (List.drop_sublist (batch.length - series.capacity)
        (batch.mergeSort Sample.endsBy)).subperm
      rw [List.length_mergeSort]
      exact (dropped.trans sorted.subperm).trans (List.sublist_append_right _ _).subperm
    · have kept := (List.drop_sublist (series.evicted batch.length) series.toList).append_right batch
      rw [List.length_mergeSort]
      exact ((List.mergeSort_perm _ _).trans (sorted.append_left _)).subperm.trans kept.subperm

theorem capacity_merge (series : Series) (batch : List Sample) :
    (series.merge batch).capacity = series.capacity := by
  rw [merge]
  split <;> rfl

/-- A batch that fits beside what is held pushes nothing out. -/
theorem merge_perm_of_room {series : Series} {batch : List Sample}
    (room : series.toList.length + batch.length ≤ series.capacity) :
    (series.merge batch).toList.Perm (series.toList ++ batch) := by
  have sorted := List.mergeSort_perm batch Sample.endsBy
  have size : series.size = series.toList.length := rfl
  rw [merge]
  split
  · next none =>
      rw [List.isEmpty_iff.mp none, List.append_nil]
  · have kept : series.evicted batch.length = 0 := by
      rw [evicted, size, if_pos (by omega)]
    rw [toList, List.toList_toArray, List.length_mergeSort, if_neg (by omega), kept, List.drop_zero]
    exact (List.mergeSort_perm _ _).trans (sorted.append_left _)

end Series

end TrafficMeter.Usage
