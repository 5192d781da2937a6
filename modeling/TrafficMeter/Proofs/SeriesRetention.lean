/-
Module: TrafficMeter.Proofs.SeriesRetention
Purpose: Which samples a series keeps.  It is a stable sort by window end: samples whose windows end at
  the same time stand in the order in which they came.  What a merge takes out stands at the front, so
  it is what ended first, and of what ended at one time what came first; all else is kept, and the
  batch with it, unless the batch alone is too large.
Main exports: StableSort, StableSort.unique, StableSort.mergeSort, Series.Change, Series.after,
  Series.Retains, Series.Retains.after, merge_retains
-/
import Mathlib
import TrafficMeter.Proofs.SeriesRange

namespace TrafficMeter.Usage

/-! ### Stable sorting -/

/-- Whether the window of a sample ends at a time. -/
def Sample.endsAt (time : Int64) (sample : Sample) : Bool :=
  sample.windowEnd == time

/-- The samples in the order of their window ends.  Those that end at one time are the same as
before, in the same order. -/
structure StableSort (samples sorted : List Sample) : Prop where
  ordered : sorted.Pairwise fun left right => left.windowEnd ≤ right.windowEnd
  ties : ∀ time, sorted.filter (Sample.endsAt time) = samples.filter (Sample.endsAt time)

theorem Sample.endsAt_iff {time : Int64} {sample : Sample} :
    sample.endsAt time = true ↔ sample.windowEnd = time :=
  beq_iff_eq

theorem Sample.endsAt_windowEnd (sample : Sample) : sample.endsAt sample.windowEnd = true :=
  Sample.endsAt_iff.mpr rfl

/-- A sample is found among those that end when it does. -/
theorem mem_of_ties {first second : List Sample}
    (ties : ∀ time, first.filter (Sample.endsAt time) = second.filter (Sample.endsAt time))
    {sample : Sample} (member : sample ∈ first) : sample ∈ second := by
  have found : sample ∈ first.filter (Sample.endsAt sample.windowEnd) :=
    List.mem_filter.mpr ⟨member, sample.endsAt_windowEnd⟩
  rw [ties] at found
  exact (List.mem_filter.mp found).1

/-- In a series in order, the head ended first. -/
theorem windowEnd_head_le {head sample : Sample} {others : List Sample}
    (ordered : (head :: others).Pairwise fun left right => left.windowEnd ≤ right.windowEnd)
    (member : sample ∈ head :: others) : head.windowEnd ≤ sample.windowEnd := by
  rcases List.mem_cons.mp member with rfl | behind
  · exact Int64.le_refl _
  · exact List.rel_of_pairwise_cons ordered behind

/-- Lists in the order of window ends are told apart by the samples that end at one time. -/
theorem eq_of_ties {first second : List Sample}
    (ordered : first.Pairwise fun left right => left.windowEnd ≤ right.windowEnd)
    (ordered' : second.Pairwise fun left right => left.windowEnd ≤ right.windowEnd)
    (ties : ∀ time, first.filter (Sample.endsAt time) = second.filter (Sample.endsAt time)) :
    first = second := by
  induction first generalizing second with
  | nil =>
      cases second with
      | nil => rfl
      | cons other rest =>
          have absent := mem_of_ties (fun time => (ties time).symm) (List.mem_cons_self (a := other))
          cases absent
  | cons sample others ih =>
      cases second with
      | nil =>
          have absent := mem_of_ties ties (List.mem_cons_self (a := sample))
          cases absent
      | cons other rest =>
          -- both begin with the earliest time, and with the first sample of that time
          have behind := windowEnd_head_le ordered' (mem_of_ties ties List.mem_cons_self)
          have before := windowEnd_head_le ordered
            (mem_of_ties (fun time => (ties time).symm) List.mem_cons_self)
          have earliest : other.endsAt sample.windowEnd = true :=
            Sample.endsAt_iff.mpr (Int64.le_antisymm behind before)
          have front := ties sample.windowEnd
          rw [List.filter_cons_of_pos sample.endsAt_windowEnd, List.filter_cons_of_pos earliest]
            at front
          obtain ⟨rfl, _⟩ := List.cons.inj front
          congr 1
          apply ih ordered.of_cons ordered'.of_cons
          intro time
          have same := ties time
          rw [List.filter_cons, List.filter_cons] at same
          split at same
          · exact (List.cons.inj same).2
          · exact same

namespace StableSort

variable {samples sorted other : List Sample}

/-- There is but one stable sort. -/
theorem unique (one : StableSort samples sorted) (two : StableSort samples other) :
    sorted = other :=
  eq_of_ties one.ordered two.ordered fun time => (one.ties time).trans (two.ties time).symm

/-- Sorting by halves is stable. -/
theorem mergeSort (samples : List Sample) : StableSort samples (samples.mergeSort Sample.endsBy) where
  ordered := Series.mergeSort_endsBy_pairwise samples
  ties := by
    intro time
    have alike : (samples.filter (Sample.endsAt time)).Pairwise
        fun left right => left.endsBy right = true := by
      rw [List.pairwise_filter]
      refine List.pairwise_of_forall fun left right here there => ?_
      have same := (Sample.endsAt_iff.mp here).trans (Sample.endsAt_iff.mp there).symm
      exact decide_eq_true (same ▸ Int64.le_refl _)
    have kept := (List.sublist_mergeSort Series.endsBy_trans Series.endsBy_total alike
      (List.filter_sublist)).filter (Sample.endsAt time)
    simp only [List.filter_filter, Bool.and_self] at kept
    exact (kept.eq_of_length ((List.mergeSort_perm samples _).filter _).length_eq.symm).symm

theorem perm (sorts : StableSort samples sorted) : sorted.Perm samples := by
  rw [sorts.unique (mergeSort samples)]
  exact List.mergeSort_perm samples _

/-- What was in front and was sorted before may as well be sorted with the others. -/
theorem of_sorted_back {front : List Sample} (sorts : StableSort samples sorted)
    (whole : StableSort (front ++ sorted) other) : StableSort (front ++ samples) other where
  ordered := whole.ordered
  ties := by
    intro time
    rw [whole.ties, List.filter_append, sorts.ties, ← List.filter_append]

end StableSort

namespace Series

/-! ### One merge -/

/-- A merge in one equation: a batch beyond the capacity leaves its own end, any other joins what is
not evicted. -/
theorem toList_merge {series : Series} {batch : List Sample} (some : batch ≠ []) :
    (series.merge batch).toList =
      if series.capacity < batch.length
      then (batch.mergeSort Sample.endsBy).drop (batch.length - series.capacity)
      else (series.toList.drop (series.evicted batch.length) ++
        batch.mergeSort Sample.endsBy).mergeSort Sample.endsBy := by
  have filled : ¬ batch.isEmpty = true := fun none => some (List.isEmpty_iff.mp none)
  rw [merge, if_neg filled, toList, List.toList_toArray, List.length_mergeSort]

/-- A batch that is too large leaves the end of its own stable sort. -/
theorem merge_of_larger {series : Series} {batch : List Sample}
    (larger : series.capacity < batch.length) :
    ∃ sorted, StableSort batch sorted ∧
      (series.merge batch).toList = sorted.drop (batch.length - series.capacity) := by
  have some : batch ≠ [] := List.ne_nil_of_length_pos (Nat.zero_lt_of_lt larger)
  refine ⟨batch.mergeSort Sample.endsBy, .mergeSort batch, ?_⟩
  rw [toList_merge some, if_pos larger]

/-- Any other batch is sorted together with what is not evicted, and behind it. -/
theorem merge_of_le {series : Series} {batch : List Sample} (some : batch ≠ [])
    (fitting : batch.length ≤ series.capacity) :
    StableSort (series.toList.drop (series.evicted batch.length) ++ batch)
      (series.merge batch).toList := by
  rw [toList_merge some, if_neg (Nat.not_lt_of_le fitting)]
  exact (StableSort.mergeSort batch).of_sorted_back (.mergeSort _)

theorem length_merge_le {series : Series} (batch : List Sample)
    (room : series.size ≤ series.capacity) : (series.merge batch).size ≤ series.capacity := by
  by_cases none : batch = []
  · rw [none]
    exact room
  · rcases Nat.lt_or_ge series.capacity batch.length with larger | fitting
    · obtain ⟨sorted, sorts, merged⟩ := merge_of_larger larger
      show (series.merge batch).toList.length ≤ _
      rw [merged, List.length_drop, sorts.perm.length_eq]
      omega
    · have kept := (merge_of_le none fitting).perm.length_eq
      show (series.merge batch).toList.length ≤ _
      have held : series.toList.length = series.size := rfl
      rw [kept, List.length_append, List.length_drop, held, evicted]
      split <;> omega

/-! ### Merges and clears -/

/-- What happens to a series. -/
inductive Change where
  | merge (batch : List Sample)
  | clear

def change (series : Series) : Change → Series
  | .merge batch => series.merge batch
  | .clear => series.clear

def after (series : Series) (course : List Change) : Series :=
  course.foldl change series

/-- The samples that came since everything was last forgotten, in the order in which they came. -/
def Change.arrivals (course : List Change) : List Sample :=
  course.foldl (fun arrived => fun
    | .merge batch => arrived ++ batch
    | .clear => []) []

theorem Change.arrivals_concat_merge (course : List Change) (batch : List Sample) :
    arrivals (course ++ [.merge batch]) = arrivals course ++ batch := by
  rw [arrivals, List.foldl_concat, ← arrivals]

theorem Change.arrivals_concat_clear (course : List Change) :
    arrivals (course ++ [.clear]) = [] := by
  rw [arrivals, List.foldl_concat]

/-- A series in order and within its bound that holds the latest samples of each time. -/
structure Retains (series : Series) (arrivals : List Sample) : Prop where
  sorted : series.Sorted
  room : series.size ≤ series.capacity
  latest : ∀ time, series.toList.filter (Sample.endsAt time) <:+
    arrivals.filter (Sample.endsAt time)

namespace Retains

variable {series : Series} {arrivals : List Sample}

theorem of_vacant {capacity : Nat} : ({ capacity } : Series).Retains [] where
  sorted := List.Pairwise.nil
  room := Nat.zero_le _
  latest := fun _ => List.suffix_refl _

/-- One merge keeps the account of what arrived. -/
theorem merge (retains : series.Retains arrivals) (batch : List Sample) :
    (series.merge batch).Retains (arrivals ++ batch) := by
  refine ⟨merge_sorted retains.sorted batch, ?_, fun time => ?_⟩
  · rw [capacity_merge]
    exact length_merge_le batch retains.room
  · rw [List.filter_append]
    by_cases none : batch = []
    · subst none
      rw [List.filter_nil, List.append_nil]
      exact retains.latest time
    · rcases Nat.lt_or_ge series.capacity batch.length with larger | fitting
      · obtain ⟨sorted, sorts, merged⟩ := merge_of_larger larger
        rw [merged, ← sorts.ties]
        exact List.suffix_append_of_suffix ((List.drop_suffix _ _).filter _)
      · rw [(merge_of_le none fitting).ties, List.filter_append, List.suffix_append_self_iff]
        exact ((List.drop_suffix _ _).filter _).trans (retains.latest time)

theorem clear (series : Series) : series.clear.Retains [] where
  sorted := List.Pairwise.nil
  room := Nat.zero_le _
  latest := fun _ => List.suffix_refl _

end Retains

theorem capacity_after (series : Series) (course : List Change) :
    (series.after course).capacity = series.capacity := by
  induction course generalizing series with
  | nil => rfl
  | cons first later ih =>
      refine (ih (series.change first)).trans ?_
      cases first with
      | merge batch => exact capacity_merge series batch
      | clear => rfl

/-- Whatever was merged and cleared, the latest samples of each time are held. -/
theorem Retains.after {capacity : Nat} (course : List Change) :
    (({ capacity } : Series).after course).Retains (Change.arrivals course) := by
  induction course using List.reverseRecOn with
  | nil => exact .of_vacant
  | append_singleton earlier last ih =>
      rw [Series.after, List.foldl_concat]
      cases last with
      | merge batch =>
          rw [Change.arrivals_concat_merge]
          exact ih.merge batch
      | clear =>
          rw [Change.arrivals_concat_clear]
          exact .clear _

theorem evicted_le (series : Series) (batchSize : Nat) :
    series.evicted batchSize ≤ series.toList.length := by
  have held : series.toList.length = series.size := rfl
  rw [held, evicted]
  split
  · exact Nat.zero_le _
  · exact Nat.min_le_left _ _

end Series

open Series

/-- Whatever was merged into a series and cleared before, a merge keeps just the right samples.  An
empty batch changes nothing.  One that is larger than the bound leaves the end of its own stable sort.
Any other batch that does not fit beside what is held takes out as many samples as are too many, or
half of the bound if that is more, or all if there are not so many: no sample that is kept ended before
one of them, and of what ended at one time they are what came first.  What is left and the whole batch
are stably sorted together, and nothing else is held then.  The bound may be zero. -/
theorem merge_retains (capacity : Nat) (course : List Change) (batch : List Sample) :
    let series := ({ capacity } : Series).after course
    let merged := series.merge batch
    let overflow := series.size + batch.length - capacity
    (batch = [] → merged = series) ∧
      (capacity < batch.length → ∃ sorted, StableSort batch sorted ∧
        merged.toList = sorted.drop (batch.length - capacity)) ∧
      (batch ≠ [] → batch.length ≤ capacity → ∃ evicted kept, series.toList = evicted ++ kept ∧
        evicted.length =
          (if overflow = 0 then 0 else min series.size (max overflow (capacity / 2))) ∧
        (∀ old ∈ evicted, ∀ other ∈ kept, old.windowEnd ≤ other.windowEnd) ∧
        (∀ time, evicted.filter (Sample.endsAt time) ++ kept.filter (Sample.endsAt time) <:+
          (Change.arrivals course).filter (Sample.endsAt time)) ∧
        merged.toList.Perm (kept ++ batch) ∧
        ∀ result, StableSort (kept ++ batch) result ↔ result = merged.toList) ∧
      merged.toList.Subperm (series.toList ++ batch) ∧ merged.size ≤ capacity := by
  intro series merged overflow
  have retains : series.Retains (Change.arrivals course) := .after course
  have bound : series.capacity = capacity := capacity_after _ course
  refine ⟨?_, ?_, ?_, merge_subperm series batch, bound ▸ length_merge_le batch retains.room⟩
  · rintro rfl
    rfl
  · intro larger
    rw [← bound] at larger ⊢
    exact merge_of_larger larger
  · intro some fitting
    have whole : series.toList = series.toList.take (series.evicted batch.length) ++
        series.toList.drop (series.evicted batch.length) := (List.take_append_drop _ _).symm
    have sorts := merge_of_le some (Nat.le_trans fitting (Nat.le_of_eq bound.symm))
    refine ⟨_, _, whole, ?_, ?_, fun time => ?_, sorts.perm, fun result => ⟨fun other => ?_, ?_⟩⟩
    · rw [List.length_take_of_le (evicted_le _ _), evicted, bound]
    · have sorted := retains.sorted
      rw [Sorted, whole, List.pairwise_append] at sorted
      exact sorted.2.2
    · rw [← List.filter_append, ← whole]
      exact retains.latest time
    · exact other.unique sorts
    · rintro rfl
      exact sorts

/-- A sample of one port whose window ends at a time. -/
def sampleEnding (time : Int64) (port : UInt16) : Sample :=
  { (default : Sample) with port, windowEnd := time }

/-- Of three samples two end at the same time, and one came before they did. -/
def sampleChanges : List Change :=
  [.merge [sampleEnding 5 1], .clear, .merge [sampleEnding 20 2, sampleEnding 10 3],
    .merge [sampleEnding 20 4]]

/-- The earliest sample gives way to one that ends at the same time, and all of them do to a batch
that is too large. -/
theorem merge_retains_of_sampleChanges :
    let series := ({ capacity := 3 } : Series).after sampleChanges
    series.toList = [sampleEnding 10 3, sampleEnding 20 2, sampleEnding 20 4] ∧
      (∃ evicted kept, series.toList = evicted ++ kept ∧ evicted.length = 1 ∧
        (series.merge [sampleEnding 10 5]).toList.Perm (kept ++ [sampleEnding 10 5])) ∧
      ∃ sorted, StableSort ((List.range 4).map fun port => sampleEnding 7 (.ofNat port)) sorted ∧
        (series.merge ((List.range 4).map fun port => sampleEnding 7 (.ofNat port))).toList =
          sorted.drop 1 := by
  intro series
  have held : series.toList = [sampleEnding 10 3, sampleEnding 20 2, sampleEnding 20 4] := by
    cbv
  have size : series.size = 3 := congrArg List.length held
  refine ⟨held, ?_, ?_⟩
  · obtain ⟨_, _, fitting, _⟩ := merge_retains 3 sampleChanges [sampleEnding 10 5]
    obtain ⟨evicted, kept, whole, count, _, _, perm, _⟩ := fitting (List.cons_ne_nil _ _) (by decide)
    refine ⟨evicted, kept, whole, count.trans ?_, perm⟩
    show (if series.size + 1 - 3 = 0 then 0 else min series.size (max (series.size + 1 - 3) 1)) = 1
    rw [size]
    decide
  · obtain ⟨_, larger, _⟩ := merge_retains 3 sampleChanges
      ((List.range 4).map fun port => sampleEnding 7 (.ofNat port))
    exact larger (by decide)

end TrafficMeter.Usage
