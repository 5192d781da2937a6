/-
Module: TrafficMeter.Proofs.RangeQueries
Purpose: What is found in a range of time is what a look at every sample held would find, in the same
  order: in a series that was merged and cleared at will, and in a store whose collectors count, are
  harvested and are stopped at any times.  A harvest loop that is told to end may harvest once more,
  after the samples held were forgotten.
Main exports: Sample.EndsWithin, Series.search_eq_filter, Store.Deed, Store.after, Store.changes,
  Store.series_after, Store.length_changes_le, search_and_query_filter
-/
import TrafficMeter.Proofs.MeteringBooks
import TrafficMeter.Proofs.SeriesRetention

namespace TrafficMeter.Usage

/-! ### Ranges -/

/-- The window of a sample ends at `start` or later and before `stop`; a `stop` of zero or less sets
no upper end. -/
def Sample.EndsWithin (start stop : Int64) (sample : Sample) : Prop :=
  start ≤ sample.windowEnd ∧ (0 < stop → sample.windowEnd < stop)

instance (start stop : Int64) (sample : Sample) : Decidable (sample.EndsWithin start stop) :=
  inferInstanceAs (Decidable (_ ∧ _))

namespace Series

variable {series : Series}

theorem search_eq_filter (sorted : series.Sorted) (start stop : Int64) :
    series.search start stop =
      series.toList.filter fun sample => sample.EndsWithin start stop := by
  rw [search_eq sorted]
  refine List.filter_congr fun sample _ => ?_
  rw [Bool.eq_iff_iff, decide_eq_true_iff, Sample.EndsWithin, Bool.and_eq_true, Bool.not_eq_true',
    decide_eq_false_iff_not, Int64.not_lt, Bool.or_eq_true, Bool.not_eq_true',
    decide_eq_false_iff_not, decide_eq_true_iff, imp_iff_not_or]

/-- No window ends in a range that stops where it starts, or before that. -/
theorem search_eq_nil (sorted : series.Sorted) {start stop : Int64} (bounded : 0 < stop)
    (inverted : stop ≤ start) : series.search start stop = [] := by
  rw [search_eq_filter sorted, List.filter_eq_nil_iff]
  intro sample _ within
  obtain ⟨begun, ended⟩ := of_decide_eq_true within
  exact absurd (ended bounded) (Int64.not_lt.mpr (Int64.le_trans inverted begun))

end Series

/-! ### Stores -/

namespace Store

/-- What happens to a store: something to one of its collectors, a harvest, a loop that is started,
the end, or the last turn of a loop that was told to end. -/
inductive Deed where
  | collect (index : Nat) (f : Collector → Collector)
  | harvest (clock : Nat → Int64)
  | start (moment : Nat)
  | stop
  | letGo (harvests : Bool) (moment : Nat) (clock : Nat → Int64)

def act (store : Store) : Deed → Store
  | .collect index f => store.modifyCollector index f
  | .harvest clock => (store.harvestBy clock).2
  | .start moment => store.start moment
  | .stop => store.stop
  | .letGo harvests moment clock => store.letGo harvests moment clock

def after (store : Store) (deeds : List Deed) : Store :=
  deeds.foldl act store

/-- What a deed does to the series of a store. -/
def effect (store : Store) : Deed → List Series.Change
  | .collect _ _ => []
  | .harvest clock => [.merge (store.batchBy clock)]
  | .start _ => []
  | .stop => [.clear]
  | .letGo harvests moment clock =>
      match store.leaving with
      | [] => []
      | due :: _ => if harvests && due ≤ moment then [.merge (store.batchBy clock)] else []

/-- What all deeds do to the series of a store, with the batches as the collectors give them then. -/
def changes (store : Store) : List Deed → List Series.Change
  | [] => []
  | deed :: later => store.effect deed ++ (store.act deed).changes later

theorem series_act (store : Store) (deed : Deed) :
    (store.act deed).series = store.series.after (store.effect deed) := by
  cases deed with
  | collect index f => rfl
  | harvest clock => rfl
  | start moment =>
      rw [act, Store.start]
      split <;> rfl
  | stop => rfl
  | letGo harvests moment clock =>
      rw [act, letGo, effect]
      cases store.leaving with
      | nil => rfl
      | cons due leaving =>
          dsimp only
          by_cases late : (harvests && due ≤ moment) = true
          · rw [if_pos late, if_pos late]
            rfl
          · rw [if_neg late, if_neg late]
            rfl

theorem series_after (store : Store) (deeds : List Deed) :
    (store.after deeds).series = store.series.after (store.changes deeds) := by
  induction deeds generalizing store with
  | nil => rfl
  | cons deed later ih =>
      refine (ih (store.act deed)).trans ?_
      rw [series_act, changes, Series.after, Series.after, Series.after, List.foldl_append]

/-- What may still happen to a store that was stopped, once nobody harvests it by hand: its collectors
count, and its loops get their last turns. -/
def Deed.IsLate : Deed → Prop
  | .collect _ _ => True
  | .letGo _ _ _ => True
  | _ => False

/-- A last turn uses up a loop, whether it harvests or not. -/
theorem leaving_letGo (store : Store) (harvests : Bool) (moment : Nat) (clock : Nat → Int64) :
    (store.letGo harvests moment clock).leaving = store.leaving.tail := by
  rw [letGo]
  cases found : store.leaving with
  | nil => exact found
  | cons due leaving =>
      dsimp only
      split <;> rfl

theorem length_effect_letGo_le (store : Store) (harvests : Bool) (moment : Nat)
    (clock : Nat → Int64) :
    (store.effect (.letGo harvests moment clock)).length ≤
      store.leaving.length - store.leaving.tail.length := by
  rw [effect]
  cases store.leaving with
  | nil => exact Nat.zero_le _
  | cons due leaving =>
      dsimp only
      split <;> simp

/-- After a stop every loop that was told to end harvests once at most. -/
theorem length_changes_le (store : Store) (deeds : List Deed) (late : ∀ deed ∈ deeds, deed.IsLate) :
    (store.changes deeds).length ≤ store.leaving.length := by
  induction deeds generalizing store with
  | nil => exact Nat.zero_le _
  | cons deed later ih =>
      obtain ⟨here, others⟩ := List.forall_mem_cons.mp late
      have further := ih (store.act deed) others
      rw [changes, List.length_append]
      cases deed with
      | collect index f => exact (Nat.zero_add _).trans_le further
      | letGo harvests moment clock =>
          -- the turn takes its loop off the list, which pays for the batch it may merge
          have now := store.length_effect_letGo_le harvests moment clock
          have fewer := store.leaving.tail_sublist.length_le
          rw [act, leaving_letGo] at further
          rw [act]
          omega
      | harvest clock => exact here.elim
      | start moment => exact here.elim
      | stop => exact here.elim

/-- Whatever the collectors counted and whenever they were harvested, the series is in order. -/
theorem sorted_after (collectors : List Collector) (settings : StoreSettings) (deeds : List Deed) :
    ((create collectors settings).after deeds).series.Sorted := by
  rw [series_after]
  exact (Series.Retains.after _).sorted

end Store

open Series Store

/-- A range that is looked up by halving holds just the samples of the series whose windows end in it,
as they stand there, which is by window end; and none if it is empty or inverted.  A query of a store
so gives each sample that its harvests left in the series and that fits the range and the question, and
nothing else. -/
theorem search_and_query_filter :
    (∀ (capacity : Nat) (course : List Change) (start stop : Int64),
      let series := ({ capacity } : Series).after course
      series.search start stop = series.toList.filter (fun sample => sample.EndsWithin start stop) ∧
        series.toList.Pairwise (fun left right => left.windowEnd ≤ right.windowEnd) ∧
        (0 < stop → stop ≤ start → series.search start stop = [])) ∧
    ∀ (collectors : List Collector) (settings : StoreSettings) (deeds : List Deed)
      (p : Sample → Bool) (start stop : Int64),
      let store := (Store.create collectors settings).after deeds
      let retained := (Series.empty settings.capacity).after
        ((Store.create collectors settings).changes deeds)
      store.series = retained ∧
        store.query p start stop =
          retained.toList.filter (fun sample => sample.EndsWithin start stop && p sample) ∧
        (store.query p start stop).Pairwise fun left right => left.windowEnd ≤ right.windowEnd := by
  constructor
  · intro capacity course start stop series
    have sorted : series.Sorted := (Retains.after course).sorted
    exact ⟨search_eq_filter sorted start stop, sorted, search_eq_nil sorted⟩
  · intro collectors settings deeds p start stop store retained
    have kept : store.series = retained := series_after _ deeds
    have sorted : store.series.Sorted := sorted_after collectors settings deeds
    have found : store.query p start stop =
        retained.toList.filter (fun sample => sample.EndsWithin start stop && p sample) := by
      rw [query, search_eq_filter sorted, kept, List.filter_filter]
      exact List.filter_congr fun sample _ => Bool.and_comm _ _
    refine ⟨kept, found, ?_⟩
    rw [found, ← kept]
    exact List.Pairwise.filter _ sorted

/-- Two collectors of one interface count for different endpoints.  The later harvest has the earlier
times, and the clock goes on while it is under way. -/
def sampleDeeds : List Deed :=
  [.collect 0 fun collector => collector.count 60 default 53 .up, .harvest fun _ => 20,
    .collect 1 fun collector => collector.count 40 default 80 .down,
    .collect 0 fun collector => collector.count 10 default 53 .down,
    .harvest fun index => if index = 0 then -10 else -9]

/-- An inverted range holds nothing, and a harvest at the end of a range is left out. -/
theorem search_and_query_filter_of_sampleDeeds :
    let collector := Collector.create default default 0
    let store := (Store.create [collector, collector] default).after sampleDeeds
    (({ capacity := 3 } : Series).after sampleChanges).search 20 10 = [] ∧
      (store.query (fun sample => sample.port ≠ 443) (-20) 20).map
        (fun sample => (sample.port, sample.windowEnd)) = [(53, -10), (80, -9)] := by
  intro collector store
  obtain ⟨searches, queries⟩ := search_and_query_filter
  refine ⟨(searches 3 sampleChanges 20 10).2.2 (by decide) (by decide), ?_⟩
  rw [(queries [collector, collector] default sampleDeeds _ (-20) 20).2.1]
  cbv

end TrafficMeter.Usage
