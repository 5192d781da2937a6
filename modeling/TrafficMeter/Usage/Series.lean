/-
Module: TrafficMeter.Usage.Series
Purpose: A bounded history of samples in the order of their window ends.  A batch that does not
  fit beside what is held pushes out the oldest samples, at least half of the bound at a time.
Main exports: Series, Series.empty, Series.merge, Series.search, partitionPoint
-/
import TrafficMeter.Usage.Sample

namespace TrafficMeter.Usage

/-- Samples sorted by window end, at most `capacity` of them. -/
structure Series where
  capacity : Nat := 0
  samples : Array Sample := #[]
deriving Repr, Inhabited

def Sample.endsBy (left right : Sample) : Bool :=
  left.windowEnd ≤ right.windowEnd

/-- Find by halving the first position between `low` and `high` whose item does not satisfy `p`,
if the items that do satisfy it come first. -/
def partitionPoint {α : Type} (p : α → Bool) (items : Array α) (low high : Nat)
    (inside : high ≤ items.size) : Nat :=
  if h : low < high then
    let middle := low + (high - low) / 2
    if p (items[middle]) then partitionPoint p items (middle + 1) high inside
    else partitionPoint p items low middle (by omega)
  else low
  termination_by high - low

namespace Series

/-- The empty history with room for at least one sample. -/
def empty (capacity : Nat) : Series :=
  { capacity := max capacity 1 }

/-- The samples held, oldest first. -/
def toList (series : Series) : List Sample :=
  series.samples.toList

/-- The number of samples held. -/
def size (series : Series) : Nat :=
  series.samples.size

/-- Forget every sample. -/
def clear (series : Series) : Series :=
  { series with samples := #[] }

/-- How many samples give way to a batch of the given size. -/
def evicted (series : Series) (batchSize : Nat) : Nat :=
  let overflow := series.size + batchSize - series.capacity
  if overflow = 0 then 0 else min series.size (max overflow (series.capacity / 2))

/-- Take in a batch, which may come in any order.  One that is larger than the whole bound leaves
only its own newest samples. -/
def merge (series : Series) (batch : List Sample) : Series :=
  if batch.isEmpty then series
  else
    let batch := batch.mergeSort Sample.endsBy
    let kept :=
      if series.capacity < batch.length then batch.drop (batch.length - series.capacity)
      else (series.toList.drop (series.evicted batch.length) ++ batch).mergeSort Sample.endsBy
    { series with samples := kept.toArray }

/-- The position of the first sample whose window ends at `time` or later. -/
def position (series : Series) (time : Int64) : Nat :=
  partitionPoint (fun sample => sample.windowEnd < time) series.samples 0 series.samples.size
    (Nat.le_refl _)

/-- The samples whose windows end at `start` or later and before `stop`; a `stop` of zero or less
sets no upper end. -/
def search (series : Series) (start stop : Int64) : List Sample :=
  let first := series.position start
  let last := if 0 < stop then series.position stop else series.size
  (series.samples.extract first last).toList

end Series

end TrafficMeter.Usage
