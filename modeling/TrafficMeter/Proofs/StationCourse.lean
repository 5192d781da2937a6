/-
Module: TrafficMeter.Proofs.StationCourse
Purpose: What goes on by itself at a station: harvests, ticks and deliveries, and the frames that
  collectors capture.  None of it starts or stops anything: reporters keep their sessions, stores and
  status, collectors keep capturing or not, and a store that was taken down stays empty.
Main exports: Collector.Capturing, Collector.Ended, Store.Live, Store.Retired, Store.Continues,
  Station.Continues, Station.continues_advance
-/
import TrafficMeter.Station

namespace TrafficMeter

open Usage

/-! ### Stores -/

namespace Usage

namespace Collector

/-- Frames are being captured. -/
structure Capturing (collector : Collector) : Prop where
  reads : collector.reading.isSome = true
  uncancelled : collector.cancelled = false

/-- Capture was stopped for good. -/
structure Ended (collector : Collector) : Prop where
  silent : collector.reading = none
  cancelled : collector.cancelled = true

/-- What a collector does, whatever it has counted. -/
def post (collector : Collector) : Option Net.Filter × Bool :=
  (collector.reading, collector.cancelled)

/-- Handing out the counters does not touch the capture loop. -/
@[simp] theorem post_exportAt (collector : Collector) (now : Int64) :
    (collector.exportAt now).2.post = collector.post :=
  rfl

/-- A frame may change counters, and never the capture loop. -/
theorem post_observe (collector : Collector) (filter : Net.Filter) (frame : Bytes) :
    (collector.observe filter frame).post = collector.post := by
  rw [observe]
  split
  · rfl
  · split
    · split <;> rfl
    · rfl

@[simp] theorem post_receive_frame (collector : Collector) (bytes : Bytes) :
    (collector.receive (.frame bytes)).post = collector.post := by
  cases reading : collector.reading with
  | none => simp [receive, reading]
  | some filter => simp only [receive, reading, post_observe]

/-- Whether a collector captures is told by what its loop does, not by what it counted. -/
theorem capturing_congr {collector other : Collector} (same : other.post = collector.post) :
    other.Capturing ↔ collector.Capturing := by
  obtain ⟨reading, cancelled⟩ := Prod.mk.inj same
  constructor <;> intro ⟨reads, uncancelled⟩ <;> constructor <;> simp_all

/-- And so is whether it was stopped for good. -/
theorem ended_congr {collector other : Collector} (same : other.post = collector.post) :
    other.Ended ↔ collector.Ended := by
  obtain ⟨reading, cancelled⟩ := Prod.mk.inj same
  constructor <;> intro ⟨silent, cancelled⟩ <;> constructor <;> simp_all

/-- A first stop ends the loop of a collector that captures, and nothing starts it again. -/
theorem Capturing.stop {collector : Collector} (capturing : collector.Capturing) :
    collector.stop.Ended := by
  constructor <;> simp [Collector.stop, capturing.uncancelled]

/-- A new collector whose start succeeds captures. -/
theorem capturing_of_start {interface : Net.Interface} {settings : CaptureSettings} {now : Int64}
    {opened : Except CaptureError Unit} {collector : Collector}
    (started : (create interface settings now).start opened = .ok collector) :
    collector.Capturing := by
  simp only [start, create, Bool.false_eq_true, if_false] at started
  cases compiled : compileFilter settings.filter with
  | error error =>
      rw [compiled] at started
      cases started
  | ok filter =>
      rw [compiled] at started
      cases opened with
      | error error => cases started
      | ok _ =>
          cases started
          exact ⟨rfl, rfl⟩

end Collector

namespace Store

/-- A store that is being filled: all its collectors capture. -/
structure Live (store : Store) : Prop where
  uncancelled : store.cancelled = false
  capturing : ∀ collector ∈ store.collectors, collector.Capturing

/-- A store that was taken down with its collectors. -/
structure Retired (store : Store) : Prop where
  cancelled : store.cancelled = true
  idle : store.loops = []
  vacant : store.size = 0
  ended : ∀ collector ∈ store.collectors, collector.Ended

/-- A store that is taken down with all its collectors is retired: it holds nothing and has no loop
that would fill it. -/
theorem Live.stop {store : Store} (live : store.Live) :
    { store with collectors := store.collectors.map Collector.stop }.stop.Retired where
  cancelled := rfl
  idle := rfl
  vacant := rfl
  ended := by
    intro collector member
    obtain ⟨before, there, rfl⟩ := List.mem_map.mp member
    exact (live.capturing before there).stop

/-- A store goes on: it may be filled while it has a harvest loop, but nobody starts or stops it. -/
structure Continues (store next : Store) : Prop where
  cancelled : next.cancelled = store.cancelled
  collectors : next.collectors.map Collector.post = store.collectors.map Collector.post
  idle : store.loops = [] → next.loops = [] ∧ next.series = store.series

namespace Continues

variable {store next last : Store}

theorem refl (store : Store) : store.Continues store :=
  ⟨rfl, rfl, fun idle => ⟨idle, rfl⟩⟩

theorem trans (first : store.Continues next) (second : next.Continues last) :
    store.Continues last := by
  refine ⟨second.cancelled.trans first.cancelled, second.collectors.trans first.collectors, ?_⟩
  intro idle
  obtain ⟨still, series⟩ := first.idle idle
  obtain ⟨stillIdle, series'⟩ := second.idle still
  exact ⟨stillIdle, series'.trans series⟩

/-- What is true of all collectors stays so, if it only depends on what they do. -/
theorem forall_collectors (continues : store.Continues next) {p : Collector → Prop}
    (congr : ∀ {collector other : Collector}, other.post = collector.post →
      (p other ↔ p collector)) (all : ∀ collector ∈ store.collectors, p collector) :
    ∀ collector ∈ next.collectors, p collector := by
  intro collector member
  have posted : collector.post ∈ next.collectors.map Collector.post := List.mem_map_of_mem member
  rw [continues.collectors] at posted
  obtain ⟨before, there, same⟩ := List.mem_map.mp posted
  exact (congr same.symm).mpr (all before there)

/-- A store that goes on is still being filled. -/
theorem live (continues : store.Continues next) (live : store.Live) : next.Live where
  uncancelled := continues.cancelled.trans live.uncancelled
  capturing := continues.forall_collectors Collector.capturing_congr live.capturing

/-- A store that was retired stays so: without a loop nobody harvests into it. -/
theorem retired (continues : store.Continues next) (retired : store.Retired) : next.Retired where
  cancelled := continues.cancelled.trans retired.cancelled
  idle := (continues.idle retired.idle).1
  vacant := by
    rw [size, (continues.idle retired.idle).2]
    exact retired.vacant
  ended := continues.forall_collectors Collector.ended_congr retired.ended

end Continues

/-- A harvest takes the counters out of the collectors, and lets them do what they do. -/
theorem post_harvestBy (store : Store) (clock : Nat → Int64) :
    (store.harvestBy clock).2.collectors.map Collector.post =
      store.collectors.map Collector.post := by
  apply List.ext_getElem?
  intro index
  simp [harvestBy, Function.comp_def]

/-- Harvests, as many as there are. -/
theorem harvests_spec (store : Store) (now : Int64) (count : Nat) :
    let harvested := Nat.repeat (fun store => (harvest store now).2) count store
    harvested.cancelled = store.cancelled ∧
      harvested.collectors.map Collector.post = store.collectors.map Collector.post := by
  induction count with
  | zero => exact ⟨rfl, rfl⟩
  | succ count ih =>
      obtain ⟨cancelled, collectors⟩ := ih
      exact ⟨cancelled, (post_harvestBy _ fun _ => now).trans collectors⟩

/-- Harvests that are due fill the store and leave the rest of it. -/
theorem continues_run (store : Store) (moment : Nat) (now : Int64) :
    store.Continues (store.run moment now) := by
  obtain ⟨cancelled, collectors⟩ :=
    harvests_spec store now (store.loops.filter (· ≤ moment)).length
  refine ⟨cancelled, collectors, fun idle => ?_⟩
  simp [run, idle, Nat.repeat]

/-- A captured frame changes the counters of one collector and nothing else. -/
theorem continues_receive (store : Store) (index : Nat) (bytes : Bytes) :
    store.Continues (store.modifyCollector index fun collector =>
      collector.receive (.frame bytes)) := by
  refine ⟨rfl, ?_, fun idle => ⟨idle, rfl⟩⟩
  apply List.ext_getElem?
  intro place
  simp only [modifyCollector, List.getElem?_map, List.getElem?_modify]
  cases store.collectors[place]? with
  | none => rfl
  | some collector =>
      by_cases here : index = place
      · simp [here]
      · simp [here]

end Store

end Usage

/-! ### Reporters -/

/-- What a reporter does, whatever it has reported. -/
def Reporter.post (reporter : Reporter) : Session × Nat × Reporter.Status :=
  (reporter.session, reporter.store, reporter.status)

/-- A tick moves the window of a reporter; its session, its store and its status stay. -/
theorem Reporter.post_tick (reporter : Reporter) (store : Store) (id : Uuid) (now : Int64) :
    (reporter.tick store id now).2.post = reporter.post := by
  simp only [tick]
  split
  · rfl
  · split <;> rfl

/-! ### The station -/

namespace Station

/-- A station goes on by itself. -/
structure Continues (station next : Station) : Prop where
  reporters : next.reporters.map Reporter.post = station.reporters.map Reporter.post
  stores : ∀ number : Nat, ∃ f : Store → Store, (∀ store : Store, store.Continues (f store)) ∧
    next.stores[number]? = station.stores[number]?.map f

namespace Continues

variable {station next last : Station}

theorem refl (station : Station) : station.Continues station :=
  ⟨rfl, fun _ => ⟨id, Store.Continues.refl, by simp⟩⟩

theorem trans (first : station.Continues next) (second : next.Continues last) :
    station.Continues last := by
  refine ⟨second.reporters.trans first.reporters, fun number => ?_⟩
  obtain ⟨f, goesOn, one⟩ := first.stores number
  obtain ⟨g, goesOn', two⟩ := second.stores number
  refine ⟨g ∘ f, fun store => (goesOn store).trans (goesOn' _), ?_⟩
  rw [two, one, Option.map_map]

/-! What was there, and what is there then -/

/-- Every reporter is still there under its number. -/
theorem reporter_after (continues : station.Continues next) {number : Nat} {reporter : Reporter}
    (found : station.reporters[number]? = some reporter) :
    ∃ after, next.reporters[number]? = some after ∧ after.post = reporter.post := by
  have same := congrArg (fun posts => posts[number]?) continues.reporters
  simpa [found] using same

/-- No reporter has come along on its own. -/
theorem reporter_before (continues : station.Continues next) {number : Nat} {reporter : Reporter}
    (found : next.reporters[number]? = some reporter) :
    ∃ before, station.reporters[number]? = some before ∧ before.post = reporter.post := by
  have same := congrArg (fun posts => posts[number]?) continues.reporters.symm
  simpa [found] using same

/-- Every store is still there under its number, and went on. -/
theorem store_after (continues : station.Continues next) {number : Nat} {store : Store}
    (found : station.stores[number]? = some store) :
    ∃ after, next.stores[number]? = some after ∧ store.Continues after := by
  obtain ⟨f, goesOn, same⟩ := continues.stores number
  exact ⟨f store, by simp [same, found], goesOn store⟩

/-- No store has come along on its own. -/
theorem store_before (continues : station.Continues next) {number : Nat} {store : Store}
    (found : next.stores[number]? = some store) :
    ∃ before, station.stores[number]? = some before ∧ before.Continues store := by
  obtain ⟨f, goesOn, same⟩ := continues.stores number
  rw [found] at same
  obtain ⟨before, there, rfl⟩ := Option.map_eq_some_iff.mp same.symm
  exact ⟨before, there, goesOn before⟩

/-- Steps that each let a station go on do so one after another. -/
theorem foldl {β : Type} {f : Station → β → Station} (each : ∀ (station : Station) (item : β),
    station.Continues (f station item)) (station : Station) (items : List β) :
    station.Continues (items.foldl f station) := by
  induction items generalizing station with
  | nil => exact .refl station
  | cons item others ih => exact (each station item).trans (ih (f station item))

end Continues

/-- A change that lets every store go on may be made to one of them. -/
theorem continues_modifyStore (station : Station) (number : Nat) {f : Store → Store}
    (goesOn : ∀ store : Store, store.Continues (f store)) :
    station.Continues (station.modifyStore number f) := by
  refine ⟨rfl, fun place => ⟨fun store => if number = place then f store else store, ?_, ?_⟩⟩
  · intro store
    dsimp only
    split
    · exact goesOn store
    · exact .refl store
  · simp [modifyStore, List.getElem?_modify]

/-- A reporter may be changed in anything but what it does. -/
theorem continues_modifyReporter (station : Station) {number : Nat} {f : Reporter → Reporter}
    (keeps : ∀ reporter, station.reporters[number]? = some reporter →
      (f reporter).post = reporter.post) :
    station.Continues (station.modifyReporter number f) := by
  refine ⟨?_, (Continues.refl station).stores⟩
  apply List.ext_getElem?
  intro place
  simp only [modifyReporter, List.getElem?_map, List.getElem?_modify]
  by_cases here : number = place
  · subst here
    cases found : station.reporters[number]? with
    | none => rfl
    | some reporter => simp [keeps reporter found]
  · simp [here]

/-- A tick adds a report to the depot, and starts or stops nobody. -/
theorem continues_tick (station : Station) (number : Nat) (now : Int64) :
    station.Continues (station.tick number now).2 := by
  simp only [tick]
  split
  · exact .refl station
  · next reporter found =>
      have moved := continues_modifyReporter station (f := fun _ =>
        (reporter.tick ((station.stores[reporter.store]?).getD default)
          (Uuid.ofRandom station.issued) now).2) fun other there => by
            cases found.symm.trans there
            exact Reporter.post_tick reporter _ _ now
      split
      · exact moved
      · exact ⟨moved.reporters, moved.stores⟩

theorem continues_tickIfDue (moment : Nat) (station : Station) (number : Nat) :
    station.Continues (tickIfDue moment station number) := by
  simp only [tickIfDue]
  split
  · exact .refl station
  · split
    · exact (continues_tick station number _).trans (continues_modifyReporter _ fun _ _ => rfl)
    · exact .refl station

/-- One waking lets every loop that is due have its turn: harvests, ticks and deliveries. -/
theorem continues_wake (station : Station) (moment : Nat) :
    station.Continues (station.wake moment) := by
  let now := station.clock.wallAt moment
  let harvested := { station with stores := station.stores.map fun store : Store => store.run moment now }
  have harvests : station.Continues harvested :=
    ⟨rfl, fun number => ⟨fun store : Store => store.run moment now,
      fun store => store.continues_run moment now, List.getElem?_map⟩⟩
  have ticks := harvests.trans
    (Continues.foldl (continues_tickIfDue moment) harvested (List.range station.reporters.length))
  -- the deliveries that follow touch neither reporters nor stores
  exact ⟨ticks.reporters, ticks.stores⟩

/-- By induction on the wakings that are left, each of which goes on from the one before. -/
theorem continues_wakeUntil (stop limit : Nat) (station : Station) :
    station.Continues (wakeUntil due? wake stop limit station) := by
  induction limit generalizing station with
  | zero => exact .refl station
  | succ limit ih =>
      simp only [wakeUntil]
      split
      · split
        · exact (station.continues_wake _).trans (ih _)
        · exact .refl station
      · exact .refl station

theorem continues_passTime (start stop : Nat) (station : Station) :
    station.Continues (passTime due? wake start stop station) := by
  rw [passTime]
  split
  · exact station.continues_wakeUntil stop (stop - start + 1)
  · exact .refl station

/-- Letting time pass starts and stops nothing. -/
theorem continues_advance (station : Station) (milliseconds : Nat) :
    station.Continues (station.advance milliseconds) := by
  have passed := station.continues_passTime station.clock.moment
    (station.clock.moment + milliseconds)
  exact ⟨passed.reporters, passed.stores⟩

end Station

end TrafficMeter
