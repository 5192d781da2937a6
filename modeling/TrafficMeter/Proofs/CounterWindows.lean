/-
Module: TrafficMeter.Proofs.CounterWindows
Purpose: What a collector hands out, window by window.  A frame counts for at most one endpoint and in
  one direction.  Each export holds one sample for every endpoint that was counted for since the export
  before it, with the sum of the bytes up to the largest number of 64 bits, and no other; so all
  exports and the counters that are still held account for every byte once.
Main exports: Credit, Credits, Collector.Event, Collector.Trial, Window, Ledger, Counts, Counts.count,
  Collector.Trial.Keeps, Counts.heldFor_le, counters_exact_by_window
-/
import Mathlib.Data.List.Forall2
import Mathlib.Data.List.Induction
import Mathlib.Data.List.Nodup
import TrafficMeter.Proofs.CounterSums

namespace TrafficMeter.Usage

open Net

/-! ### What counts -/

/-- Bytes that count for an endpoint in one direction. -/
structure Credit where
  ip : IpAddress
  port : UInt16
  direction : Direction
  length : Nat
deriving DecidableEq, Repr

def Credit.endpoint (credit : Credit) : IpAddress × UInt16 :=
  (credit.ip, credit.port)

def Sample.endpoint (sample : Sample) : IpAddress × UInt16 :=
  (sample.ip, sample.port)

/-- What a captured frame counts for: one that a filter accepts counts in full length, down from its
source if it is sent to the interface, and else up to its target if the interface sends it. -/
inductive Credits (interface : Interface) (filter : Filter) (frame : Bytes) : Credit → Prop where
  | down {flow : Flow} (decoded : Flow.ofFrame? frame = some flow)
      (accepted : filter.holds flow = true)
      (arrives : flow.targetHardware = interface.address) :
      Credits interface filter frame ⟨flow.source, flow.sourcePort, .down, frame.length⟩
  | up {flow : Flow} (decoded : Flow.ofFrame? frame = some flow)
      (accepted : filter.holds flow = true)
      (passes : flow.targetHardware ≠ interface.address)
      (leaves : flow.sourceHardware = interface.address) :
      Credits interface filter frame ⟨flow.target, flow.targetPort, .up, frame.length⟩

/-- What a frame counts for, if for anything. -/
def credit? (interface : Interface) (filter : Filter) (frame : Bytes) : Option Credit :=
  (Flow.ofFrame? frame).bind fun flow =>
    if filter.holds flow then
      (Collector.endpoint? interface flow).map fun (ip, port, direction) =>
        ⟨ip, port, direction, frame.length⟩
    else none

/-- The credit a frame earns, computed by the collector's reading, is the one its layout defines. -/
theorem credit?_eq_some_iff {interface : Interface} {filter : Filter} {frame : Bytes}
    {credit : Credit} :
    credit? interface filter frame = some credit ↔ Credits interface filter frame credit := by
  constructor
  · intro counted
    obtain ⟨flow, decoded, counted⟩ := Option.bind_eq_some_iff.mp counted
    split at counted
    · next accepted =>
        rw [Collector.endpoint?] at counted
        split at counted
        · next arrives =>
            cases counted
            exact .down decoded accepted arrives
        · next passes =>
            split at counted
            · next leaves =>
                cases counted
                exact .up decoded accepted passes leaves
            · cases counted
    · cases counted
  · intro credits
    cases credits with
    | down decoded accepted arrives =>
        simp [credit?, decoded, accepted, Collector.endpoint?, arrives]
    | up decoded accepted passes leaves =>
        simp [credit?, decoded, accepted, Collector.endpoint?, passes, leaves]

/-! ### What happens to a collector -/

/-- What happens to a collector. -/
inductive Collector.Event where
  /-- a frame is captured, whose length is a 64-bit number -/
  | capture (frame : Bytes) (measured : frame.length < UInt64.size)
  | add (length : UInt64) (ip : IpAddress) (port : UInt16) (direction : Direction)
  /-- the counters are handed out -/
  | handOut (now : Int64)

/-- What counts because of an event. -/
def Collector.Event.credit? (interface : Interface) (filter : Filter) :
    Collector.Event → Option Credit
  | .capture frame _ => Usage.credit? interface filter frame
  | .add length ip port direction => some ⟨ip, port, direction, length.toNat⟩
  | .handOut _ => none

def Collector.Event.time? : Collector.Event → Option Int64
  | .handOut now => some now
  | _ => none

theorem Collector.Event.credit?_of_time? {interface : Interface} {filter : Filter} (event : Event)
    {now : Int64} (timed : event.time? = some now) : event.credit? interface filter = none := by
  cases event with
  | handOut now => rfl
  | capture frame measured => cases timed
  | add length ip port direction => cases timed

/-- A collector with all that it has handed out. -/
structure Collector.Trial where
  collector : Collector
  exports : List (List Sample) := []

def Collector.Trial.step (filter : Filter) (trial : Trial) : Event → Trial
  | .capture frame _ => { trial with collector := trial.collector.observe filter frame }
  | .add length ip port direction =>
      { trial with collector := trial.collector.count length ip port direction }
  | .handOut now =>
      { collector := (trial.collector.exportAt now).2
        exports := trial.exports ++ [(trial.collector.exportAt now).1] }

def Collector.Trial.after (filter : Filter) (trial : Trial) (events : List Event) : Trial :=
  events.foldl (step filter) trial

/-- The time from one export to the next, and what counted in between. -/
structure Window where
  start : Int64
  stop : Int64
  credits : List Credit

/-- The windows that were closed by an export, and what has counted since then. -/
structure Ledger where
  start : Int64
  credits : List Credit := []
  closed : List Window := []

def Ledger.step (interface : Interface) (filter : Filter) (ledger : Ledger)
    (event : Collector.Event) : Ledger :=
  match event.time? with
  | some now =>
      { start := now
        credits := []
        closed := ledger.closed ++ [⟨ledger.start, now, ledger.credits⟩] }
  | none => { ledger with credits := ledger.credits ++ (event.credit? interface filter).toList }

def Ledger.after (interface : Interface) (filter : Filter) (ledger : Ledger)
    (events : List Collector.Event) : Ledger :=
  events.foldl (step interface filter) ledger

/-! ### Counters -/

/-- The bytes that count for an endpoint in a direction. -/
def credited (credits : List Credit) (endpoint : IpAddress × UInt16) (direction : Direction) : Nat :=
  tally Credit.length
    (fun credit => credit.endpoint == endpoint && credit.direction == direction) credits

/-- The samples are one for each endpoint that something counted for, and they hold what counted, up
to the largest number of 64 bits. -/
structure Counts (credits : List Credit) (samples : List Sample) : Prop where
  distinct : (samples.map Sample.endpoint).Nodup
  touched : ∀ endpoint,
    endpoint ∈ samples.map Sample.endpoint ↔ endpoint ∈ credits.map Credit.endpoint
  bytes : ∀ sample ∈ samples, ∀ direction,
    sample.bytes direction = min (UInt64.size - 1) (credited credits sample.endpoint direction)

/-- One credit more adds its length to its own endpoint and direction. -/
theorem credited_concat (credits : List Credit) (credit : Credit) (endpoint : IpAddress × UInt16)
    (direction : Direction) :
    credited (credits ++ [credit]) endpoint direction = credited credits endpoint direction +
      if credit.endpoint == endpoint && credit.direction == direction then credit.length else 0 :=
  tally_concat _ _ _ _

/-- An endpoint without a credit has been credited nothing. -/
theorem credited_of_untouched {credits : List Credit} {endpoint : IpAddress × UInt16}
    (untouched : endpoint ∉ credits.map Credit.endpoint) (direction : Direction) :
    credited credits endpoint direction = 0 := by
  apply tally_eq_zero
  intro credit member
  have apart : (credit.endpoint == endpoint) = false := by
    apply beq_eq_false_iff_ne.mpr
    rintro rfl
    exact untouched (List.mem_map_of_mem member)
  rw [apart, Bool.false_and]

@[simp] theorem Sample.endpoint_add (sample : Sample) (length : UInt64) (along : Direction) :
    (sample.add length along).endpoint = sample.endpoint := by
  cases along <;> rfl

theorem Sample.bytes_lt (sample : Sample) (direction : Direction) :
    sample.bytes direction < UInt64.size := by
  cases direction with
  | up => exact sample.up.toNat_lt
  | down => exact sample.down.toNat_lt

/-- Further bytes are added in their direction, up to the largest number of 64 bits. -/
theorem Sample.bytes_add_eq_min (sample : Sample) (length : UInt64) (along direction : Direction) :
    (sample.add length along).bytes direction =
      min (UInt64.size - 1)
        (sample.bytes direction + if along = direction then length.toNat else 0) := by
  have other := Nat.min_eq_right (Nat.le_sub_one_of_lt (sample.bytes_lt direction))
  cases along with
  | up =>
      cases direction with
      | up => exact toNat_addSaturating _ _
      | down => exact other.symm
  | down =>
      cases direction with
      | up => exact other.symm
      | down => exact toNat_addSaturating _ _

namespace Collector

variable {fresh : Sample} {length : UInt64} {along : Direction} {counters : List Sample}

/-- A sample is found by the endpoint it counts for. -/
theorem isOf_iff {ip : IpAddress} {port : UInt16} {sample : Sample} :
    sample.isOf ip port = true ↔ sample.endpoint = (ip, port) := by
  simp [Sample.isOf, Sample.endpoint]

/-- Counting gives an endpoint its counter if it has none. -/
theorem endpoints_countIn :
    (countIn fresh length along counters).map Sample.endpoint =
      if fresh.endpoint ∈ counters.map Sample.endpoint then counters.map Sample.endpoint
      else counters.map Sample.endpoint ++ [fresh.endpoint] := by
  induction counters with
  | nil => simp [countIn]
  | cons counter others ih =>
      rw [countIn]
      by_cases here : counter.endpoint = fresh.endpoint
      · rw [if_pos (isOf_iff.mpr here)]
        simp [here]
      · rw [if_neg (mt isOf_iff.mp here), List.map_cons, ih, List.map_cons]
        by_cases known : fresh.endpoint ∈ others.map Sample.endpoint
        · rw [if_pos known, if_pos (List.mem_cons_of_mem _ known)]
        · have unknown : fresh.endpoint ∉ counter.endpoint :: others.map Sample.endpoint :=
            List.not_mem_cons_of_ne_of_not_mem (Ne.symm here) known
          rw [if_neg known, if_neg unknown]
          rfl

/-- After counting, a counter is one of another endpoint, as it was, or that of this endpoint with
the further bytes. -/
theorem mem_countIn (distinct : (counters.map Sample.endpoint).Nodup) {sample : Sample}
    (member : sample ∈ countIn fresh length along counters) :
    sample ∈ counters ∧ sample.endpoint ≠ fresh.endpoint ∨
      ∃ old, sample = old.add length along ∧ old.endpoint = fresh.endpoint ∧
        (old ∈ counters ∨ old = fresh ∧ fresh.endpoint ∉ counters.map Sample.endpoint) := by
  induction counters with
  | nil =>
      rw [countIn, List.mem_singleton] at member
      exact .inr ⟨fresh, member, rfl, .inr ⟨rfl, List.not_mem_nil⟩⟩
  | cons counter others ih =>
      obtain ⟨apart, distinct⟩ := List.nodup_cons.mp distinct
      rw [countIn] at member
      by_cases here : counter.endpoint = fresh.endpoint
      · rw [if_pos (isOf_iff.mpr here)] at member
        rcases List.mem_cons.mp member with rfl | other
        · exact .inr ⟨counter, rfl, here, .inl List.mem_cons_self⟩
        · refine .inl ⟨List.mem_cons_of_mem _ other, fun same => apart ?_⟩
          rw [here, ← same]
          exact List.mem_map_of_mem other
      · rw [if_neg (mt isOf_iff.mp here)] at member
        rcases List.mem_cons.mp member with rfl | further
        · exact .inl ⟨List.mem_cons_self, here⟩
        · rcases ih distinct further with ⟨kept, elsewhere⟩ | ⟨old, grown, same, before⟩
          · exact .inl ⟨List.mem_cons_of_mem _ kept, elsewhere⟩
          · refine .inr ⟨old, grown, same, ?_⟩
            rcases before with known | ⟨rfl, unknown⟩
            · exact .inl (List.mem_cons_of_mem _ known)
            · refine .inr ⟨rfl, fun known => ?_⟩
              rcases List.mem_cons.mp known with first | later
              · exact here first.symm
              · exact unknown later

end Collector

namespace Counts

variable {credits : List Credit} {samples : List Sample}

theorem nil : Counts [] [] where
  distinct := List.nodup_nil
  touched _ := Iff.rfl
  bytes := List.forall_mem_nil _

/-- Counting further bytes takes the counters along. -/
theorem count (counts : Counts credits samples) {fresh : Sample}
    (zero : ∀ direction, fresh.bytes direction = 0) {credit : Credit} {length : UInt64}
    (endpoint : fresh.endpoint = credit.endpoint) (exact : length.toNat = credit.length) :
    Counts (credits ++ [credit]) (Collector.countIn fresh length credit.direction samples) := by
  refine ⟨?distinct, fun other => ?touched, fun sample member direction => ?bytes⟩
  case distinct =>
    rw [Collector.endpoints_countIn]
    split
    · exact counts.distinct
    · next unknown =>
        exact List.nodup_append'.mpr ⟨counts.distinct, List.nodup_singleton _,
          List.disjoint_singleton.mpr unknown⟩
  case touched =>
    rw [Collector.endpoints_countIn, List.map_append, List.mem_append, ← counts.touched other]
    split
    · next known =>
        refine ⟨.inl, fun either => either.elim id fun last => ?_⟩
        rw [List.map_singleton, List.mem_singleton, ← endpoint] at last
        exact last ▸ known
    · rw [List.mem_append, endpoint]
      rfl
  case bytes =>
    rw [credited_concat]
    rcases Collector.mem_countIn counts.distinct member with
      ⟨kept, apart⟩ | ⟨old, rfl, same, before⟩
    · have elsewhere : (credit.endpoint == sample.endpoint) = false :=
        beq_eq_false_iff_ne.mpr fun here => apart (here.symm.trans endpoint.symm)
      rw [elsewhere, Bool.false_and, if_neg Bool.false_ne_true, Nat.add_zero]
      exact counts.bytes sample kept direction
    · have held : old.bytes direction =
          min (UInt64.size - 1) (credited credits old.endpoint direction) := by
        rcases before with known | ⟨rfl, unknown⟩
        · exact counts.bytes old known direction
        · rw [credited_of_untouched (mt (counts.touched _).mpr unknown), zero]
          rfl
      have here : (credit.endpoint == old.endpoint) = true := beq_iff_eq.mpr (endpoint ▸ same.symm)
      rw [Sample.endpoint_add, Sample.bytes_add_eq_min, held, here, Bool.true_and, exact]
      simp only [beq_iff_eq]
      omega

/-- Counters keep what they count when the end of their window is set. -/
theorem stamp (counts : Counts credits samples) (now : Int64) :
    Counts credits (samples.map fun sample => { sample with windowEnd := now }) := by
  have endpoints : (samples.map fun sample => { sample with windowEnd := now }).map Sample.endpoint =
      samples.map Sample.endpoint := List.map_map
  refine ⟨?_, ?_, ?_⟩
  · rw [endpoints]
    exact counts.distinct
  · rw [endpoints]
    exact counts.touched
  · intro stamped member direction
    obtain ⟨sample, held, rfl⟩ := List.mem_map.mp member
    have kept : ({ sample with windowEnd := now } : Sample).bytes direction =
        sample.bytes direction := by
      cases direction <;> rfl
    rw [kept]
    exact counts.bytes sample held direction

end Counts

/-! ### Event by event -/

/-- An export that holds what counted in a window, and says when it was. -/
structure Window.Exported (interface : Interface) (window : Window) (samples : List Sample) :
    Prop where
  counts : Counts window.credits samples
  stamped : ∀ sample ∈ samples, sample.hardware = interface.address ∧
    sample.windowStart = window.start ∧ sample.windowEnd = window.stop

theorem Credits.length_eq {interface : Interface} {filter : Filter} {frame : Bytes}
    {credit : Credit} (credits : Credits interface filter frame credit) :
    credit.length = frame.length := by
  cases credits <;> rfl

namespace Collector

/-- A frame is counted for its credit, and not at all if it has none. -/
theorem observe_eq (collector : Collector) (filter : Filter) (frame : Bytes) :
    collector.observe filter frame =
      match credit? collector.interface filter frame with
      | some credit =>
          collector.count (UInt64.ofNat credit.length) credit.ip credit.port credit.direction
      | none => collector := by
  rw [observe, credit?]
  cases Flow.ofFrame? frame with
  | none => rfl
  | some flow =>
      rw [Option.bind_some]
      dsimp only
      by_cases accepted : filter.holds flow = true
      · rw [if_pos accepted, if_pos accepted]
        cases endpoint? collector.interface flow <;> rfl
      · rw [if_neg accepted, if_neg accepted]

namespace Trial

/-- The exports and the counters that are held are those of the ledger. -/
structure Keeps (interface : Interface) (trial : Trial) (ledger : Ledger) : Prop where
  interface_eq : trial.collector.interface = interface
  since : trial.collector.lastExport = ledger.start
  counts : Counts ledger.credits trial.collector.counters
  begun : ∀ sample ∈ trial.collector.counters,
    sample.hardware = interface.address ∧ sample.windowStart = ledger.start
  exported : List.Forall₂ (Window.Exported interface) ledger.closed trial.exports

namespace Keeps

variable {interface : Interface} {filter : Filter} {trial : Trial} {ledger : Ledger}

/-- A collector just created keeps an empty ledger, its window opening at its creation. -/
theorem create (interface : Interface) (settings : CaptureSettings) (created : Int64) :
    Keeps interface ⟨.create interface settings created, []⟩ { start := created } where
  interface_eq := rfl
  since := rfl
  counts := .nil
  begun := List.forall_mem_nil _
  exported := .nil

theorem count (keeps : Keeps interface trial ledger) {credit : Credit} {length : UInt64}
    (exact : length.toNat = credit.length) :
    Keeps interface
      { trial with
        collector := trial.collector.count length credit.ip credit.port credit.direction }
      { ledger with credits := ledger.credits ++ [credit] } where
  interface_eq := keeps.interface_eq
  since := keeps.since
  counts := keeps.counts.count (fun direction => by cases direction <;> rfl) rfl exact
  begun := by
    intro sample member
    rcases mem_countIn keeps.counts.distinct member with ⟨kept, _⟩ | ⟨old, rfl, _, before⟩
    · exact keeps.begun sample kept
    · have begun : old.hardware = interface.address ∧ old.windowStart = ledger.start := by
        rcases before with known | ⟨rfl, _⟩
        · exact keeps.begun old known
        · exact ⟨congrArg Interface.address keeps.interface_eq, keeps.since⟩
      cases credit.direction <;> exact begun
  exported := keeps.exported

/-- Handing out closes the window: the samples carry what the ledger credited in it, and both start
anew. -/
theorem handOut (keeps : Keeps interface trial ledger) (now : Int64) :
    Keeps interface (trial.step filter (.handOut now))
      (ledger.step interface filter (.handOut now)) where
  interface_eq := keeps.interface_eq
  since := rfl
  counts := .nil
  begun := List.forall_mem_nil _
  exported := by
    apply List.rel_append keeps.exported
    refine .cons ⟨keeps.counts.stamp now, fun stamped member => ?_⟩ .nil
    obtain ⟨sample, held, rfl⟩ := List.mem_map.mp member
    obtain ⟨hardware, start⟩ := keeps.begun sample held
    exact ⟨hardware, start, rfl⟩

/-- Every event keeps collector and ledger in step. -/
theorem step (keeps : Keeps interface trial ledger) (event : Event) :
    Keeps interface (trial.step filter event) (ledger.step interface filter event) := by
  cases event with
  | capture frame measured =>
      have observed := observe_eq trial.collector filter frame
      rw [keeps.interface_eq] at observed
      rw [Trial.step, observed, Ledger.step]
      dsimp only [Event.time?, Event.credit?]
      cases counted : credit? interface filter frame with
      | none =>
          rw [Option.toList_none, List.append_nil]
          exact keeps
      | some credit =>
          apply keeps.count
          rw [(credit?_eq_some_iff.mp counted).length_eq]
          exact UInt64.toNat_ofNat_of_lt' measured
  | add length ip port direction =>
      let credit : Credit := ⟨ip, port, direction, length.toNat⟩
      have exact : length.toNat = credit.length := rfl
      exact keeps.count exact
  | handOut now => exact keeps.handOut now

/-- Collector and ledger agree after any events. -/
theorem after (keeps : Keeps interface trial ledger) (events : List Event) :
    Keeps interface (trial.after filter events) (ledger.after interface filter events) := by
  induction events generalizing trial ledger with
  | nil => exact keeps
  | cons event later ih => exact ih (keeps.step event)

end Keeps

end Trial

end Collector

/-! ### The windows -/

namespace Ledger

variable {interface : Interface} {filter : Filter}

theorem after_concat (ledger : Ledger) (events : List Collector.Event) (last : Collector.Event) :
    ledger.after interface filter (events ++ [last]) =
      (ledger.after interface filter events).step interface filter last :=
  List.foldl_concat _ _ _ _

/-- Whatever counts does so in one window. -/
theorem credits_after (created : Int64) (events : List Collector.Event) :
    let ledger := ({ start := created } : Ledger).after interface filter events
    ledger.closed.flatMap Window.credits ++ ledger.credits =
      events.filterMap (Collector.Event.credit? interface filter) := by
  induction events using List.reverseRecOn with
  | nil => rfl
  | append_singleton events last ih =>
      dsimp only at ih ⊢
      have counted : [last].filterMap (Collector.Event.credit? interface filter) =
          (last.credit? interface filter).toList := rfl
      rw [after_concat, List.filterMap_append, ← ih, counted, step]
      cases timed : last.time? with
      | some now => simp [last.credit?_of_time? timed]
      | none => exact (List.append_assoc _ _ _).symm

/-- Each export closes a window, and the next one begins there. -/
theorem windows_after (created : Int64) (events : List Collector.Event) :
    let ledger := ({ start := created } : Ledger).after interface filter events
    ledger.closed.map Window.stop = events.filterMap Collector.Event.time? ∧
      ledger.closed.map Window.start ++ [ledger.start] =
        created :: ledger.closed.map Window.stop := by
  induction events using List.reverseRecOn with
  | nil => exact ⟨rfl, rfl⟩
  | append_singleton events last ih =>
      obtain ⟨stops, starts⟩ := ih
      dsimp only at stops starts ⊢
      have closed : [last].filterMap Collector.Event.time? = last.time?.toList := rfl
      rw [after_concat, List.filterMap_append, ← stops, closed, step]
      cases last.time? with
      | some now =>
          rw [List.map_append, List.map_append, ← List.cons_append, ← starts]
          exact ⟨rfl, rfl⟩
      | none => exact ⟨(List.append_nil _).symm, starts⟩

end Ledger

/-! ### Every byte once -/

/-- In no direction does more count for one endpoint than a counter can hold. -/
def Fits (credits : List Credit) : Prop :=
  ∀ endpoint direction, credited credits endpoint direction < UInt64.size

/-- What counts in a direction for the endpoints asked for. -/
def creditedTo (asked : IpAddress × UInt16 → Bool) (direction : Direction)
    (credits : List Credit) : Nat :=
  tally Credit.length (fun credit => asked credit.endpoint && credit.direction == direction) credits

/-- What samples hold in a direction for the endpoints asked for. -/
def heldFor (asked : IpAddress × UInt16 → Bool) (direction : Direction)
    (samples : List Sample) : Nat :=
  tally (Sample.bytes direction) (fun sample => asked sample.endpoint) samples

section Accounts

variable (asked : IpAddress × UInt16 → Bool) (direction : Direction)

/-- What counts is what counts for one endpoint and what counts for the others. -/
theorem creditedTo_split (credits : List Credit) (endpoint : IpAddress × UInt16) :
    creditedTo asked direction credits =
      (if asked endpoint then credited credits endpoint direction else 0) +
        creditedTo asked direction (credits.filter fun credit => !(credit.endpoint == endpoint)) := by
  rw [creditedTo, tally_split _ _ fun credit => credit.endpoint == endpoint, creditedTo,
    tally_filter]
  congr 1
  -- the credits of this endpoint are asked for all together or not at all
  have shared : ∀ credit : Credit,
      (asked credit.endpoint && credit.direction == direction && credit.endpoint == endpoint) =
        (asked endpoint && (credit.endpoint == endpoint && credit.direction == direction)) := by
    intro credit
    by_cases here : credit.endpoint = endpoint
    · simp [here]
    · rw [beq_eq_false_iff_ne.mpr here, Bool.and_false, Bool.false_and, Bool.and_false]
  rw [tally_congr _ fun credit _ => shared credit]
  cases asked endpoint with
  | true => rfl
  | false => exact tally_eq_zero _ fun _ _ => rfl

/-- Taking one endpoint's credits away leaves the others' sums alone. -/
theorem credited_filter_of_ne {credits : List Credit} {endpoint other : IpAddress × UInt16}
    (apart : other ≠ endpoint) :
    credited (credits.filter fun credit => !(credit.endpoint == endpoint)) other direction =
      credited credits other direction := by
  rw [credited, tally_filter]
  apply tally_congr
  intro credit _
  by_cases here : credit.endpoint = endpoint
  · have elsewhere : (credit.endpoint == other) = false :=
      beq_eq_false_iff_ne.mpr fun same => apart (same.symm.trans here)
    rw [elsewhere, Bool.false_and, Bool.false_and]
  · rw [beq_eq_false_iff_ne.mpr here, Bool.not_false, Bool.and_true]

/-- Samples of distinct endpoints, among them all that something counted for, share out what
counted. -/
theorem tally_credited {samples : List Sample} (distinct : (samples.map Sample.endpoint).Nodup)
    {credits : List Credit}
    (covered : ∀ credit ∈ credits, credit.endpoint ∈ samples.map Sample.endpoint) :
    tally (fun sample => credited credits sample.endpoint direction)
        (fun sample => asked sample.endpoint) samples =
      creditedTo asked direction credits := by
  induction samples generalizing credits with
  | nil =>
      have none : credits = [] := List.eq_nil_iff_forall_not_mem.mpr fun credit member =>
        List.not_mem_nil (covered credit member)
      rw [none]
      rfl
  | cons sample others ih =>
      obtain ⟨apart, distinct⟩ := List.nodup_cons.mp distinct
      have outside : ∀ credit ∈ credits.filter fun credit => !(credit.endpoint == sample.endpoint),
          credit.endpoint ∈ others.map Sample.endpoint := by
        intro credit member
        obtain ⟨member, elsewhere⟩ := List.mem_filter.mp member
        rcases List.mem_cons.mp (covered credit member) with here | there
        · simp [here] at elsewhere
        · exact there
      have rest := ih distinct outside
      have same : ∀ other ∈ others,
          credited (credits.filter fun credit => !(credit.endpoint == sample.endpoint))
            other.endpoint direction = credited credits other.endpoint direction := by
        intro other member
        apply credited_filter_of_ne
        intro equal
        exact apart (equal ▸ List.mem_map_of_mem member)
      have shared := Nat.le_antisymm
        (tally_mono _ (fun sample => asked sample.endpoint) fun other member =>
          Nat.le_of_eq (same other member))
        (tally_mono _ (fun sample => asked sample.endpoint) fun other member =>
          Nat.le_of_eq (same other member).symm)
      rw [tally_cons, creditedTo_split asked direction credits sample.endpoint, ← rest, shared]

theorem creditedTo_append (front back : List Credit) :
    creditedTo asked direction (front ++ back) =
      creditedTo asked direction front + creditedTo asked direction back :=
  tally_append _ _ _ _

theorem heldFor_append (front back : List Sample) :
    heldFor asked direction (front ++ back) =
      heldFor asked direction front + heldFor asked direction back :=
  tally_append _ _ _ _

/-- Samples never hold more than what counted, and just that where no counter runs full. -/
theorem Counts.heldFor_le {credits : List Credit} {samples : List Sample}
    (counts : Counts credits samples) :
    heldFor asked direction samples ≤ creditedTo asked direction credits ∧
      (Fits credits → heldFor asked direction samples = creditedTo asked direction credits) := by
  have covered : ∀ credit ∈ credits, credit.endpoint ∈ samples.map Sample.endpoint :=
    fun credit member => (counts.touched _).mpr (List.mem_map_of_mem member)
  rw [← tally_credited asked direction counts.distinct covered]
  have below : ∀ sample ∈ samples,
      sample.bytes direction ≤ credited credits sample.endpoint direction := by
    intro sample member
    rw [counts.bytes sample member]
    exact Nat.min_le_right _ _
  refine ⟨tally_mono _ _ below, fun fits => Nat.le_antisymm (tally_mono _ _ below) ?_⟩
  apply tally_mono
  intro sample member
  have full := counts.bytes sample member direction
  rw [Nat.min_eq_right (Nat.le_sub_one_of_lt (fits _ _))] at full
  exact Nat.le_of_eq full.symm

/-- So it is with all exports together. -/
theorem heldFor_exports_le {interface : Interface} {closed : List Window}
    {exports : List (List Sample)}
    (exported : List.Forall₂ (Window.Exported interface) closed exports) :
    heldFor asked direction exports.flatten ≤
        creditedTo asked direction (closed.flatMap Window.credits) ∧
      ((∀ window ∈ closed, Fits window.credits) →
        heldFor asked direction exports.flatten =
          creditedTo asked direction (closed.flatMap Window.credits)) := by
  induction exported with
  | nil => exact ⟨Nat.le_refl _, fun _ => rfl⟩
  | cons first _ ih =>
      obtain ⟨below, exact⟩ := first.counts.heldFor_le asked direction
      rw [List.flatten_cons, List.flatMap_cons, heldFor_append, creditedTo_append]
      refine ⟨Nat.add_le_add below ih.1, fun fits => ?_⟩
      obtain ⟨here, later⟩ := List.forall_mem_cons.mp fits
      rw [exact here, ih.2 later]

end Accounts

/-- A collector counts frames and further bytes, and its counters are handed out at any times by any
clock.  A frame counts as `Credits` says, for one endpoint in one direction, and others leave the
counters alone.  Each export closes a window, from the export before it or the creation on, and what
counts does so in one window; the export holds one sample for each endpoint that something counted for
in its window, with the sums up to the largest number of 64 bits, and nothing is left in the counters;
and so it is with the counters that have not been handed out.  All of them together hold no more than
what counted, and just that if no counter runs full. -/
theorem counters_exact_by_window (interface : Interface) (settings : CaptureSettings)
    (filter : Filter) (created : Int64) (events : List Collector.Event) :
    let trial := (⟨.create interface settings created, []⟩ : Collector.Trial).after filter events
    let ledger := ({ start := created } : Ledger).after interface filter events
    let credits := events.filterMap (Collector.Event.credit? interface filter)
    (∀ frame credit, credit? interface filter frame = some credit ↔
        Credits interface filter frame credit) ∧
      (∀ frame, (∀ credit, ¬ Credits interface filter frame credit) →
        trial.collector.observe filter frame = trial.collector) ∧
      ledger.closed.map Window.stop = events.filterMap Collector.Event.time? ∧
      ledger.closed.map Window.start ++ [ledger.start] = created :: ledger.closed.map Window.stop ∧
      ledger.closed.flatMap Window.credits ++ ledger.credits = credits ∧
      List.Forall₂ (Window.Exported interface) ledger.closed trial.exports ∧
      (∀ now, (trial.collector.exportAt now).2.counters = []) ∧
      Counts ledger.credits trial.collector.counters ∧
      ∀ asked direction,
        heldFor asked direction (trial.exports.flatten ++ trial.collector.counters) ≤
            creditedTo asked direction credits ∧
          ((∀ window ∈ ledger.closed, Fits window.credits) → Fits ledger.credits →
            heldFor asked direction (trial.exports.flatten ++ trial.collector.counters) =
              creditedTo asked direction credits) := by
  intro trial ledger credits
  have keeps : trial.Keeps interface ledger :=
    (Collector.Trial.Keeps.create interface settings created).after events
  have partition : ledger.closed.flatMap Window.credits ++ ledger.credits = credits :=
    Ledger.credits_after created events
  obtain ⟨stops, starts⟩ :
      ledger.closed.map Window.stop = events.filterMap Collector.Event.time? ∧
        ledger.closed.map Window.start ++ [ledger.start] =
          created :: ledger.closed.map Window.stop := Ledger.windows_after created events
  refine ⟨fun _ _ => credit?_eq_some_iff, ?ignored, stops, starts, partition, keeps.exported,
    fun _ => rfl, keeps.counts, fun asked direction => ?once⟩
  case ignored =>
    intro frame nothing
    have none : credit? trial.collector.interface filter frame = none := by
      rw [keeps.interface_eq]
      exact Option.eq_none_iff_forall_ne_some.mpr fun credit counted =>
        nothing credit (credit?_eq_some_iff.mp counted)
    rw [Collector.observe_eq, none]
  case once =>
    obtain ⟨belowExports, exactExports⟩ := heldFor_exports_le asked direction keeps.exported
    obtain ⟨belowCounters, exactCounters⟩ := keeps.counts.heldFor_le asked direction
    rw [heldFor_append, ← partition, creditedTo_append]
    exact ⟨Nat.add_le_add belowExports belowCounters, fun fits fit =>
      congrArg₂ (· + ·) (exactExports fits) (exactCounters fit)⟩

/-- A counter runs full, an export finds nothing, and the window of the next one begins there. -/
example :
    let host : IpAddress := .v4 (IpAddress.quad 10 0 0 5)
    let trial := (⟨.create ⟨"eth0", .zero⟩ {} 3, []⟩ : Collector.Trial).after .any
      [.add 18446744073709551615 host 443 .up, .add 5 host 443 .up, .handOut 7, .handOut 6,
        .add 1 host 80 .down, .handOut 9]
    trial.exports =
      [[⟨.zero, host, 443, 18446744073709551615, 0, 3, 7⟩], [],
        [⟨.zero, host, 80, 0, 1, 6, 9⟩]] := by
  decide

end TrafficMeter.Usage
