/-
Module: TrafficMeter.Proofs.AgentLifecycle
Purpose: The life of the capture engine and of the reporters.  Sessions are started and ended in any
  order, with any luck in bringing up capture, while time passes and frames arrive.  At every moment
  there is capture exactly while a session is reported; reporters run while they are registered, all
  on the store that is being filled; and what was taken down stays down.
Main exports: Agent.Operation, Agent.step, Agent.after, Agent.AllowsAll, Agent.Tracks,
  Agent.Consistent, lifecycle_consistent
-/
import TrafficMeter.Agent
import TrafficMeter.Proofs.StationCourse

namespace TrafficMeter

open Net Usage

/-! ### What is done -/

/-- What is done to an agent, or happens to it. -/
inductive Agent.Operation where
  /-- start reporting a session, with what the settings and the system offer for capturing -/
  | start (session : Session) (capture : CaptureSettings) (backend : Backend)
  | «end» (key : SessionKey)
  /-- a reporter asks to be forgotten -/
  | deregister (key : SessionKey) (number : Nat)
  | shutdown
  | pass (milliseconds : Nat)
  /-- a frame arrives at an interface -/
  | frame (name : String) (bytes : Bytes)

namespace Agent

/-- The agent with other settings and another system for capturing. -/
def facing (agent : Agent) (capture : CaptureSettings) (backend : Backend) : Agent :=
  { agent with backend, settings := { agent.settings with capture } }

def step (agent : Agent) : Operation → Agent
  | .start session capture backend => ((agent.facing capture backend).startReport session).2
  | .end key => agent.endReport key
  | .deregister key number => agent.deregister key number
  | .shutdown => agent.shutdown
  | .pass milliseconds => { agent with station := agent.station.advance milliseconds }
  | .frame name bytes => agent.feed name (.frame bytes)

def after (agent : Agent) (course : List Operation) : Agent :=
  course.foldl step agent

/-- A reporter asks to be forgotten only after it was replaced or ended. -/
def Allows (agent : Agent) : Operation → Prop
  | .deregister key number => agent.reporterOf? key ≠ some number
  | _ => True

def AllowsAll (agent : Agent) : List Operation → Prop
  | [] => True
  | operation :: later => agent.Allows operation ∧ (agent.step operation).AllowsAll later

instance (agent : Agent) (operation : Operation) : Decidable (agent.Allows operation) := by
  cases operation <;> unfold Allows <;> infer_instance

instance decidableAllowsAll (agent : Agent) :
    (course : List Operation) → Decidable (agent.AllowsAll course)
  | [] => inferInstanceAs (Decidable True)
  | operation :: later =>
      have := decidableAllowsAll (agent.step operation) later
      inferInstanceAs (Decidable (_ ∧ _))

/-! ### The books of an agent -/

/-- Those who run are registered, but for the loose ones, which are about to be stopped; every
registered reporter runs on the store that is being filled, and the other stores were taken down. -/
structure Tracks (agent : Agent) (loose : List Nat) : Prop where
  keys : (agent.registry.map Prod.fst).Nodup
  registered : ∀ entry ∈ agent.registry, ∃ reporter,
    agent.station.reporters[entry.2]? = some reporter ∧ reporter.session.key = entry.1 ∧
      reporter.status = .running ∧ agent.engine = some reporter.store
  unregistered : ∀ (number : Nat) (reporter : Reporter),
    agent.station.reporters[number]? = some reporter → number ∉ loose →
      (∀ entry ∈ agent.registry, entry.2 ≠ number) → reporter.status = .stopped
  live : ∀ number, agent.engine = some number → ∃ store,
    agent.station.stores[number]? = some store ∧ store.Live
  retired : ∀ (number : Nat) (store : Store), agent.station.stores[number]? = some store →
    agent.engine ≠ some number → store.Retired

/-- The agent is at rest: nobody is loose, and capture is up exactly while somebody is registered. -/
structure Consistent (agent : Agent) : Prop where
  tracks : agent.Tracks []
  engine_iff : agent.engine.isSome = true ↔ agent.registry ≠ []

variable {agent next : Agent} {loose : List Nat}

/-! ### The registry -/

theorem mem_of_reporterOf? {key : SessionKey} {number : Nat}
    (found : agent.reporterOf? key = some number) : (key, number) ∈ agent.registry := by
  obtain ⟨front, back, whole, _⟩ := List.lookup_eq_some_iff.mp found
  rw [whole]
  simp

theorem Tracks.reporterOf?_of_mem (tracks : agent.Tracks loose) {entry : SessionKey × Nat}
    (member : entry ∈ agent.registry) : agent.reporterOf? entry.1 = some entry.2 :=
  Data.lookup_of_mem tracks.keys member

/-- A session the registry knows has a running reporter, and it reads the store of the engine that
is up. -/
theorem Tracks.registered_of_known (tracks : agent.Tracks loose) {key : SessionKey} {number : Nat}
    (known : agent.reporterOf? key = some number) :
    ∃ reporter, agent.station.reporters[number]? = some reporter ∧ reporter.session.key = key ∧
      reporter.status = .running ∧ agent.engine = some reporter.store :=
  tracks.registered _ (mem_of_reporterOf? known)

/-- What the registry holds of the others once a key was removed. -/
def without (agent : Agent) (key : SessionKey) : Agent :=
  { agent with registry := agent.registry.filter fun entry => entry.1 != key }

/-- Nobody who was registered under a key is registered once the key was removed. -/
theorem Tracks.free_without (tracks : agent.Tracks loose) {key : SessionKey} {number : Nat}
    (found : agent.reporterOf? key = some number) :
    ∀ entry ∈ (agent.without key).registry, entry.2 ≠ number := by
  intro entry member same
  obtain ⟨there, other⟩ := List.mem_filter.mp member
  obtain ⟨reporter, one, named, _⟩ := tracks.registered entry there
  obtain ⟨reporter', two, named', _⟩ := tracks.registered_of_known found
  rw [same] at one
  cases one.symm.trans two
  simp [← named, named'] at other

/-- The reporter whose key is removed becomes loose. -/
theorem Tracks.without (tracks : agent.Tracks loose) (key : SessionKey) :
    (agent.without key).Tracks ((agent.reporterOf? key).toList ++ loose) where
  keys := tracks.keys.sublist (List.filter_sublist.map _)
  registered := fun entry member => tracks.registered entry (List.mem_filter.mp member).1
  unregistered := by
    intro number reporter found bound free
    apply tracks.unregistered number reporter found
    · exact fun member => bound (List.mem_append_right _ member)
    · intro entry member same
      by_cases here : entry.1 = key
      · apply bound
        rw [← here, tracks.reporterOf?_of_mem member, same]
        simp
      · exact free entry (List.mem_filter.mpr ⟨member, by simpa using here⟩) same
  live := tracks.live
  retired := tracks.retired

/-- Striking a session out of the registry that is not in it changes nothing. -/
theorem without_of_unknown {key : SessionKey} (unknown : agent.reporterOf? key = none) :
    agent.without key = agent := by
  have all : agent.registry.filter (fun entry => entry.1 != key) = agent.registry := by
    apply List.filter_eq_self.mpr
    intro entry member
    have other := List.lookup_eq_none_iff.mp unknown entry member
    simpa [bne_iff_ne, ne_comm] using other
  rw [without, all]

/-! ### Stopping -/

/-- A reporter that is no longer the registered one of its session deregisters nobody: a successor
under the same key keeps its place. -/
theorem deregister_of_unknown {key : SessionKey} {number : Nat}
    (unknown : agent.reporterOf? key ≠ some number) : agent.deregister key number = agent := by
  rw [deregister, if_neg unknown]

/-- Only the last reporter that is forgotten takes capture down. -/
theorem deregister_of_known {key : SessionKey} {number : Nat}
    (known : agent.reporterOf? key = some number) :
    agent.deregister key number =
      if (agent.without key).registry.isEmpty then (agent.without key).stopEngine
      else agent.without key := by
  rw [deregister, if_pos known]
  rfl

/-- The agent with a reporter stopped that has not deregistered yet. -/
def halted (agent : Agent) (number : Nat) : Agent :=
  { agent with station := agent.station.modifyReporter number Reporter.stop }

/-- Stopping a reporter that has not been stopped before halts it and takes it out of the registry.
-/
theorem stopReporter_of_active {number : Nat} {reporter : Reporter}
    (found : agent.station.reporters[number]? = some reporter)
    (active : reporter.status ≠ .stopped) :
    agent.stopReporter number = (agent.halted number).deregister reporter.session.key number := by
  simp [stopReporter, found, active, halted]

/-- A loose reporter that is halted is loose no longer. -/
theorem Tracks.halted {number : Nat} (tracks : agent.Tracks (number :: loose))
    (free : ∀ entry ∈ agent.registry, entry.2 ≠ number) : (agent.halted number).Tracks loose where
  keys := tracks.keys
  registered := by
    intro entry member
    obtain ⟨reporter, found, rest⟩ := tracks.registered entry member
    refine ⟨reporter, ?_, rest⟩
    simp [Agent.halted, Station.modifyReporter, (free entry member).symm, found]
  unregistered := by
    intro other reporter found bound unknown
    simp only [Agent.halted, Station.modifyReporter, List.getElem?_modify] at found
    by_cases same : number = other
    · subst same
      cases before : agent.station.reporters[number]? with
      | none => simp [before] at found
      | some stopping =>
          simp only [before, if_true] at found
          cases found
          rfl
    · simp only [same, if_false] at found
      apply tracks.unregistered other reporter (by simpa using found) _ unknown
      simp [Ne.symm same, bound]
  live := tracks.live
  retired := tracks.retired

theorem Tracks.engine_of_registered (tracks : agent.Tracks loose) (someone : agent.registry ≠ []) :
    agent.engine.isSome = true := by
  obtain ⟨entry, member⟩ := List.exists_mem_of_ne_nil _ someone
  obtain ⟨reporter, _, _, _, up⟩ := tracks.registered entry member
  simp [up]

/-- Without reporters capture is taken down, and the store with it. -/
theorem Tracks.stopEngine (tracks : agent.Tracks loose) (nobody : agent.registry = []) :
    agent.stopEngine.Tracks loose ∧ agent.stopEngine.registry = [] ∧
      agent.stopEngine.engine = none := by
  rw [Agent.stopEngine]
  split
  · next down => exact ⟨tracks, nobody, down⟩
  · next number up =>
      refine ⟨⟨tracks.keys, ?_, tracks.unregistered, ?_, ?_⟩, nobody, rfl⟩
      · intro entry member
        simp [nobody] at member
      · intro other impossible
        cases impossible
      · intro other store found _
        simp only [Station.modifyStore, List.getElem?_modify] at found
        by_cases same : number = other
        · subst same
          obtain ⟨filled, there, live⟩ := tracks.live number up
          simp only [there, if_true] at found
          cases found
          exact live.stop
        · simp only [same, if_false] at found
          exact tracks.retired other store (by simpa using found) (by simp [up, same])

/-! ### Capture -/

theorem eq_ok_of_toOption {ε β : Type} {result : Except ε β} {value : β}
    (present : result.toOption = some value) : result = .ok value := by
  cases result with
  | error error => cases present
  | ok other =>
      cases present
      rfl

/-- Capture comes up with a new store, all of whose collectors capture. -/
theorem startEngine_spec {number : Nat} (started : agent.startEngine = .ok (number, next)) :
    number = agent.station.stores.length ∧ ∃ store : Store, store.Live ∧
      next = { agent with
        station := agent.station.addStore store, engine := some number } := by
  simp only [startEngine, bind, Except.bind] at started
  split at started
  · cases started
  split at started
  · cases started
  next interfaces _ =>
  split at started
  · cases started
  · cases started
    refine ⟨rfl, _, ⟨rfl, ?_⟩, rfl⟩
    intro collector member
    have opened : collector ∈ agent.openCollectors interfaces := by
      simpa [Store.start, Store.create] using member
    obtain ⟨interface, _, succeeded⟩ := List.mem_filterMap.mp opened
    exact Collector.capturing_of_start (eq_ok_of_toOption succeeded)

/-- Capture that is brought up serves those who register from then on. -/
theorem Tracks.startEngine {number : Nat} (tracks : agent.Tracks loose)
    (down : agent.engine = none) (started : agent.startEngine = .ok (number, next)) :
    next.Tracks loose ∧ next.engine = some number ∧ next.registry = agent.registry ∧
      next.station.reporters = agent.station.reporters := by
  obtain ⟨rfl, store, live, rfl⟩ := startEngine_spec started
  refine ⟨⟨tracks.keys, ?_, tracks.unregistered, ?_, ?_⟩, rfl, rfl, rfl⟩
  · intro entry member
    have up := tracks.engine_of_registered (List.ne_nil_of_mem member)
    simp [down] at up
  · intro number same
    cases same
    exact ⟨store, by simp [Station.addStore], live⟩
  · intro number other found apart
    apply tracks.retired number other _ (by simp [down])
    have bound : number < agent.station.stores.length + 1 := by
      simpa [Station.addStore] using (List.getElem?_eq_some_iff.mp found).1
    rcases Nat.lt_or_eq_of_le (Nat.le_of_lt_succ bound) with old | new
    · simpa [Station.addStore, List.getElem?_append_left old] using found
    · simp [new] at apart

/-! ### Reporters -/

/-- A loose reporter that is told to stop is loose no longer, and nothing else changes. -/
theorem Tracks.stopReporter {number : Nat} (tracks : agent.Tracks (number :: loose))
    (free : ∀ entry ∈ agent.registry, entry.2 ≠ number) :
    (agent.stopReporter number).Tracks loose ∧
      (agent.stopReporter number).registry = agent.registry ∧
      (agent.stopReporter number).engine = agent.engine ∧
      (agent.stopReporter number).station.stores = agent.station.stores := by
  -- a number without a reporter, or with one that has stopped, has no need to be loose
  have settled : (∀ reporter, agent.station.reporters[number]? = some reporter →
      reporter.status = .stopped) → agent.Tracks loose := by
    intro stopped
    refine { tracks with unregistered := fun other reporter found bound unknown => ?_ }
    by_cases same : other = number
    · subst same
      exact stopped reporter found
    · exact tracks.unregistered other reporter found (by simp [same, bound]) unknown
  cases found : agent.station.reporters[number]? with
  | none =>
      have same : agent.stopReporter number = agent := by simp [Agent.stopReporter, found]
      rw [same]
      exact ⟨settled fun reporter there => by simp [found] at there, rfl, rfl, rfl⟩
  | some reporter =>
      by_cases stopped : reporter.status = .stopped
      · have same : agent.stopReporter number = agent := by
          simp [Agent.stopReporter, found, stopped]
        rw [same]
        refine ⟨settled fun other there => ?_, rfl, rfl, rfl⟩
        cases found.symm.trans there
        exact stopped
      · have unknown : (agent.halted number).reporterOf? reporter.session.key ≠ some number :=
          fun known => free _ (mem_of_reporterOf? known) rfl
        rw [stopReporter_of_active found stopped, deregister_of_unknown unknown]
        exact ⟨tracks.halted free, rfl, rfl, rfl⟩

/-- The reporter that was replaced, if there was one, is stopped. -/
theorem Tracks.dismiss {replaced : Option Nat} (tracks : agent.Tracks replaced.toList)
    (free : ∀ number, replaced = some number → ∀ entry ∈ agent.registry, entry.2 ≠ number) :
    let rest := replaced.elim agent agent.stopReporter
    rest.Tracks [] ∧ rest.registry = agent.registry ∧ rest.engine = agent.engine ∧
      rest.station.stores = agent.station.stores := by
  cases replaced with
  | none => exact ⟨tracks, rfl, rfl, rfl⟩
  | some number => exact tracks.stopReporter (free number rfl)

/-- The agent with a new reporter on a store. -/
def enroll (agent : Agent) (session : Session) (store : Nat) : Agent :=
  let interval := agent.settings.delivery.reportIntervalSecs.toNat * 1000
  { agent with
    station := agent.station.addReporter
      ((Reporter.create session store interval).start agent.station.clock.moment)
    registry := agent.registry ++ [(session.key, agent.station.reporters.length)] }

/-- A session enrolled under a fresh key, on the engine that is up, is tracked with the others. -/
theorem Tracks.enroll {session : Session} {store : Nat} (tracks : agent.Tracks loose)
    (up : agent.engine = some store) (fresh : agent.reporterOf? session.key = none) :
    (agent.enroll session store).Tracks loose := by
  have others : ∀ entry ∈ agent.registry, entry.1 ≠ session.key := by
    intro entry member same
    have known := tracks.reporterOf?_of_mem member
    simp [same, fresh] at known
  refine ⟨?_, ?_, ?_, tracks.live, tracks.retired⟩
  · simp only [Agent.enroll, List.map_append, List.map_cons, List.map_nil]
    refine List.nodup_append.mpr ⟨tracks.keys, by simp, ?_⟩
    rintro key known _ new rfl
    obtain ⟨entry, member, rfl⟩ := List.mem_map.mp known
    exact others entry member (by simpa using new)
  · intro entry member
    simp only [Agent.enroll, Station.addReporter, List.mem_append, List.mem_singleton] at member ⊢
    rcases member with old | rfl
    · obtain ⟨reporter, found, rest⟩ := tracks.registered entry old
      have bound := (List.getElem?_eq_some_iff.mp found).1
      exact ⟨reporter, by simpa [List.getElem?_append_left bound] using found, rest⟩
    · exact ⟨_, List.getElem?_concat_length, rfl, rfl, up⟩
  · intro number reporter found bound unknown
    simp only [Agent.enroll, Station.addReporter, List.mem_append, List.mem_singleton] at found unknown
    have other : number ≠ agent.station.reporters.length := fun same =>
      unknown _ (.inr rfl) same.symm
    have inside : number < agent.station.reporters.length := by
      have bound' := (List.getElem?_eq_some_iff.mp found).1
      simp only [List.length_append, List.length_singleton] at bound'
      omega
    rw [List.getElem?_append_left inside] at found
    exact tracks.unregistered number reporter found bound fun entry member =>
      unknown entry (.inl member)

theorem startReporter_of_engine {session : Session} {store : Nat} (up : agent.engine = some store) :
    agent.startReporter session = .ok (agent.enroll session store) := by
  cases agent
  cases up
  rfl

/-- Without an engine the first reporter starts one and enrolls on its store. -/
theorem startReporter_of_down {session : Session} (down : agent.engine = none) :
    agent.startReporter session =
      agent.startEngine.map fun (store, up) => up.enroll session store := by
  simp only [startReporter, down]
  cases agent.startEngine <;> rfl

/-! ### At rest -/

theorem reporterOf?_without (agent : Agent) (key : SessionKey) :
    (agent.without key).reporterOf? key = none := by
  apply List.lookup_eq_none_iff.mpr
  intro entry member
  simpa [ne_comm] using (List.mem_filter.mp member).2

theorem Consistent.of_registered (tracks : agent.Tracks []) (someone : agent.registry ≠ []) :
    agent.Consistent :=
  ⟨tracks, iff_of_true (tracks.engine_of_registered someone) someone⟩

theorem Consistent.of_stopEngine (tracks : agent.Tracks []) (nobody : agent.registry = []) :
    agent.stopEngine.Consistent := by
  obtain ⟨tracks', nobody', down⟩ := tracks.stopEngine nobody
  exact ⟨tracks', by simp [nobody', down]⟩

/-- No engine, no registered session. -/
theorem Consistent.nobody (consistent : agent.Consistent) (down : agent.engine = none) :
    agent.registry = [] := by
  apply Classical.byContradiction
  intro someone
  simpa [down] using consistent.engine_iff.mpr someone

/-- An end takes its key out of the registry. -/
theorem Consistent.endReport (consistent : agent.Consistent) (key : SessionKey) :
    (agent.endReport key).Consistent ∧
      (agent.endReport key).registry = (agent.without key).registry := by
  rw [Agent.endReport]
  cases known : agent.reporterOf? key with
  | none =>
      rw [without_of_unknown known]
      exact ⟨consistent, rfl⟩
  | some number =>
      obtain ⟨reporter, found, rfl, running, _⟩ :=
        consistent.tracks.registered_of_known known
      have active : reporter.status ≠ .stopped := by simp [running]
      have rest : ((agent.halted number).without reporter.session.key).Tracks [] := by
        have loosened := consistent.tracks.without reporter.session.key
        rw [known] at loosened
        exact loosened.halted (consistent.tracks.free_without known)
      have known' : (agent.halted number).reporterOf? reporter.session.key = some number := known
      rw [Option.elim_some, stopReporter_of_active found active, deregister_of_known known']
      split
      · next nobody =>
          have nobody := List.isEmpty_iff.mp nobody
          exact ⟨.of_stopEngine rest nobody, (rest.stopEngine nobody).2.1.trans nobody.symm⟩
      · next someone =>
          exact ⟨.of_registered rest fun nobody => someone (List.isEmpty_iff.mpr nobody), rfl⟩

/-- The reporters of an agent that has forgotten all of them are stopped one after another. -/
theorem Tracks.stopAll {numbers : List Nat} (tracks : agent.Tracks numbers)
    (nobody : agent.registry = []) :
    (numbers.foldl Agent.stopReporter agent).Tracks [] ∧
      (numbers.foldl Agent.stopReporter agent).registry = [] := by
  induction numbers generalizing agent with
  | nil => exact ⟨tracks, nobody⟩
  | cons number others ih =>
      obtain ⟨tracks', registry, _⟩ := tracks.stopReporter (by simp [nobody])
      exact ih tracks' (registry.trans nobody)

/-- Shutting down leaves an agent without sessions and without an engine, consistent as ever. -/
theorem Consistent.shutdown (consistent : agent.Consistent) : agent.shutdown.Consistent := by
  have tracks := consistent.tracks
  have loosened : { agent with registry := [] }.Tracks (agent.registry.map Prod.snd) := by
    refine ⟨by simp, by simp, ?_, tracks.live, tracks.retired⟩
    intro number reporter found bound _
    apply tracks.unregistered number reporter found (by simp)
    exact fun entry member same => bound (same ▸ List.mem_map_of_mem member)
  obtain ⟨stopped, nobody⟩ := loosened.stopAll rfl
  exact .of_stopEngine stopped nobody

/-- A new reporter is not the one that it replaces. -/
theorem Tracks.free_enroll (tracks : agent.Tracks loose) {session : Session} {store number : Nat}
    (known : agent.reporterOf? session.key = some number) :
    ∀ entry ∈ ((agent.without session.key).enroll session store).registry, entry.2 ≠ number := by
  intro entry member
  rcases List.mem_append.mp member with still | new
  · exact tracks.free_without known entry still
  · obtain ⟨reporter, found, _⟩ := tracks.registered_of_known known
    have earlier := (List.getElem?_eq_some_iff.mp found).1
    cases List.mem_singleton.mp new
    exact Nat.ne_of_gt earlier

/-- A start removes the key, tries to register a new reporter, and stops the one that it replaces. -/
theorem startReport_eq (agent : Agent) (session : Session) :
    agent.startReport session =
      let replaced := agent.reporterOf? session.key
      match (agent.without session.key).startReporter session with
      | .ok started => (.ok (), replaced.elim started started.stopReporter)
      | .error error =>
          (.error error, replaced.elim (agent.without session.key)
            (agent.without session.key).stopReporter) := by
  simp only [Agent.startReport, Agent.without]
  split <;> simp_all

/-- While capture is up, a start succeeds and stays on it. -/
theorem Consistent.startReport_of_up (consistent : agent.Consistent) (session : Session)
    {store : Nat} (engine : agent.engine = some store) :
    ∃ next, agent.startReport session = (.ok (), next) ∧ next.Consistent ∧
      next.registry = (agent.without session.key).registry ++
        [(session.key, agent.station.reporters.length)] ∧
      next.engine = agent.engine ∧ next.station.stores = agent.station.stores := by
  have up : (agent.without session.key).engine = some store := engine
  have enrolled := (consistent.tracks.without session.key).enroll up (agent.reporterOf?_without _)
  rw [List.append_nil] at enrolled
  obtain ⟨tracks, registry, engine', stores⟩ :=
    enrolled.dismiss fun number known => consistent.tracks.free_enroll known
  rw [startReport_eq, startReporter_of_engine up]
  refine ⟨_, rfl, .of_registered tracks ?_, registry, engine', stores⟩
  rw [registry]
  simp [Agent.enroll]

/-- A start that fails leaves the agent as it was, and can only fail while no session is reported.
One that succeeds puts a new reporter in the place of what was registered under the key, on the
capture that is up already if there is one. -/
theorem Consistent.startReport_spec (consistent : agent.Consistent) (session : Session) :
    (∃ error, agent.startReport session = (.error error, agent) ∧ agent.registry = []) ∨
      ∃ next, agent.startReport session = (.ok (), next) ∧ next.Consistent ∧
        next.registry = (agent.without session.key).registry ++
          [(session.key, agent.station.reporters.length)] ∧
        (agent.registry ≠ [] → next.engine = agent.engine ∧
          next.station.stores = agent.station.stores) := by
  cases engine : agent.engine with
  | none =>
      have nobody := consistent.nobody engine
      have unknown : agent.reporterOf? session.key = none := by simp [reporterOf?, nobody]
      rw [startReport_eq, without_of_unknown unknown, startReporter_of_down engine, unknown]
      cases brought : agent.startEngine with
      | error error => exact .inl ⟨error, rfl, nobody⟩
      | ok result =>
          obtain ⟨store, up⟩ := result
          obtain ⟨tracks, engine', registry, reporters⟩ := consistent.tracks.startEngine engine brought
          have enrolled := tracks.enroll engine' (by simpa [reporterOf?, registry] using unknown)
          refine .inr ⟨_, rfl, .of_registered enrolled (by simp [Agent.enroll]), ?_, ?_⟩
          · rw [← registry, ← reporters]
            rfl
          · exact fun someone => absurd nobody someone
  | some store =>
      obtain ⟨next, succeeded, standing, registry, engine', stores⟩ :=
        consistent.startReport_of_up session engine
      exact .inr ⟨next, succeeded, standing, registry, fun _ => ⟨engine'.trans engine, stores⟩⟩

/-- After a start the key has a new reporter, unless the start failed. -/
theorem Consistent.startReport (consistent : agent.Consistent) (session : Session) :
    (∃ error, agent.startReport session = (.error error, agent) ∧ agent.registry = []) ∨
      ∃ next, agent.startReport session = (.ok (), next) ∧ next.Consistent ∧
        next.reporterOf? session.key = some agent.station.reporters.length ∧
        (agent.registry ≠ [] → next.engine = agent.engine ∧
          next.station.stores = agent.station.stores) := by
  rcases consistent.startReport_spec session with
    failed | ⟨next, succeeded, standing, registry, same⟩
  · exact .inl failed
  · refine .inr ⟨next, succeeded, standing, ?_, same⟩
    have member : (session.key, agent.station.reporters.length) ∈ next.registry := by
      simp [registry]
    exact standing.tracks.reporterOf?_of_mem member

/-! ### What goes on by itself -/

/-- What goes on by itself at the station does not touch the books. -/
theorem Tracks.goOn (tracks : agent.Tracks loose) {station : Station}
    (continues : agent.station.Continues station) : { agent with station }.Tracks loose where
  keys := tracks.keys
  registered := by
    intro entry member
    obtain ⟨reporter, found, key, running, engine⟩ := tracks.registered entry member
    obtain ⟨after, there, same⟩ := continues.reporter_after found
    obtain ⟨session, store, status⟩ : after.session = reporter.session ∧
        after.store = reporter.store ∧ after.status = reporter.status := by
      simpa [Reporter.post] using same
    exact ⟨after, there, by rw [session, key], status.trans running, by rw [store]; exact engine⟩
  unregistered := by
    intro number reporter found bound free
    obtain ⟨before, there, same⟩ := continues.reporter_before found
    have status : before.status = reporter.status := by
      simpa [Reporter.post] using congrArg (fun post => post.2.2) same
    exact status ▸ tracks.unregistered number before there bound free
  live := by
    intro number engine
    obtain ⟨store, found, live⟩ := tracks.live number engine
    obtain ⟨after, there, goesOn⟩ := continues.store_after found
    exact ⟨after, there, goesOn.live live⟩
  retired := by
    intro number store found apart
    obtain ⟨before, there, goesOn⟩ := continues.store_before found
    exact goesOn.retired (tracks.retired number before there apart)

/-- Time and other parties move the station on; a continued station keeps every reporter and store
the registry points to. -/
theorem Consistent.goOn (consistent : agent.Consistent) {station : Station}
    (continues : agent.station.Continues station) : { agent with station }.Consistent :=
  ⟨consistent.tracks.goOn continues, consistent.engine_iff⟩

theorem Consistent.feed (consistent : agent.Consistent) (name : String) (bytes : Bytes) :
    (agent.feed name (.frame bytes)).Consistent := by
  simp only [Agent.feed]
  split
  · exact consistent
  · exact consistent.goOn (agent.station.continues_modifyStore _ fun store =>
      store.continues_receive _ bytes)

/-! ### Every course -/

theorem Consistent.facing (consistent : agent.Consistent) (capture : CaptureSettings)
    (backend : Backend) : (agent.facing capture backend).Consistent :=
  ⟨⟨consistent.tracks.keys, consistent.tracks.registered, consistent.tracks.unregistered,
    consistent.tracks.live, consistent.tracks.retired⟩, consistent.engine_iff⟩

/-- One operation. -/
theorem Consistent.step (consistent : agent.Consistent) {operation : Operation}
    (allowed : agent.Allows operation) : (agent.step operation).Consistent := by
  cases operation with
  | start session capture backend =>
      have faced := consistent.facing capture backend
      rw [Agent.step]
      rcases faced.startReport session with ⟨error, failed, _⟩ | ⟨next, succeeded, standing, _⟩
      · rw [failed]
        exact faced
      · rw [succeeded]
        exact standing
  | «end» key => exact (consistent.endReport key).1
  | deregister key number =>
      rw [Agent.step, deregister_of_unknown allowed]
      exact consistent
  | shutdown => exact consistent.shutdown
  | pass milliseconds => exact consistent.goOn (agent.station.continues_advance milliseconds)
  | frame name bytes => exact consistent.feed name bytes

/-- The lifecycle clauses hold after every course of operations the agent allows. -/
theorem Consistent.after (consistent : agent.Consistent) {course : List Operation}
    (allowed : agent.AllowsAll course) : (agent.after course).Consistent := by
  induction course generalizing agent with
  | nil => exact consistent
  | cons operation later ih => exact ih (consistent.step allowed.1) allowed.2

/-- An agent nobody has used yet is consistent. -/
theorem Consistent.of_fresh (registry : agent.registry = []) (engine : agent.engine = none)
    (reporters : agent.station.reporters = []) (stores : agent.station.stores = []) :
    agent.Consistent :=
  ⟨⟨by simp [registry], by simp [registry], by simp [reporters], by simp [engine],
    by simp [stores]⟩, by simp [registry, engine]⟩

end Agent

/-- An agent that begins with nothing is consistent after any course of operations.  There is capture
exactly while a session is reported.  The reporter that is registered under a key has that key, runs,
and asks the store that is being filled; every other reporter is stopped.  All collectors of the
store that is being filled capture, and every other store was taken down with its collectors and is
empty.  A start that fails leaves the agent as it was, and none fails while a session is reported;
one that replaces a reporter stays on the same capture and keeps the key registered. -/
theorem lifecycle_consistent {agent : Agent} (nobody : agent.registry = [])
    (down : agent.engine = none) (reporters : agent.station.reporters = [])
    (stores : agent.station.stores = []) {course : List Agent.Operation}
    (allowed : agent.AllowsAll course) :
    let reached := agent.after course
    (reached.isCapturing = true ↔ ∃ key, (reached.reporterOf? key).isSome = true) ∧
      (∀ key number, reached.reporterOf? key = some number → ∃ reporter,
        reached.station.reporters[number]? = some reporter ∧ reporter.session.key = key ∧
          reporter.status = .running ∧ reached.engine = some reporter.store) ∧
      (∀ (number : Nat) (reporter : Reporter),
        reached.station.reporters[number]? = some reporter →
          (∀ key, reached.reporterOf? key ≠ some number) → reporter.status = .stopped) ∧
      (∀ number, reached.engine = some number → ∃ store,
        reached.station.stores[number]? = some store ∧ store.Live) ∧
      (∀ (number : Nat) (store : Store), reached.station.stores[number]? = some store →
        reached.engine ≠ some number → store.Retired) ∧
      ∀ session capture backend,
        let faced := reached.facing capture backend
        (∀ error next, faced.startReport session = (.error error, next) → next = faced) ∧
          ((∃ key, (reached.reporterOf? key).isSome = true) → ∃ next,
            faced.startReport session = (.ok (), next) ∧ next.engine = reached.engine ∧
              next.station.stores = reached.station.stores ∧
              (next.reporterOf? session.key).isSome = true) := by
  intro reached
  have consistent : reached.Consistent :=
    (Agent.Consistent.of_fresh nobody down reporters stores).after allowed
  have tracks := consistent.tracks
  have someone : reached.registry ≠ [] ↔ ∃ key, (reached.reporterOf? key).isSome = true := by
    constructor
    · intro someone
      obtain ⟨entry, member⟩ := List.exists_mem_of_ne_nil _ someone
      exact ⟨entry.1, by simp [tracks.reporterOf?_of_mem member]⟩
    · rintro ⟨key, known⟩
      obtain ⟨number, known⟩ := Option.isSome_iff_exists.mp known
      exact List.ne_nil_of_mem (Agent.mem_of_reporterOf? known)
  refine ⟨consistent.engine_iff.trans someone, fun key number => tracks.registered_of_known, ?_,
    tracks.live, tracks.retired, fun session capture backend => ⟨?_, ?_⟩⟩
  · intro number reporter found unknown
    apply tracks.unregistered number reporter found (by simp)
    intro entry member same
    exact unknown entry.1 (same ▸ tracks.reporterOf?_of_mem member)
  · intro error next failed
    rcases (consistent.facing capture backend).startReport session with
      ⟨error', failed', _⟩ | ⟨next', succeeded, _⟩
    · cases failed.symm.trans failed'
      rfl
    · cases failed.symm.trans succeeded
  · intro known
    rcases (consistent.facing capture backend).startReport session with
      ⟨error, _, nobody⟩ | ⟨next, succeeded, _, added, same⟩
    · exact absurd nobody (someone.mpr known)
    · obtain ⟨engine, stores⟩ := same (someone.mpr known)
      exact ⟨next, succeeded, engine, stores, by simp [added]⟩

def sampleAgent : Agent where
  settings := {}
  backend := { interfaces := .ok [] }
  station := { clock := { origin := 0 }, depot := default }

/-- Capture fails to come up and then comes up on one of two interfaces, a session is replaced and
its first reporter deregisters late, frames arrive and time passes, and the session is ended. -/
def sampleOperations : List Agent.Operation :=
  let session : Session := { instanceId := "a", vmId := 1, startTime := default }
  let other : Session := { session with vmId := 2 }
  let capture : CaptureSettings := { filter := "" }
  let backend : Backend :=
    { interfaces := .ok [⟨"eth0", .zero⟩, ⟨"eth1", .zero⟩], failing := ["eth0"] }
  [.start session capture { interfaces := .ok [] }, .start session capture backend, .pass 5000,
    .start session capture backend, .deregister session.key 0, .frame "eth1" [1, 2],
    .start other capture backend, .end session.key, .pass 10000]

theorem lifecycle_consistent_of_sampleOperations :
    let reached := sampleAgent.after sampleOperations
    reached.reporterOf? ⟨"a", 2⟩ = some 2 ∧ reached.isCapturing = true ∧
      (∃ reporter, reached.station.reporters[2]? = some reporter ∧ reporter.status = .running) ∧
      ∃ reporter, reached.station.reporters[1]? = some reporter ∧
        reporter.status = .stopped := by
  intro reached
  have allowed : sampleAgent.AllowsAll sampleOperations := by decide +kernel
  have known : reached.reporterOf? ⟨"a", 2⟩ = some 2 := by decide +kernel
  have registry : reached.registry = [(⟨"a", 2⟩, 2)] := by decide +kernel
  have ended : (reached.station.reporters[1]?).isSome = true := by decide +kernel
  obtain ⟨capturing, registered, stopped, _⟩ := lifecycle_consistent rfl rfl rfl rfl allowed
  obtain ⟨reporter, found, _, running, _⟩ := registered _ _ known
  obtain ⟨replaced, there⟩ := Option.isSome_iff_exists.mp ended
  refine ⟨known, capturing.mpr ⟨_, Option.isSome_iff_exists.mpr ⟨2, known⟩⟩,
    ⟨reporter, found, running⟩, replaced, there, stopped 1 replaced there ?_⟩
  intro key same
  have member : (key, 1) ∈ reached.registry := Agent.mem_of_reporterOf? same
  rw [registry] at member
  cases List.mem_singleton.mp member

end TrafficMeter
