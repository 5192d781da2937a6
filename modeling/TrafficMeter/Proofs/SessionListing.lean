/-
Module: TrafficMeter.Proofs.SessionListing
Purpose: The sessions that are started, ended and listed over HTTP are a set.  What a request asks
  for is told apart from what comes of it; each answer is one operation on the set; and after any
  course of requests the listing holds the keys that were started and not ended since.
Main exports: SessionKey.Before, Api.Ask, Api.askOf, Api.answer, Api.Answered, Api.Event, Api.after,
  Api.history, Api.Standing, listing_is_set
-/
import Mathlib
import TrafficMeter.Agent.Api
import TrafficMeter.Proofs.AgentLifecycle

namespace TrafficMeter

open Data Net Usage

/-! ### The order of the listing -/

/-- One key stands before another: by workload, then by the number of the machine. -/
def SessionKey.Before (left right : SessionKey) : Prop :=
  left.instanceId < right.instanceId ∨
    left.instanceId = right.instanceId ∧ left.vmId.toInt < right.vmId.toInt

namespace SessionKey

variable {left middle right : SessionKey}

/-- The order of the listing, by stream and then by machine, without its Boolean. -/
theorem atMost_iff : left.atMost right = true ↔ left.Before right ∨ left = right := by
  obtain ⟨workload, machine⟩ := left
  obtain ⟨workload', machine'⟩ := right
  simp only [atMost, Before, Bool.or_eq_true, Bool.and_eq_true, decide_eq_true_eq, beq_iff_eq,
    Int64.le_iff_toInt_le, SessionKey.mk.injEq, ← Int64.toInt_inj, Int.le_iff_lt_or_eq]
  tauto

theorem Before.trans (first : left.Before middle) (second : middle.Before right) :
    left.Before right := by
  rcases first with earlier | ⟨same, lower⟩ <;> rcases second with earlier' | ⟨same', lower'⟩
  · exact .inl (lt_trans earlier earlier')
  · exact .inl (same' ▸ earlier)
  · exact .inl (same ▸ earlier')
  · exact .inr ⟨same.trans same', lower.trans lower'⟩

/-- Of two keys one comes first, unless they are the same. -/
theorem Before.total (left right : SessionKey) :
    left.Before right ∨ left = right ∨ right.Before left := by
  obtain ⟨workload, machine⟩ := left
  obtain ⟨workload', machine'⟩ := right
  rcases lt_trichotomy workload workload' with earlier | rfl | later
  · exact .inl (.inl earlier)
  · rcases lt_trichotomy machine.toInt machine'.toInt with lower | same | higher
    · exact .inl (.inr ⟨rfl, lower⟩)
    · exact .inr (.inl (by rw [Int64.toInt_inj.mp same]))
    · exact .inr (.inr (.inr ⟨rfl, higher⟩))
  · exact .inr (.inr (.inl later))

/-- What sorting asks of the order: it carries over. -/
theorem atMost_trans (first : left.atMost middle = true) (second : middle.atMost right = true) :
    left.atMost right = true := by
  rw [atMost_iff] at first second ⊢
  rcases first with before | rfl
  · rcases second with before' | rfl
    · exact .inl (before.trans before')
    · exact .inl before
  · exact second

/-- And it leaves no two keys apart. -/
theorem atMost_total (left right : SessionKey) :
    (left.atMost right || right.atMost left) = true := by
  simp only [Bool.or_eq_true, atMost_iff]
  rcases Before.total left right with before | same | after
  · exact .inl (.inl before)
  · exact .inl (.inr same)
  · exact .inr (.inl after)

end SessionKey

namespace Agent

variable {agent next : Agent} {key other : SessionKey}

/-- Listed are the keys of the registry. -/
theorem mem_activeSessions :
    key ∈ agent.activeSessions ↔ ∃ number, (key, number) ∈ agent.registry := by
  simp [activeSessions]

/-- The keys are listed in order, each of them once. -/
theorem Tracks.activeSessions_before {loose : List Nat} (tracks : agent.Tracks loose) :
    agent.activeSessions.Pairwise SessionKey.Before := by
  rw [activeSessions]
  have sorted : ((agent.registry.map Prod.fst).mergeSort SessionKey.atMost).Pairwise
      fun left right => left.atMost right = true := by
    apply List.pairwise_mergeSort
    · exact fun _ _ _ => SessionKey.atMost_trans
    · exact SessionKey.atMost_total
  have distinct := (List.mergeSort_perm _ SessionKey.atMost).nodup_iff.mpr tracks.keys
  exact sorted.imp₂ (fun _ _ ordered apart =>
    (SessionKey.atMost_iff.mp ordered).resolve_right apart) distinct

/-- Taking a key out of the registry takes it off the list, and no other. -/
theorem mem_activeSessions_without :
    other ∈ (agent.without key).activeSessions ↔ other ∈ agent.activeSessions ∧ other ≠ key := by
  simp [mem_activeSessions, Agent.without]

/-- What capture meets with next is of no account to the list. -/
@[simp] theorem activeSessions_facing (capture : CaptureSettings) (backend : Backend) :
    (agent.facing capture backend).activeSessions = agent.activeSessions := rfl

/-- There is capture exactly while the listing is not empty. -/
theorem Consistent.isCapturing_iff (consistent : agent.Consistent) :
    agent.isCapturing = true ↔ agent.activeSessions ≠ [] := by
  have same : agent.activeSessions = [] ↔ agent.registry = [] := by
    rw [← List.length_eq_zero_iff, activeSessions, List.length_mergeSort]
    simp
  exact consistent.engine_iff.trans (not_congr same.symm)

end Agent

namespace Api

/-! ### What a request asks for -/

/-- What a request asks for; one that asks for nothing is refused with a status. -/
inductive Ask where
  | start (session : Session)
  | «end» (key : SessionKey)
  | list
  | refused (status : Nat)

/-- What a request asks an agent for, by its path, its method and its body.  A session without a
start time starts at the present moment. -/
def askOf (agent : Agent) (request : Request) : Ask :=
  match endpoint? (pathOf request.target) with
  | none => .refused 404
  | some endpoint =>
      if request.method ≠ endpoint.method then .refused 405
      else
        match endpoint with
        | .list => .list
        | .start =>
            match bodyOf request (Session.ofValue? (.ofMillis agent.station.now.toInt)) with
            | .ok session => .start session
            | .error status => .refused status
        | .end =>
            match bodyOf request SessionKey.ofValue? with
            | .ok key => .end key
            | .error status => .refused status

def answer (agent : Agent) : Ask → Response × Agent
  | .start session => startSession agent session
  | .end key => endSession agent key
  | .list => (listSessions agent, agent)
  | .refused status => (⟨status, none⟩, agent)

/-- A request is read first, and then what it asks for is done. -/
theorem handle_eq (agent : Agent) (request : Request) :
    handle agent request = answer agent (askOf agent request) := by
  rw [handle, askOf]
  cases endpoint? (pathOf request.target) with
  | none => rfl
  | some endpoint =>
      dsimp only
      by_cases method : request.method ≠ endpoint.method
      · rw [if_pos method, if_pos method]
        rfl
      · rw [if_neg method, if_neg method]
        cases endpoint with
        | list => rfl
        | start =>
            dsimp only
            cases bodyOf request (Session.ofValue? (.ofMillis agent.station.now.toInt)) <;> rfl
        | «end» =>
            dsimp only
            cases bodyOf request SessionKey.ofValue? <;> rfl

/-- A request with the right path, method and body asks for a start. -/
theorem askOf_start {agent : Agent} {request : Request} {session : Timestamp → Session}
    (path : endpoint? (pathOf request.target) = some .start) (method : request.method = "POST")
    (body : ∀ now, bodyOf request (Session.ofValue? now) = .ok (session now)) :
    askOf agent request = .start (session (.ofMillis agent.station.now.toInt)) := by
  simp [askOf, path, method, Endpoint.method, body]

/-- A request with the right path, method and body asks for an end. -/
theorem askOf_end {agent : Agent} {request : Request} {key : SessionKey}
    (path : endpoint? (pathOf request.target) = some .end) (method : request.method = "POST")
    (body : bodyOf request SessionKey.ofValue? = .ok key) :
    askOf agent request = .end key := by
  simp [askOf, path, method, Endpoint.method, body]

/-! ### What comes of it -/

/-- What may come of what is asked for: the response, and the sessions that are reported
afterwards.  Neither a start that fails, nor a listing, nor a request that is refused changes
anything, and no start fails while a session is reported. -/
inductive Answered (agent : Agent) : Ask → Response → Agent → Prop where
  | started {session : Session} {next : Agent}
      (added : ∀ key, key ∈ next.activeSessions ↔
        key = session.key ∨ key ∈ agent.activeSessions) :
      Answered agent (.start session) ⟨200, message ("reporting " ++ session.key.text)⟩ next
  | failed {session : Session} (error : AgentError) (nobody : agent.activeSessions = []) :
      Answered agent (.start session) ⟨500, message error.message⟩ agent
  | ended {key : SessionKey} {next : Agent}
      (removed : ∀ other, other ∈ next.activeSessions ↔
        other ∈ agent.activeSessions ∧ other ≠ key) :
      Answered agent (.end key) ⟨200, message ("ended " ++ key.text)⟩ next
  | listed : Answered agent .list
      ⟨200, some (.list (agent.activeSessions.map fun key => .ofText key.text))⟩ agent
  | refused (status : Nat) : Answered agent (.refused status) ⟨status, none⟩ agent

variable {agent next : Agent}

/-- A list is answered by the texts of the keys, in order. -/
theorem Answered.response_of_list {response : Response}
    (answered : Answered agent .list response next) : response =
      ⟨200, some (.list (agent.activeSessions.map fun key => .ofText key.text))⟩ := by
  cases answered
  rfl

/-- A start that succeeds leaves the key on the list, and one that fails the list as it was. -/
theorem answered_start (consistent : agent.Consistent) (session : Session) :
    (startSession agent session).2.Consistent ∧
      Answered agent (.start session) (startSession agent session).1
        (startSession agent session).2 := by
  rcases consistent.startReport_spec session with
    ⟨error, failed, nobody⟩ | ⟨next, succeeded, standing, registry, _⟩
  · rw [startSession, failed]
    exact ⟨consistent, .failed error (by simp [Agent.activeSessions, nobody])⟩
  · rw [startSession, succeeded]
    refine ⟨standing, .started fun key => ?_⟩
    have parts : key ∈ next.activeSessions ↔
        key ∈ (agent.without session.key).activeSessions ∨ key = session.key := by
      simp [Agent.mem_activeSessions, registry, exists_or]
    rw [parts, Agent.mem_activeSessions_without]
    tauto

/-- An end is answered alike whether the key was on the list or not, and leaves it off. -/
theorem answered_end (consistent : agent.Consistent) (key : SessionKey) :
    (endSession agent key).2.Consistent ∧
      Answered agent (.end key) (endSession agent key).1 (endSession agent key).2 := by
  obtain ⟨standing, registry⟩ := consistent.endReport key
  refine ⟨standing, .ended fun other => ?_⟩
  rw [← Agent.mem_activeSessions_without, Agent.mem_activeSessions, Agent.mem_activeSessions,
    endSession, registry]

/-- Every answer keeps the agent consistent. -/
theorem answered_answer (consistent : agent.Consistent) (ask : Ask) :
    (answer agent ask).2.Consistent ∧
      Answered agent ask (answer agent ask).1 (answer agent ask).2 := by
  cases ask with
  | start session => exact answered_start consistent session
  | «end» key => exact answered_end consistent key
  | list => exact ⟨consistent, .listed⟩
  | refused status => exact ⟨consistent, .refused status⟩

/-! ### What happened -/

/-- What happens while an agent serves. -/
inductive Event where
  /-- a request arrives, with what the settings and the system offer for capturing just then -/
  | request (request : Request) (capture : CaptureSettings) (backend : Backend)
  | pass (milliseconds : Nat)
  /-- a frame arrives at an interface -/
  | frame (name : String) (bytes : Bytes)

def step (agent : Agent) : Event → Agent
  | .request request capture backend => (handle (agent.facing capture backend) request).2
  | .pass milliseconds => { agent with station := agent.station.advance milliseconds }
  | .frame name bytes => agent.feed name (.frame bytes)

def after (agent : Agent) (course : List Event) : Agent :=
  course.foldl step agent

/-- What was asked for, with the answer, if the event is a request. -/
def exchangeOf (agent : Agent) : Event → List (Ask × Response)
  | .request request capture backend =>
      [(askOf agent request, (handle (agent.facing capture backend) request).1)]
  | .pass _ | .frame _ _ => []

/-- What was asked for in the course of events, with the answers. -/
def history (agent : Agent) : List Event → List (Ask × Response)
  | [] => []
  | event :: later => exchangeOf agent event ++ history (step agent event) later

/-- A session of the key was started with success, and nobody has ended it since. -/
def Standing (past : List (Ask × Response)) (key : SessionKey) : Prop :=
  ∃ earlier later session response, past = earlier ++ (.start session, response) :: later ∧
    session.key = key ∧ response.status = 200 ∧ ∀ exchange ∈ later, exchange.1 ≠ .end key

theorem not_standing_nil (key : SessionKey) : ¬ Standing [] key := by
  rintro ⟨earlier, later, session, response, whole, _⟩
  simp at whole

/-- What stands after one more exchange: what it started, and what stood before and was not ended
by it. -/
theorem standing_concat {past : List (Ask × Response)} {ask : Ask} {response : Response}
    {key : SessionKey} :
    Standing (past ++ [(ask, response)]) key ↔
      (∃ session, ask = .start session ∧ session.key = key ∧ response.status = 200) ∨
        Standing past key ∧ ask ≠ .end key := by
  constructor
  · rintro ⟨earlier, later, session, response', whole, named, succeeded, kept⟩
    -- the start that counts is the last exchange itself, or the last exchange comes behind it
    rcases List.eq_nil_or_concat later with rfl | ⟨front, last, rfl⟩
    · obtain ⟨_, same⟩ := List.append_inj' whole rfl
      cases same
      exact .inl ⟨session, rfl, named, succeeded⟩
    · rw [List.concat_eq_append, ← List.cons_append, ← List.append_assoc] at whole
      obtain ⟨rfl, same⟩ := List.append_inj' whole rfl
      cases same
      refine .inr ⟨⟨earlier, front, session, response', rfl, named, succeeded, ?_⟩, ?_⟩
      · exact fun exchange member => kept exchange (by simp [member])
      · exact kept (ask, response) (by simp)
  · rintro (⟨session, rfl, named, succeeded⟩ | ⟨⟨earlier, later, session, response', rfl, named,
      succeeded, kept⟩, other⟩)
    · exact ⟨past, [], session, response, rfl, named, succeeded, by simp⟩
    · refine ⟨earlier, later ++ [(ask, response)], session, response', by simp, named,
        succeeded, ?_⟩
      intro exchange member
      rcases List.mem_append.mp member with before | last
      · exact kept exchange before
      · cases List.mem_singleton.mp last
        exact other

/-- An answer changes what is listed as it changes what stands. -/
theorem Answered.listed_iff_standing {past : List (Ask × Response)} {ask : Ask}
    {response : Response} (answered : Answered agent ask response next)
    (agreed : ∀ key, key ∈ agent.activeSessions ↔ Standing past key) (key : SessionKey) :
    key ∈ next.activeSessions ↔ Standing (past ++ [(ask, response)]) key := by
  rw [standing_concat, ← agreed]
  cases answered with
  | started added => simp [added, eq_comm]
  | failed => simp
  | ended removed => simp [removed, eq_comm]
  | listed => simp
  | refused => simp

/-! ### Every course -/

/-- The agent is consistent, and lists what stands after the past exchanges. -/
structure Lists (agent : Agent) (past : List (Ask × Response)) : Prop where
  consistent : agent.Consistent
  listed_iff : ∀ key, key ∈ agent.activeSessions ↔ Standing past key

/-- One event. -/
theorem Lists.step {past : List (Ask × Response)} (lists : Lists agent past) (event : Event) :
    Lists (step agent event) (past ++ exchangeOf agent event) := by
  cases event with
  | request request capture backend =>
      have faced := lists.consistent.facing capture backend
      obtain ⟨consistent, answered⟩ := answered_answer faced (askOf agent request)
      have same : handle (agent.facing capture backend) request =
          answer (agent.facing capture backend) (askOf agent request) := handle_eq _ request
      rw [Api.step, exchangeOf, same]
      exact ⟨consistent, answered.listed_iff_standing lists.listed_iff⟩
  | pass milliseconds =>
      rw [exchangeOf, List.append_nil]
      exact ⟨lists.consistent.goOn (agent.station.continues_advance milliseconds),
        lists.listed_iff⟩
  | frame name bytes =>
      rw [exchangeOf, List.append_nil]
      refine ⟨lists.consistent.feed name bytes, fun key => ?_⟩
      rw [← lists.listed_iff, Api.step, Agent.feed]
      split <;> rfl

/-- A whole course: by induction on its events, each of which is answered by what was listed then.
-/
theorem Lists.after {past : List (Ask × Response)} (lists : Lists agent past)
    (course : List Event) : Lists (after agent course) (past ++ history agent course) := by
  induction course generalizing agent past with
  | nil => simpa [Api.after, history] using lists
  | cons event later ih =>
      rw [history, ← List.append_assoc]
      exact ih (lists.step event)

/-- At the start nobody is listed, as nothing was answered yet. -/
theorem Lists.of_fresh (registry : agent.registry = []) (engine : agent.engine = none)
    (reporters : agent.station.reporters = []) (stores : agent.station.stores = []) :
    Lists agent [] :=
  ⟨.of_fresh registry engine reporters stores, fun key => by
    simp [Agent.activeSessions, registry, not_standing_nil]⟩

end Api

/-- What an agent that begins with nothing lists after any course of requests, while time passes and
frames arrive, and with any luck in bringing up capture: the keys of the sessions that were started
with success and not ended since, in order and each of them once.  There is capture exactly while
there is something to list.  Every further request is answered as what it asks for: one that starts
a session either adds its key or fails and changes nothing, one that ends a session takes only its
key out, a listing gives the texts of the keys, and everything else is refused and changes
nothing. -/
theorem listing_is_set {agent : Agent} (nobody : agent.registry = [])
    (down : agent.engine = none) (reporters : agent.station.reporters = [])
    (stores : agent.station.stores = []) (course : List Api.Event) :
    let reached := Api.after agent course
    reached.activeSessions.Pairwise SessionKey.Before ∧
      (∀ key, key ∈ reached.activeSessions ↔ Api.Standing (Api.history agent course) key) ∧
      (reached.isCapturing = true ↔ reached.activeSessions ≠ []) ∧
      ∀ request capture backend,
        let faced := reached.facing capture backend
        let answered := Api.handle faced request
        Api.Answered faced (Api.askOf faced request) answered.1 answered.2 := by
  intro reached
  have lists : Api.Lists reached (Api.history agent course) := by
    simpa using (Api.Lists.of_fresh nobody down reporters stores).after course
  refine ⟨lists.consistent.tracks.activeSessions_before, lists.listed_iff,
    lists.consistent.isCapturing_iff, fun request capture backend => ?_⟩
  intro faced answered
  have whole : answered = Api.answer faced (Api.askOf faced request) := Api.handle_eq faced request
  rw [whole]
  exact (Api.answered_answer (lists.consistent.facing capture backend) _).2

namespace Api

def sampleStart : Request where
  method := "POST"
  target := "/sessions/start"
  body := .ofText "\x7b\"instance_id\":\"a\",\"vm_id\":10\x7d"

def sampleStartOfNine : Request where
  method := "POST"
  target := "/sessions/start"
  body := .ofText "\x7b\"vm_id\":9,\"instance_id\":\"a\"\x7d"

def sampleEnd : Request where
  method := "POST"
  target := "/sessions/end/"
  body := .ofText "\x7b\"instance_id\":\"a\",\"vm_id\":10\x7d"

def sampleList : Request where
  method := "GET"
  target := "/sessions"

def sampleSession (machine : Int64) (now : Timestamp) : Session where
  instanceId := "a"
  vmId := machine
  startTime := now

theorem askOf_sampleStart (agent : Agent) : askOf agent sampleStart =
    .start (sampleSession 10 (.ofMillis agent.station.now.toInt)) :=
  askOf_start (by decide +kernel) rfl fun now => by cbv

theorem askOf_sampleStartOfNine (agent : Agent) : askOf agent sampleStartOfNine =
    .start (sampleSession 9 (.ofMillis agent.station.now.toInt)) :=
  askOf_start (by decide +kernel) rfl fun now => by cbv

theorem askOf_sampleEnd (agent : Agent) : askOf agent sampleEnd = .end ⟨"a", 10⟩ :=
  askOf_end (by decide +kernel) rfl (by cbv)

/-- A session fails to start, then it starts, so does another, the first one is ended, and it starts
again. -/
def sampleEvents : List Event :=
  let capture : CaptureSettings := { filter := "" }
  let backend : Backend := { interfaces := .ok [⟨"eth0", .zero⟩] }
  [.request sampleStart capture { interfaces := .ok [] }, .request sampleStart capture backend,
    .request sampleStartOfNine capture backend, .pass 5000, .request sampleEnd capture backend,
    .frame "eth0" [1, 2], .request sampleStart capture backend]

/-- What the sample leaves behind: the machine that was replaced comes last. -/
theorem registry_sampleEvents :
    (after sampleAgent sampleEvents).registry = [(⟨"a", 9⟩, 1), (⟨"a", 10⟩, 2)] := by
  simp only [after, sampleEvents, List.foldl_cons, List.foldl_nil, step, handle_eq,
    askOf_sampleStart, askOf_sampleStartOfNine, askOf_sampleEnd, answer]
  decide +kernel

/-- Of two sessions that were started one was ended, and the listing is by number, not by text. -/
theorem listing_is_set_of_sampleEvents :
    (after sampleAgent sampleEvents).isCapturing = true ∧
      Standing (history sampleAgent sampleEvents) ⟨"a", 10⟩ ∧
      ¬ Standing (history sampleAgent sampleEvents) ⟨"b", 10⟩ ∧
      (handle ((after sampleAgent sampleEvents).facing {} default) sampleList).1 =
        ⟨200, some (.list [.ofText "a-9", .ofText "a-10"])⟩ := by
  have keys : (after sampleAgent sampleEvents).activeSessions = [⟨"a", 9⟩, ⟨"a", 10⟩] := by
    rw [Agent.activeSessions, registry_sampleEvents]
    cbv
  have fresh : sampleAgent.registry = [] := rfl
  obtain ⟨_, standing, capturing, answered⟩ := listing_is_set fresh rfl rfl rfl sampleEvents
  simp only [keys] at standing capturing
  refine ⟨capturing.mpr (by decide), (standing _).mp (by decide), ?_, ?_⟩
  · exact fun stands => absurd ((standing _).mpr stands) (by decide)
  · have response := (answered sampleList {} default).response_of_list
    simp only [Agent.activeSessions_facing, keys] at response
    exact response

end Api

end TrafficMeter
