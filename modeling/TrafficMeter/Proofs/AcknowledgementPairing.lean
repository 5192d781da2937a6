/-
Module: TrafficMeter.Proofs.AcknowledgementPairing
Purpose: An acknowledgement is taken for the batch that it answers, and for no other.  The receiver
  answers each batch at most once, whenever it likes, and closes connections as it likes; but a
  connection is kept for the next batch only while nothing is unanswered on it and no answer is on
  its way back.
Main exports: Line.Idle, Line.Awaits, Answers, Uplink.Sound, Uplink.Acknowledges,
  Uplink.Sound.send_spec, Uplink.Occurrence, Uplink.Sound.after, acknowledgements_are_paired
-/
import TrafficMeter.Delivery.Uplink
import TrafficMeter.Proofs.BatchReading

namespace TrafficMeter.Delivery

open Spool

/-- What an acknowledgement says, code by code. -/
theorem Batch.verdict_some (code : UInt8) :
    Batch.verdict (some code) = if code = 0 then .ok () else .error (.rejected code) := by
  by_cases accepts : code = 0
  · rw [if_pos accepts, accepts]
    rfl
  · rw [if_neg accepts]
    unfold Batch.verdict
    split
    · next same => exact absurd (Option.some.inj same) accepts
    · next same => rw [Option.some.inj same]
    · next same => cases same

/-! ### One connection -/

namespace Line

/-- Nothing is under way on the connection. -/
structure Idle (line : Line) : Prop where
  answered : line.unanswered = []
  read : line.answers = []

/-- Just this batch is under way on the connection, which is open. -/
structure Awaits (line : Line) (batch : Nat) : Prop where
  isOpen : line.closed = false
  unanswered : line.unanswered = [batch]
  unread : line.answers = []

/-- Just the answer to this batch is under way on the connection. -/
structure Answered (line : Line) (batch : Nat) (code : UInt8) : Prop where
  answered : line.unanswered = []
  unread : line.answers = [(batch, code)]

/-- No answer is under way on the connection, and none will be. -/
structure Silent (line : Line) : Prop where
  nothing : line.answers = []
  forever : line.closed = true ∨ line.unanswered = []

variable {line : Line} {batch : Nat} {code : UInt8}

@[simp] theorem sent_move (line : Line) (move : Move) : (line.move move).sent = line.sent := by
  cases move with
  | answer batch code =>
      rw [Line.move]
      split <;> rfl
  | close => rfl
  | reset => rfl

/-- An answer to a batch the line does not wait for is thrown away. -/
theorem move_answer_of_not_mem {other : Nat} (apart : other ∉ line.unanswered) :
    line.move (.answer other code) = line := by
  rw [Line.move, if_neg (by simp [apart])]

/-- On a closed line no answer is read any more. -/
theorem move_answer_of_closed {other : Nat} (closed : line.closed = true) :
    line.move (.answer other code) = line := by
  rw [Line.move, if_neg (by simp [closed])]

/-- An idle connection stays idle: nothing is under way that the receiver could answer. -/
theorem Idle.move (idle : line.Idle) (move : Move) : (line.move move).Idle := by
  cases move with
  | answer other code =>
      rw [move_answer_of_not_mem (by rw [idle.answered]; exact List.not_mem_nil)]
      exact idle
  | close => exact ⟨idle.answered, idle.read⟩
  | reset => exact ⟨idle.answered, rfl⟩

theorem Silent.move (silent : line.Silent) (move : Move) : (line.move move).Silent := by
  cases move with
  | answer other code =>
      have same : line.move (.answer other code) = line := by
        rcases silent.forever with closed | answered
        · exact move_answer_of_closed closed
        · exact move_answer_of_not_mem (by rw [answered]; exact List.not_mem_nil)
      rw [same]
      exact silent
  | close => exact ⟨silent.nothing, .inl rfl⟩
  | reset => exact ⟨rfl, .inl rfl⟩

/-- An answer may get lost, but nothing comes behind it. -/
theorem Answered.move (answered : line.Answered batch code) (move : Move) :
    (line.move move).Answered batch code ∨ (line.move move).Silent := by
  cases move with
  | answer other code =>
      rw [move_answer_of_not_mem (by rw [answered.answered]; exact List.not_mem_nil)]
      exact .inl answered
  | close => exact .inl ⟨answered.answered, answered.unread⟩
  | reset => exact .inr ⟨rfl, .inl rfl⟩

/-- Once the batch is answered, or can no longer be, no move brings the wait for it back. -/
theorem answered_or_silent_move (move : Move)
    (either : line.Answered batch code ∨ line.Silent) :
    (line.move move).Answered batch code ∨ (line.move move).Silent := by
  rcases either with answered | silent
  · exact answered.move move
  · exact .inr (silent.move move)

/-- While a batch is under way, it is answered, or the connection breaks, or nothing happens. -/
theorem Awaits.move (awaits : line.Awaits batch) (move : Move) :
    (∃ code, move = .answer batch code ∧ (line.move move).Answered batch code) ∨
      (line.move move).Silent ∨
      (∃ other code, move = .answer other code ∧ other ≠ batch) ∧
        (line.move move).Awaits batch := by
  cases move with
  | answer other code =>
      by_cases same : other = batch
      · subst same
        refine .inl ⟨code, rfl, ?_⟩
        rw [Line.move, if_pos (by simp [awaits.isOpen, awaits.unanswered])]
        exact ⟨by simp [awaits.unanswered], by simp [awaits.unread]⟩
      · refine .inr (.inr ⟨⟨other, code, rfl, same⟩, ?_⟩)
        rw [move_answer_of_not_mem (by simpa [awaits.unanswered] using same)]
        exact awaits
  | close => exact .inr (.inl ⟨awaits.unread, .inl rfl⟩)
  | reset => exact .inr (.inl ⟨rfl, .inl rfl⟩)

end Line

/-! ### Moves of the receiver -/

/-- Among these moves the receiver answers the batch on the connection with the code, and before
that it does nothing there but what concerns other batches. -/
def Answers (moves : List (Nat × Move)) (number batch : Nat) (code : UInt8) : Prop :=
  ∃ before after, moves = before ++ (number, .answer batch code) :: after ∧
    ∀ move, (number, move) ∈ before → ∃ other code, move = .answer other code ∧ other ≠ batch

namespace Answers

variable {moves : List (Nat × Move)} {number batch : Nat} {code : UInt8}

theorem now (moves : List (Nat × Move)) :
    Answers ((number, .answer batch code) :: moves) number batch code :=
  ⟨[], moves, rfl, fun _ impossible => absurd impossible List.not_mem_nil⟩

theorem later (answers : Answers moves number batch code) {place : Nat} {move : Move}
    (harmless : place = number → ∃ other code, move = .answer other code ∧ other ≠ batch) :
    Answers ((place, move) :: moves) number batch code := by
  obtain ⟨before, after, rfl, still⟩ := answers
  refine ⟨(place, move) :: before, after, rfl, fun earlier member => ?_⟩
  rcases List.mem_cons.mp member with same | inside
  · cases same
    exact harmless rfl
  · exact still earlier inside

end Answers

namespace Uplink

variable {link : Uplink} {number batch : Nat} {line : Line}

theorem moveAll_cons (link : Uplink) (place : Nat) (move : Move) (moves : List (Nat × Move)) :
    link.moveAll ((place, move) :: moves) = (link.move place move).moveAll moves :=
  rfl

/-- A move on one line leaves every other line as it was. -/
theorem getElem?_move (here : link.lines[number]? = some line) (place : Nat) (move : Move) :
    (link.move place move).lines[number]? =
      some (if place = number then line.move move else line) := by
  rw [Uplink.move, List.getElem?_modify, here]
  split <;> rfl

/-- What every move on a connection keeps stays true of it. -/
theorem moveAll_keeps (Kept : Line → Prop) (step : ∀ line move, Kept line → Kept (line.move move))
    (here : link.lines[number]? = some line) (kept : Kept line) (moves : List (Nat × Move)) :
    ∃ last, (link.moveAll moves).lines[number]? = some last ∧ Kept last := by
  induction moves generalizing link line with
  | nil => exact ⟨line, here, kept⟩
  | cons first moves ih =>
      obtain ⟨place, move⟩ := first
      refine ih (getElem?_move here place move) ?_
      split
      · exact step line move kept
      · exact kept

/-- When waiting for the answer to a batch ends, it is there or there is none. -/
theorem moveAll_awaits (here : link.lines[number]? = some line) (awaits : line.Awaits batch)
    (moves : List (Nat × Move)) :
    ∃ last, (link.moveAll moves).lines[number]? = some last ∧
      (last.answers = [] ∨ ∃ code, Answers moves number batch code ∧ last.Answered batch code) := by
  induction moves generalizing link line with
  | nil => exact ⟨line, here, .inl awaits.unread⟩
  | cons first moves ih =>
      obtain ⟨place, move⟩ := first
      have there := getElem?_move here place move
      rw [moveAll_cons]
      by_cases place_eq : place = number
      · rw [if_pos place_eq] at there
        subst place_eq
        rcases awaits.move move with
          ⟨code, rfl, answered⟩ | silent | ⟨⟨other, code, rfl, apart⟩, still⟩
        · -- no further move brings a second answer, but a reset may take this one away
          obtain ⟨last, reached, answered | silent⟩ :=
            moveAll_keeps (fun line => line.Answered batch code ∨ line.Silent)
              (fun _ move => Line.answered_or_silent_move move) there (.inl answered) moves
          · exact ⟨last, reached, .inr ⟨code, .now moves, answered⟩⟩
          · exact ⟨last, reached, .inl silent.nothing⟩
        · obtain ⟨last, reached, silent⟩ :=
            moveAll_keeps Line.Silent (fun _ move silent => silent.move move) there silent moves
          exact ⟨last, reached, .inl silent.nothing⟩
        · obtain ⟨last, reached, outcome⟩ := ih there still
          refine ⟨last, reached, outcome.imp_right ?_⟩
          rintro ⟨code', answers, answered⟩
          exact ⟨code', answers.later fun _ => ⟨other, code, rfl, apart⟩, answered⟩
      · rw [if_neg place_eq] at there
        obtain ⟨last, reached, outcome⟩ := ih there awaits
        refine ⟨last, reached, outcome.imp_right ?_⟩
        rintro ⟨code, answers, answered⟩
        exact ⟨code, answers.later fun same => absurd same place_eq, answered⟩

/-- Only the sender replaces the connection it keeps; the receiver's moves never do. -/
theorem kept_moveAll (link : Uplink) (moves : List (Nat × Move)) :
    (link.moveAll moves).kept = link.kept := by
  induction moves generalizing link with
  | nil => rfl
  | cons first moves ih => exact ih (link.move first.1 first.2)

theorem length_moveAll (link : Uplink) (moves : List (Nat × Move)) :
    (link.moveAll moves).lines.length = link.lines.length := by
  induction moves generalizing link with
  | nil => rfl
  | cons first moves ih =>
      refine (ih (link.move first.1 first.2)).trans ?_
      rw [Uplink.move, List.length_modify]

/-! ### Sending -/

/-- The bytes that were sent over a connection. -/
def sentOn (link : Uplink) (number : Nat) : Bytes :=
  (link.lines.getD number {}).sent

theorem sentOn_modify (link : Uplink) (place number : Nat) {change : Line → Line}
    (keeps : ∀ line, (change line).sent = line.sent) :
    { link with lines := link.lines.modify place change }.sentOn number = link.sentOn number := by
  rw [sentOn, sentOn, List.getD_eq_getElem?_getD, List.getD_eq_getElem?_getD,
    List.getElem?_modify]
  cases link.lines[number]? with
  | none => rfl
  | some line =>
      show (if place = number then change line else line).sent = line.sent
      split
      · exact keeps line
      · rfl

/-- What has been sent over a line is the sender's doing alone. -/
theorem sentOn_moveAll (link : Uplink) (moves : List (Nat × Move)) (number : Nat) :
    (link.moveAll moves).sentOn number = link.sentOn number := by
  induction moves generalizing link with
  | nil => rfl
  | cons first moves ih =>
      obtain ⟨place, move⟩ := first
      exact (ih (link.move place move)).trans
        (sentOn_modify link place number fun line => line.sent_move move)

theorem sentOn_open (link : Uplink) (number : Nat) :
    { link with lines := link.lines ++ [({} : Line)] }.sentOn number = link.sentOn number := by
  rw [sentOn, sentOn, List.getD_eq_getElem?_getD, List.getD_eq_getElem?_getD,
    List.getElem?_append]
  split
  · rfl
  · next beyond =>
      -- neither a new connection nor none at all has anything on it
      rw [List.getElem?_eq_none (Nat.le_of_not_lt beyond)]
      cases number - link.lines.length <;> rfl

/-- A delivery adds its bytes to the line it goes over and to no other. -/
theorem sentOn_deliver (here : link.lines[number]? = some line) (batch : Nat) (bytes : Bytes)
    (place : Nat) :
    (link.deliver number batch bytes).sentOn place =
      if place = number then link.sentOn number ++ bytes else link.sentOn place := by
  simp only [sentOn, deliver, List.getD_eq_getElem?_getD, List.getElem?_modify]
  by_cases same : place = number
  · subst same
    simp [here]
  · simp [same, Ne.symm same]

/-- A connection is kept only while nothing is under way on it. -/
def Sound (link : Uplink) : Prop :=
  ∀ number, link.kept = some number → ∃ line, link.lines[number]? = some line ∧ line.Idle

/-- The outcomes without an acknowledgement. -/
inductive Unacknowledged : Option (Except DeliveryError Unit) → Prop where
  | stopped : Unacknowledged none
  | timeout : Unacknowledged (some (.error .timeout))
  | connectionFailed (reason : String) : Unacknowledged (some (.error (.connectionFailed reason)))
  | storage (error : StorageError) : Unacknowledged (some (.error (.storage error)))

theorem unacknowledged_waitingEnds (circumstances : Circumstances) :
    Unacknowledged (waitingEnds circumstances) := by
  rw [waitingEnds]
  split
  · exact .stopped
  · exact .timeout

/-- The connection for the next batch is the one that was kept, or a new one if none was. -/
theorem Sound.obtain_spec (sound : link.Sound) {circumstances : Circumstances} {next : Uplink}
    (obtained : link.obtain circumstances = .ok (number, next)) :
    number = link.kept.getD link.lines.length ∧ next.kept = none ∧
      (∃ line, next.lines[number]? = some line ∧ line.Idle) ∧
      next.lines.length = (if link.kept = none ∧ circumstances.connecting = .established
        then link.lines.length + 1 else link.lines.length) ∧
      ∀ place, next.sentOn place = link.sentOn place := by
  rw [Uplink.obtain] at obtained
  cases kept : link.kept with
  | some old =>
      rw [kept] at obtained
      cases obtained
      refine ⟨rfl, rfl, sound _ kept, ?_, fun _ => rfl⟩
      rw [if_neg (by simp)]
  | none =>
      rw [kept] at obtained
      cases connecting : circumstances.connecting with
      | established =>
          rw [connecting] at obtained
          cases obtained
          refine ⟨rfl, rfl, ⟨{}, List.getElem?_concat_length, ⟨rfl, rfl⟩⟩, ?_, link.sentOn_open⟩
          rw [if_pos ⟨rfl, rfl⟩, List.length_append]
          rfl
      | refused =>
          rw [connecting] at obtained
          cases obtained
      | unanswered =>
          rw [connecting] at obtained
          cases obtained

/-- Obtaining a connection fails only where none is kept and a new one cannot be set up, and the
outcome then is no acknowledgement. -/
theorem obtain_eq_error {circumstances : Circumstances}
    {outcome : Option (Except DeliveryError Unit)}
    (failed : link.obtain circumstances = .error outcome) :
    link.kept = none ∧ circumstances.connecting ≠ .established ∧ Unacknowledged outcome := by
  rw [Uplink.obtain] at failed
  cases kept : link.kept with
  | some old =>
      rw [kept] at failed
      cases failed
  | none =>
      rw [kept] at failed
      cases connecting : circumstances.connecting with
      | established =>
          rw [connecting] at failed
          cases failed
      | refused =>
          rw [connecting] at failed
          cases failed
          exact ⟨rfl, by decide, .connectionFailed _⟩
      | unanswered =>
          rw [connecting] at failed
          cases failed
          exact ⟨rfl, by decide, unacknowledged_waitingEnds circumstances⟩

/-- A batch goes over a connection on which nothing is under way, and the receiver moves: then its
answer is there, or there is none. -/
theorem deliver_spec (here : link.lines[number]? = some line) (idle : line.Idle) (batch : Nat)
    (bytes : Bytes) (moves : List (Nat × Move)) :
    let reached := (link.deliver number batch bytes).moveAll moves
    reached.kept = link.kept ∧ reached.lines.length = link.lines.length ∧
      (∀ place, reached.sentOn place =
        if place = number then link.sentOn number ++ bytes else link.sentOn place) ∧
      ∃ last, reached.lines[number]? = some last ∧
        (last.answers = [] ∨
          ∃ code, Answers moves number batch code ∧ last.Answered batch code) := by
  let loaded : Line :=
    { line with sent := line.sent ++ bytes, unanswered := line.unanswered ++ [batch] }
  have there : (link.deliver number batch bytes).lines[number]? = some loaded := by
    rw [deliver, List.getElem?_modify_eq, here]
    rfl
  refine ⟨kept_moveAll _ _, (length_moveAll _ _).trans (List.length_modify _ _ _),
    fun place => (sentOn_moveAll _ _ _).trans (sentOn_deliver here batch bytes place), ?_⟩
  -- the receiver may have closed the connection while it was kept, and then no answer comes
  cases closed : line.closed with
  | true =>
      have silent : loaded.Silent := ⟨idle.read, .inl closed⟩
      obtain ⟨last, reached, silent⟩ :=
        moveAll_keeps Line.Silent (fun _ move silent => silent.move move) there silent moves
      exact ⟨last, reached, .inl silent.nothing⟩
  | false =>
      have awaits : loaded.Awaits batch :=
        ⟨closed, by simp [loaded, idle.answered], idle.read⟩
      exact moveAll_awaits there awaits moves

/-- Waiting sends nothing.  It ends with the answer that is there, and then nothing is under way on the
connection any longer; or it ends without one. -/
theorem await_spec (here : link.lines[number]? = some line) {Told : UInt8 → Prop}
    (found : line.answers = [] ∨ ∃ code, Told code ∧ line.Answered batch code)
    (circumstances : Circumstances) :
    let outcome := (link.await circumstances number).1
    let next := (link.await circumstances number).2
    next.lines.length = link.lines.length ∧ (∀ place, next.sentOn place = link.sentOn place) ∧
      (Unacknowledged outcome ∧ next.kept = link.kept ∨
        ∃ code, Told code ∧ outcome = some (Batch.verdict (some code)) ∧
          next.kept = some number ∧ ∃ line, next.lines[number]? = some line ∧ line.Idle) := by
  have standing : link.lines.getD number {} = line := by
    rw [List.getD_eq_getElem?_getD, here]
    rfl
  have waits := unacknowledged_waitingEnds circumstances
  rw [await, standing]
  rcases found with nothing | ⟨code, told, answered⟩
  · rw [nothing]
    cases circumstances.stopped with
    | true => exact ⟨rfl, fun _ => rfl, .inl ⟨waits, rfl⟩⟩
    | false =>
        cases line.closed with
        | true => exact ⟨rfl, fun _ => rfl, .inl ⟨.connectionFailed _, rfl⟩⟩
        | false => exact ⟨rfl, fun _ => rfl, .inl ⟨waits, rfl⟩⟩
  · rw [answered.unread]
    cases circumstances.stopped with
    | true => exact ⟨rfl, fun _ => rfl, .inl ⟨waits, rfl⟩⟩
    | false =>
        refine ⟨List.length_modify _ _ _, fun place => sentOn_modify link number place fun _ => rfl,
          .inr ⟨code, told, rfl, rfl, { line with answers := [] }, ?_, answered.answered, rfl⟩⟩
        rw [List.getElem?_modify_eq, here]
        rfl

/-- A batch goes over the connection, and its own answer comes back; or there is no acknowledgement,
and the connection is not kept. -/
theorem exchange_spec {α : Type} [Record α] (free : link.kept = none)
    (here : link.lines[number]? = some line) (idle : line.Idle) (circumstances : Circumstances)
    (batch : Nat) (records : List α) :
    let outcome := (link.exchange circumstances number batch records).1
    let next := (link.exchange circumstances number batch records).2
    next.lines.length = link.lines.length ∧
      (∀ place, place ≠ number → next.sentOn place = link.sentOn place) ∧
      (Unacknowledged outcome ∧ next.kept = none ∨
        ∃ code payloads, outcome = some (Batch.verdict (some code)) ∧ next.kept = some number ∧
          (∃ line, next.lines[number]? = some line ∧ line.Idle) ∧
          Answers circumstances.moves number batch code ∧
          Batch.payloads records = .ok payloads ∧
          next.sentOn number = link.sentOn number ++ Batch.ofPayloads payloads) := by
  rw [exchange]
  cases encoded : Batch.encode records with
  | error error => exact ⟨rfl, fun _ _ => rfl, .inl ⟨.storage error, free⟩⟩
  | ok bytes =>
      cases circumstances.transfer with
      | broken => exact ⟨rfl, fun _ _ => rfl, .inl ⟨.connectionFailed _, free⟩⟩
      | stalled =>
          exact ⟨length_moveAll link _, fun place _ => sentOn_moveAll link _ place,
            .inl ⟨unacknowledged_waitingEnds circumstances, (kept_moveAll link _).trans free⟩⟩
      | complete =>
          obtain ⟨payloads, all, rfl⟩ := Batch.encode_eq_ok encoded
          obtain ⟨kept, length, sent, last, there, found⟩ :=
            deliver_spec here idle batch (Batch.ofPayloads payloads) circumstances.moves
          obtain ⟨length', sent', outcome⟩ := await_spec there found circumstances
          refine ⟨length'.trans length, fun place apart => ?_, ?_⟩
          · exact (sent' place).trans ((sent place).trans (if_neg apart))
          · rcases outcome with ⟨none, kept'⟩ | ⟨code, answers, read, kept', still⟩
            · exact .inl ⟨none, kept'.trans (kept.trans free)⟩
            · exact .inr ⟨code, payloads, read, kept', still, answers, all,
                (sent' number).trans ((sent number).trans (if_pos rfl))⟩

/-- A batch was acknowledged with a code: it went as a whole over the connection that was kept, or
over a new one, there the receiver answered this very batch, and the connection is kept. -/
structure Acknowledges {α : Type} [Record α] (link : Uplink) (circumstances : Circumstances)
    (records : List α) (code : UInt8) (next : Uplink) : Prop where
  kept : next.kept = some (link.kept.getD link.lines.length)
  answers : Answers circumstances.moves (link.kept.getD link.lines.length) (link.batches + 1) code
  carried : ∃ payloads, Batch.payloads records = .ok payloads ∧
    next.sentOn (link.kept.getD link.lines.length) =
      link.sentOn (link.kept.getD link.lines.length) ++ Batch.ofPayloads payloads ∧
    -- who reads from there on reads this batch
    (records.length < Bytes.bound Batch.countLength →
      ∀ later, Batch.read? (Batch.ofPayloads payloads ++ later) = some (payloads, later))

/-- What a send does: its batch is acknowledged, or no connection is kept. -/
theorem Sound.send_spec {α : Type} [Record α] (sound : link.Sound) (circumstances : Circumstances)
    (records : List α) :
    let outcome := (link.send circumstances records).1
    let next := (link.send circumstances records).2
    next.Sound ∧
      next.lines.length = (if link.kept = none ∧ circumstances.connecting = .established
        then link.lines.length + 1 else link.lines.length) ∧
      (∀ place, place ≠ link.kept.getD link.lines.length →
        next.sentOn place = link.sentOn place) ∧
      (Unacknowledged outcome ∧ next.kept = none ∨
        ∃ code, outcome = some (Batch.verdict (some code)) ∧
          link.Acknowledges circumstances records code next) := by
  let counted : Uplink := { link with batches := link.batches + 1 }
  rw [send]
  dsimp only
  cases obtained : counted.obtain circumstances with
  | error outcome =>
      obtain ⟨free, failed, none⟩ := obtain_eq_error obtained
      refine ⟨sound, ?_, fun _ _ => rfl, .inl ⟨none, free⟩⟩
      rw [if_neg fun both => failed both.2]
  | ok connection =>
      obtain ⟨number, opened⟩ := connection
      have whole : counted.Sound := sound
      obtain ⟨rfl, free, ⟨line, here, idle⟩, length, before⟩ := whole.obtain_spec obtained
      obtain ⟨same, elsewhere, outcome⟩ :=
        exchange_spec free here idle circumstances counted.batches records
      refine ⟨?_, same.trans length,
        fun place apart => (elsewhere place apart).trans (before place), ?_⟩
      · intro place kept
        rcases outcome with ⟨_, none⟩ | ⟨_, _, _, keeps, standing, _⟩
        · cases none.symm.trans kept
        · cases keeps.symm.trans kept
          exact standing
      · rcases outcome with ⟨none, unkept⟩ | ⟨code, payloads, read, keeps, _, answers, all, sent⟩
        · exact .inl ⟨none, unkept⟩
        · refine .inr ⟨code, read, keeps, answers, payloads, all, ?_, fun few later => ?_⟩
          · exact sent.trans (congrArg (· ++ _) (before _))
          · obtain ⟨count, short⟩ := Batch.payloads_spec all
            exact Batch.read?_ofPayloads_append short (by rw [count]; exact few) later

/-- The receiver cannot break the pairing, whatever it sends back and wherever. -/
theorem Sound.move (sound : link.Sound) (place : Nat) (move : Move) :
    (link.move place move).Sound := by
  intro number kept
  obtain ⟨line, here, idle⟩ := sound number kept
  refine ⟨_, getElem?_move here place move, ?_⟩
  split
  · exact idle.move move
  · exact idle

/-! ### Any sequence of batches -/

/-- What happens to an uplink, in between batches and with them. -/
inductive Occurrence (α : Type) where
  /-- the receiver does something on a connection -/
  | move (number : Nat) (move : Move)
  /-- a batch is handed in -/
  | send (circumstances : Circumstances) (records : List α)

def step {α : Type} [Record α] (link : Uplink) : Occurrence α → Uplink
  | .move number move => link.move number move
  | .send circumstances records => (link.send circumstances records).2

def after {α : Type} [Record α] (link : Uplink) (course : List (Occurrence α)) : Uplink :=
  course.foldl step link

theorem sound_empty : ({} : Uplink).Sound := by
  intro number kept
  cases kept

theorem Sound.step {α : Type} [Record α] (sound : link.Sound) (occurrence : Occurrence α) :
    (link.step occurrence).Sound := by
  cases occurrence with
  | move number move => exact sound.move number move
  | send circumstances records => exact (sound.send_spec circumstances records).1

/-- The pairing survives any course of sends and of moves of the receiver. -/
theorem Sound.after {α : Type} [Record α] (sound : link.Sound) (course : List (Occurrence α)) :
    (link.after course).Sound := by
  induction course generalizing link with
  | nil => exact sound
  | cons occurrence later ih => exact ih (sound.step occurrence)

end Uplink

/-- Batches are handed in one after another, and the receiver answers each at most once, at any time
and on any connection that there ever was, and closes or refuses connections at any time.  Then a
batch is taken for accepted only if the receiver answered this very batch with zero, on the
connection that carried it, and for rejected with a code only if it answered it with that code, which
is not zero.  In these cases the connection is kept for the next batch, and in no other; and a new
one is opened only if none is kept. -/
theorem acknowledgements_are_paired {α : Type} [Record α] (course : List (Uplink.Occurrence α))
    (circumstances : Circumstances) (records : List α) :
    let link := ({} : Uplink).after course
    let outcome := (link.send circumstances records).1
    let next := (link.send circumstances records).2
    (outcome = some (.ok ()) → link.Acknowledges circumstances records 0 next) ∧
      (∀ code, outcome = some (.error (.rejected code)) →
        code ≠ 0 ∧ link.Acknowledges circumstances records code next) ∧
      (outcome ≠ some (.ok ()) → (∀ code, outcome ≠ some (.error (.rejected code))) →
        Uplink.Unacknowledged outcome ∧ next.kept = none) ∧
      next.lines.length = (if link.kept = none ∧ circumstances.connecting = .established
        then link.lines.length + 1 else link.lines.length) ∧
      ∀ place, place ≠ link.kept.getD link.lines.length →
        next.sentOn place = link.sentOn place := by
  intro link outcome next
  have sound : link.Sound := Uplink.sound_empty.after course
  obtain ⟨_, length, elsewhere, result⟩ := sound.send_spec circumstances records
  have read {code : UInt8} (said : outcome = some (Batch.verdict (some code))) :
      outcome = some (if code = 0 then .ok () else .error (.rejected code)) := by
    rw [said, Batch.verdict_some]
  refine ⟨fun accepted => ?_, fun code rejected => ?_, fun unaccepted unrejected => ?_, length,
    elsewhere⟩
  · rcases result with ⟨none, _⟩ | ⟨code, said, acknowledges⟩
    · change Uplink.Unacknowledged outcome at none
      rw [accepted] at none
      cases none
    · have heard := (read said).symm.trans accepted
      split at heard
      · next zero => exact zero ▸ acknowledges
      · cases heard
  · rcases result with ⟨none, _⟩ | ⟨code', said, acknowledges⟩
    · change Uplink.Unacknowledged outcome at none
      rw [rejected] at none
      cases none
    · have heard := (read said).symm.trans rejected
      split at heard
      · cases heard
      · next other =>
          cases heard
          exact ⟨other, acknowledges⟩
  · rcases result with unanswered | ⟨code, said, _⟩
    · exact unanswered
    · have heard := read said
      split at heard
      · exact absurd heard unaccepted
      · exact absurd heard (unrejected code)

/-- The first batch is answered only when its time is up, and the second goes over a new connection:
the answer to the first is not taken for one to it. -/
example :
    let link := ({} : Uplink).after [.send {} [(⟨[1]⟩ : Octets)], .move 0 (.answer 1 0)]
    link.kept = none ∧
      (link.send { moves := [(0, .answer 1 0), (1, .answer 2 7)] } [(⟨[2]⟩ : Octets)]).1 =
        some (.error (.rejected 7)) :=
  ⟨rfl, rfl⟩

end TrafficMeter.Delivery
