/-
Module: TrafficMeter.Delivery.Uplink
Purpose: The client's end of the connection to a receiver: one connection is kept from batch to
  batch as long as every batch on it was acknowledged, so that no acknowledgement is taken for
  that of another batch.
Main exports: UplinkSettings, Line, Move, Uplink, Circumstances, Uplink.move, Uplink.send
-/
import TrafficMeter.Delivery.Batch

namespace TrafficMeter.Delivery

open Spool

/-- Where reports are sent, and how long the receiver may take. -/
structure UplinkSettings where
  address : String := "127.0.0.1:9400"
  connectTimeoutSecs : UInt64 := 5
  ioTimeoutSecs : UInt64 := 10
deriving DecidableEq, Repr, Inhabited

/-- A connection with what is under way on it. -/
structure Line where
  /-- the bytes that the client has sent -/
  sent : Bytes := []
  /-- the numbers of the batches that arrived whole and are not answered -/
  unanswered : List Nat := []
  /-- acknowledgements on their way back, each with the number of the batch that it answers -/
  answers : List (Nat × UInt8) := []
  closed : Bool := false
deriving DecidableEq, Repr, Inhabited

/-- What the receiver may do on a connection, at any time. -/
inductive Move where
  /-- acknowledge a batch, at most once -/
  | answer (batch : Nat) (code : UInt8)
  /-- close the connection; what is on its way back still arrives -/
  | close
  /-- tear the connection down; what is on its way back is lost -/
  | reset
deriving DecidableEq, Repr

/-- Carry out a move on a connection. -/
def Line.move (line : Line) : Move → Line
  | .answer batch code =>
      if !line.closed && line.unanswered.contains batch then
        { line with
          unanswered := line.unanswered.erase batch
          answers := line.answers ++ [(batch, code)] }
      else line
  | .close => { line with closed := true }
  | .reset => { line with closed := true, answers := [] }

/-- How an attempt to connect ends. -/
inductive Connecting where
  | established
  | refused
  | unanswered
deriving DecidableEq, Repr, Inhabited

/-- How far the bytes of a batch get. -/
inductive Transfer where
  | complete
  | broken
  | stalled
deriving DecidableEq, Repr, Inhabited

/-- What happens while a batch is being sent. -/
structure Circumstances where
  /-- the outcome of connecting, if that is needed -/
  connecting : Connecting := .established
  transfer : Transfer := .complete
  /-- what the receiver does on connections until an answer is read or waiting ends -/
  moves : List (Nat × Move) := []
  /-- waiting ends because the sender is stopped, and not because its time is up -/
  stopped : Bool := false
deriving DecidableEq, Repr, Inhabited

/-- The client's end. -/
structure Uplink where
  /-- every connection that there ever was -/
  lines : List Line := []
  /-- the number of the connection that is kept for the next batch -/
  kept : Option Nat := none
  /-- the number of batches handed in so far -/
  batches : Nat := 0
deriving DecidableEq, Repr, Inhabited

namespace Uplink

def move (link : Uplink) (line : Nat) (move : Move) : Uplink :=
  { link with lines := link.lines.modify line fun line => line.move move }

def moveAll (link : Uplink) (moves : List (Nat × Move)) : Uplink :=
  moves.foldl (fun link (line, move) => link.move line move) link

/-- How waiting ends: a sender that was stopped has no outcome. -/
def waitingEnds (circumstances : Circumstances) : Option (Except DeliveryError Unit) :=
  if circumstances.stopped then none else some (.error .timeout)

/-- The connection for the next batch: the one that was kept, or a new one. -/
def obtain (link : Uplink) (circumstances : Circumstances) :
    Except (Option (Except DeliveryError Unit)) (Nat × Uplink) :=
  match link.kept with
  | some number => .ok (number, { link with kept := none })
  | none =>
      match circumstances.connecting with
      | .established => .ok (link.lines.length, { link with lines := link.lines ++ [{}] })
      | .refused => .error (some (.error (.connectionFailed "the receiver cannot be reached")))
      | .unanswered => .error (waitingEnds circumstances)

/-- The bytes of a batch are under way as a whole. -/
def deliver (link : Uplink) (line batch : Nat) (bytes : Bytes) : Uplink :=
  { link with
    lines := link.lines.modify line fun line =>
      { line with sent := line.sent ++ bytes, unanswered := line.unanswered ++ [batch] } }

/-- Read the next acknowledgement of a connection.  With it, the connection is kept. -/
def await (link : Uplink) (circumstances : Circumstances) (number : Nat) :
    Option (Except DeliveryError Unit) × Uplink :=
  match circumstances.stopped, (link.lines.getD number {}).answers with
  | false, (_, code) :: answers =>
      (some (Batch.verdict (some code)), { link with
        lines := link.lines.modify number fun line => { line with answers }
        kept := some number })
  | _, _ =>
      if !circumstances.stopped && (link.lines.getD number {}).closed then
        (some (Batch.verdict none), link)
      else (waitingEnds circumstances, link)

/-- Send a batch over a connection and wait for its acknowledgement. -/
def exchange {α : Type} [Record α] (link : Uplink) (circumstances : Circumstances)
    (number batch : Nat) (records : List α) : Option (Except DeliveryError Unit) × Uplink :=
  match Batch.encode records with
  | .error error => (some (.error (.storage error)), link)
  | .ok bytes =>
      match circumstances.transfer with
      | .broken => (some (.error (.connectionFailed "nothing can be written")), link)
      | .stalled => (waitingEnds circumstances, link.moveAll circumstances.moves)
      | .complete =>
          ((link.deliver number batch bytes).moveAll circumstances.moves).await circumstances number

/-- Hand in a batch.  There is no outcome if the sender is stopped in between. -/
def send {α : Type} [Record α] (link : Uplink) (circumstances : Circumstances) (records : List α) :
    Option (Except DeliveryError Unit) × Uplink :=
  let counted := { link with batches := link.batches + 1 }
  match counted.obtain circumstances with
  | .error outcome => (outcome, counted)
  | .ok (number, link) => link.exchange circumstances number counted.batches records

end Uplink

end TrafficMeter.Delivery
