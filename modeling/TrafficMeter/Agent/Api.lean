/-
Module: TrafficMeter.Agent.Api
Purpose: Start, end and list sessions over HTTP: which requests are answered, and how.
Main exports: Api.Request, Api.Response, Api.Endpoint, Api.handle, WebError
-/
import TrafficMeter.Agent
import TrafficMeter.Agent.MediaType

namespace TrafficMeter

open Data

/-- Why the web server could not be brought up. -/
inductive WebError where
  | bindFailed (reason : String)
deriving DecidableEq, Repr

def WebError.message : WebError → String
  | .bindFailed reason => s!"Web server bind failed: {reason}"

namespace Api

structure Request where
  method : String
  target : String
  body : Bytes := []
  contentType : Option String := none
deriving Repr, Inhabited

/-- A response; only one that the agent gave has a body. -/
structure Response where
  status : Nat
  body : Option Value := none
deriving Repr, Inhabited

/-- What a path names. -/
inductive Endpoint where
  | start
  | «end»
  | list
deriving DecidableEq, Repr

def Endpoint.method : Endpoint → String
  | .start => "POST"
  | .end => "POST"
  | .list => "GET"

/-- Whether a character may stand in the scheme of a target. -/
def isSchemeChar (c : Char) : Bool :=
  c.isAlphanum || c == '+' || c == '-' || c == '.'

/-- What follows the scheme of a target, beginning with the authority. -/
def behindScheme? (target : List Char) : Option (List Char) :=
  match target.dropWhile isSchemeChar with
  | ':' :: '/' :: '/' :: rest => some rest
  | _ => none

/-- What follows the authority at the front. -/
def behindAuthority (text : List Char) : List Char :=
  text.dropWhile fun c => c != '/' && c != '?' && c != '#'

/-- The path of a target: what stands in front of the query in one that begins with a slash, or
behind the scheme and the authority of an absolute one.  Others have none. -/
def pathOf (target : String) : List Char :=
  let local? :=
    if target.toList.head? = some '/' then some target.toList
    else (behindScheme? target.toList).map behindAuthority
  (local?.getD []).takeWhile fun c => c != '?' && c != '#'

/-- The endpoint of a path, to which one slash may be added. -/
def endpoint? (path : List Char) : Option Endpoint :=
  [(Endpoint.start, "/sessions/start"), (.end, "/sessions/end"), (.list, "/sessions")].findSome?
    fun (endpoint, name) =>
      if path = name.toList ∨ path = name.toList ++ ['/'] then some endpoint else none

/-- A body that is one message. -/
def message (text : String) : Option Value :=
  some (.ofMembers [("message", .ofText text)])

/-- The value in a request body; a status where there is none. -/
def bodyOf {α : Type} (request : Request) (read? : Value → Option α) : Except Nat α :=
  if request.contentType.all fun text => (MediaType.read? text).any MediaType.isJson then
    match (Json.ofBytes? request.body).bind read? with
    | some value => .ok value
    | none => .error 400
  else .error 415

def startSession (agent : Agent) (session : Session) : Response × Agent :=
  match agent.startReport session with
  | (.ok (), agent) => (⟨200, message ("reporting " ++ session.key.text)⟩, agent)
  | (.error error, agent) => (⟨500, message error.message⟩, agent)

def endSession (agent : Agent) (key : SessionKey) : Response × Agent :=
  (⟨200, message ("ended " ++ key.text)⟩, agent.endReport key)

/-- The texts of the sessions that are reported. -/
def listSessions (agent : Agent) : Response :=
  ⟨200, some (.list (agent.activeSessions.map fun key => .ofText key.text))⟩

/-- Answer a request.  An unknown path is not found, a known one has its one method, and a body
must be JSON and describe what it is sent for. -/
def handle (agent : Agent) (request : Request) : Response × Agent :=
  match endpoint? (pathOf request.target) with
  | none => (⟨404, none⟩, agent)
  | some endpoint =>
      if request.method ≠ endpoint.method then (⟨405, none⟩, agent)
      else
        match endpoint with
        | .list => (listSessions agent, agent)
        | .start =>
            let now := Timestamp.ofMillis agent.station.now.toInt
            match bodyOf request (Session.ofValue? now) with
            | .ok session => startSession agent session
            | .error status => (⟨status, none⟩, agent)
        | .end =>
            match bodyOf request SessionKey.ofValue? with
            | .ok key => endSession agent key
            | .error status => (⟨status, none⟩, agent)

end Api

end TrafficMeter
