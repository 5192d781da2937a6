/-
Module: TrafficMeter.Net.Filter
Purpose: Capture filters: the tree of a boolean condition on a flow, what it means and how it is
  shown.
Main exports: Filter, Filter.holds, Filter.standard, Filter.shown
-/
import TrafficMeter.Net.Frame

namespace TrafficMeter.Net

/-- A condition on a flow. -/
inductive Filter where
  | any
  | transport (transport : Transport)
  | port (port : UInt16)
  | host (address : IpAddress)
  | negation (inner : Filter)
  | both (left right : Filter)
  | either (left right : Filter)
deriving DecidableEq, Repr, Inhabited

namespace Filter

/-- Whether a flow meets a condition; a port or host may stand at either end of it. -/
def holds : Filter → Flow → Bool
  | .any, _ => true
  | .transport t, flow => flow.transport == t
  | .port p, flow => flow.sourcePort == p || flow.targetPort == p
  | .host address, flow => flow.source == address || flow.target == address
  | .negation inner, flow => !inner.holds flow
  | .both left right, flow => left.holds flow && right.holds flow
  | .either left right, flow => left.holds flow || right.holds flow

/-- The filter used when none is set: every flow of the two transports. -/
def standard : Filter := .either (.transport .udp) (.transport .tcp)

/-- The text that reads as the standard filter. -/
def standardText : String := "udp or tcp"

/-- A tree written out constructor by constructor. -/
def shown : Filter → String
  | .any => "Any"
  | .transport .tcp => "Proto(Tcp)"
  | .transport .udp => "Proto(Udp)"
  | .port p => s!"Port({p.toNat})"
  | .host address => s!"Host({address.text})"
  | .negation inner => s!"Not({inner.shown})"
  | .both left right => s!"And({left.shown}, {right.shown})"
  | .either left right => s!"Or({left.shown}, {right.shown})"

end Filter

end TrafficMeter.Net
