import Mathlib.Data.List.Basic

/-!
# Forwarded flows

The userspace stack's TCP and UDP forwarders turn every intercepted flow into a connection and
hand it, with the flow's local address as destination, to `forwardConnection`. That function
asks the routing dispatcher for a link, copies the request from the connection to the link's
writer and the response from the link's reader back, under an idle timer that holds `cancel`,
and interrupts both ends of the link when either copy fails. Its run is a list of the actions it
takes on the log, the link and the connection, in program order, and an ending: a return, or the
run-time panic of reading a field through a nil link. Deferred calls run in reverse order on
either ending, as Go runs them while a panic unwinds.
-/

namespace XrayProxy.Wireguard.Forward

set_option autoImplicit false

structure Destination where
  udp : Bool
  address : List UInt8
  port : Nat
  deriving DecidableEq, Repr

structure Link where
  reader : Nat
  writer : Nat
  deriving DecidableEq, Repr

abbrev Dispatcher := Destination → Option Link × Option String

structure RoutingInfo where
  dispatcher : Option Dispatcher

/-- How the two copies and the idle timer go: the request copy's result, the response copy's,
and whether the timer called `cancel` before `task.Run` returned, on inactivity or at once when a
copy's deferred `SetTimeout` sets a zero timeout. -/
structure Copies where
  request : Except String Unit
  response : Except String Unit
  timedOut : Bool

inductive Action
  | log (message : String)
  | closeWriter (link : Link)
  | interruptReader (link : Link)
  | interruptWriter (link : Link)
  | cancel
  | closeConn
  deriving DecidableEq, Repr

inductive Ending
  | returned
  | nilDereference
  deriving DecidableEq, Repr

/-- `task.Run(ctx, requestDonePost, responseDone)` on a present link: `OnSuccess` closes the
writer after a clean request copy, the idle timer calls `cancel` if it fires, and an error of
either half, or the cancelled context, is returned. -/
def runCopies (link : Link) (copies : Copies) : List Action × Bool :=
  ((if copies.request.isOk then [.closeWriter link] else []) ++
      (if copies.timedOut then [.cancel] else []),
    !copies.request.isOk || !copies.response.isOk || copies.timedOut)

def forwardConnection (info : RoutingInfo) (dest : Destination) (copies : Copies) :
    List Action × Ending :=
  match info.dispatcher with
  | none => ([.log "unexpected: dispatcher == nil"], .returned)
  | some dispatch =>
    let (link, err) := dispatch dest
    let logged := match err with
      | some _ => [Action.log "dispatch connection"]
      | none => []
    match link with
    | none => (logged ++ [.cancel, .closeConn], .nilDereference)
    | some link =>
      let (ran, failed) := runCopies link copies
      if failed then
        (logged ++ ran ++ [.interruptReader link, .interruptWriter link,
          .log "connection ends", .cancel, .closeConn], .returned)
      else (logged ++ ran ++ [.cancel, .closeConn], .returned)

structure FlowId where
  localAddress : List UInt8
  localPort : Nat

structure Forwarded where
  completeRst : Option Bool
  destination : Option Destination

def tcpHandler (id : FlowId) (endpointCreated : Bool) : Forwarded :=
  if endpointCreated then ⟨some false, some ⟨false, id.localAddress, id.localPort⟩⟩
  else ⟨some true, none⟩

def udpHandler (id : FlowId) (endpointCreated : Bool) : Forwarded :=
  if endpointCreated then ⟨none, some ⟨true, id.localAddress, id.localPort⟩⟩ else ⟨none, none⟩

/-- A dispatcher that fails with no link: `forwardConnection` logs the failure, runs its
deferred `cancel` and `conn.Close` and dies on the nil link instead of returning. -/
theorem forward_connection_dispatch_failure_panics :
    forwardConnection ⟨some fun _ => (none, some "no outbound")⟩ ⟨false, [10, 0, 0, 1], 80⟩
        ⟨.ok (), .ok (), false⟩ =
      ([.log "dispatch connection", .cancel, .closeConn], .nilDereference) := rfl

end XrayProxy.Wireguard.Forward
