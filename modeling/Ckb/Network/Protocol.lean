import Mathlib.Data.List.AList
import Ckb.Network.Transport

/-!
# The identify protocol

`IdentifyProtocol<T: Callback>` as a state machine. Each handler of the
transport (`connected`, `received`, `notify`, `disconnected`) is a function of
the protocol state that returns the new state and the protocol's actions in
order: its calls into the callback and its requests on the session context.
A handler that would panic on an `expect` returns `none`.

The callback is any instance of the `Callback` class, with its own state. The
envelope codec of `protocol.rs` and the address utilities are parameters.
-/

set_option autoImplicit false

namespace Ckb.Network

open Ckb.Packed

/-! ## Constants -/

/-- `MAX_ADDRS`. -/
def maxAddrs : Nat := 10

/-- `DEFAULT_TIMEOUT`, in seconds. -/
def defaultTimeout : Nat := 8

/-! ## Misbehavior and the callback -/

/-- `enum Misbehavior`. -/
inductive Misbehavior where
  | duplicateListenAddrs
  | duplicateObservedAddr
  | timeout
  | invalidData
  | tooManyAddresses (count : Nat)
deriving DecidableEq, Repr

/-- `enum MisbehaveResult`. -/
inductive MisbehaveResult where
  | continue
  | disconnect
deriving DecidableEq, Repr

/-- `MisbehaveResult::is_disconnect`. -/
def MisbehaveResult.isDisconnect : MisbehaveResult → Bool
  | .disconnect => true
  | .continue => false

theorem MisbehaveResult.isDisconnect_iff (result : MisbehaveResult) :
    result.isDisconnect = true ↔ result = .disconnect := by
  cases result <;> decide

theorem MisbehaveResult.eq_continue_of_not_isDisconnect {result : MisbehaveResult}
    (continued : ¬ result.isDisconnect = true) : result = .continue := by
  cases result
  · rfl
  · exact absurd rfl continued

/-- `trait Callback`: the hooks the protocol calls, each of which may change
the callback's own state. -/
class Callback (T : Type) where
  receivedIdentify : T → SessionContext → Bytes → T × MisbehaveResult
  identify : T → T × Bytes
  localListenAddrs : T → T × List Multiaddr
  addRemoteListenAddrs : T → PeerId → List Multiaddr → T
  addObservedAddr : T → PeerId → Multiaddr → SessionType → T × MisbehaveResult
  misbehave : T → PeerId → Misbehavior → T × MisbehaveResult

/-! ## Messages -/

/-- `protocol::IdentifyMessage`. -/
structure IdentifyMessage where
  listenAddrs : List Multiaddr
  observedAddr : Multiaddr
  identify : Bytes
deriving DecidableEq, Repr

/-- The envelope codec of `protocol.rs`, which is not under `src/`:
`IdentifyMessage::encode` and `IdentifyMessage::decode`. -/
structure MessageCodec where
  encode : IdentifyMessage → Bytes
  decode : Bytes → Option IdentifyMessage

/-! ## State -/

/-- `struct RemoteInfo`: the handshake state of one session. -/
structure RemoteInfo where
  peerId : PeerId
  session : SessionContext
  connectedAt : Instant
  timeout : Duration
  listenAddrs : Option (List Multiaddr)
  observedAddr : Option Multiaddr
deriving DecidableEq, Repr

/-- `RemoteInfo::new`, connected at `now`; `none` where `expect("secio must
enabled!")` panics. -/
def RemoteInfo.new (session : SessionContext) (timeout : Duration) (now : Instant) :
    Option RemoteInfo :=
  session.remotePubkey.map fun key => ⟨PeerId.fromPublicKey key, session, now, timeout, none, none⟩

/-- The test of `notify`: an address is still missing and the deadline has passed. -/
def RemoteInfo.timedOut (info : RemoteInfo) (now : Instant) : Bool :=
  (info.listenAddrs.isNone || info.observedAddr.isNone) && info.connectedAt + info.timeout ≤ now

/-- `HashMap<SessionId, RemoteInfo>`. Its iteration order is unspecified; the
model iterates the association list in order. -/
abbrev RemoteInfos := AList fun _ : SessionId => RemoteInfo

/-- `struct IdentifyProtocol<T>`. -/
structure IdentifyProtocol (T : Type) where
  callback : T
  remoteInfos : RemoteInfos
  secioEnabled : Bool
  globalIpOnly : Bool

/-- `IdentifyProtocol::new`. -/
def IdentifyProtocol.new {T : Type} (callback : T) : IdentifyProtocol T :=
  ⟨callback, ∅, true, true⟩

/-- What the protocol does: a call into the callback or a request on the
session context, made on behalf of a session. -/
inductive Action where
  | receivedIdentify (session : SessionId) (identify : Bytes)
  | addRemoteListenAddrs (session : SessionId) (peer : PeerId) (addrs : List Multiaddr)
  | addObservedAddr (session : SessionId) (peer : PeerId) (addr : Multiaddr) (ty : SessionType)
  | misbehave (session : SessionId) (peer : PeerId) (kind : Misbehavior)
  | disconnect (session : SessionId)
  | quickSendMessage (session : SessionId) (data : Bytes)
deriving DecidableEq, Repr

/-- The session an action is made on behalf of. -/
def Action.session : Action → SessionId
  | .receivedIdentify session _ => session
  | .addRemoteListenAddrs session _ _ => session
  | .addObservedAddr session _ _ _ => session
  | .misbehave session _ _ => session
  | .disconnect session => session
  | .quickSendMessage session _ => session

/-- `context.disconnect(session)` exactly when a report says so. -/
def disconnectIf (result : MisbehaveResult) (session : SessionId) : List Action :=
  if result.isDisconnect then [.disconnect session] else []

/-! ## Handlers -/

section Handlers

variable {T : Type} [Callback T] (utils : P2pUtils) (codec : MessageCodec)

/-- A step of a handler: the new state, its actions and the result it reports. -/
abbrev Stage (T : Type) := IdentifyProtocol T × List Action × MisbehaveResult

/-- `self.callback.misbehave(&info.peer_id, kind)`, on behalf of a session. -/
def IdentifyProtocol.report (self : IdentifyProtocol T) (session : SessionId) (peer : PeerId)
    (kind : Misbehavior) : Stage T :=
  let (callback, result) := Callback.misbehave self.callback peer kind
  ({ self with callback }, [.misbehave session peer kind], result)

/-- `first.is_disconnect() || next.is_disconnect()`: the next stage runs only
after a `Continue`, and its actions follow the earlier ones. -/
def Stage.andThen (first : Option (Stage T)) (next : IdentifyProtocol T → Option (Stage T)) :
    Option (Stage T) :=
  match first with
  | none => none
  | some (self, actions, .disconnect) => some (self, actions, .disconnect)
  | some (self, actions, .continue) =>
      (next self).map fun (self', actions', result) => (self', actions ++ actions', result)

/-- `IdentifyProtocol::process_listens`. -/
def IdentifyProtocol.processListens (self : IdentifyProtocol T) (session : SessionContext)
    (listens : List Multiaddr) : Option (Stage T) := do
  let info ← self.remoteInfos.lookup session.id
  if info.listenAddrs.isSome then some (self.report session.id info.peerId .duplicateListenAddrs)
  else if listens.length > maxAddrs then
    some (self.report session.id info.peerId (.tooManyAddresses listens.length))
  else
    let reachableAddrs := listens.filter (utils.reachableAddr self.globalIpOnly)
    let callback := Callback.addRemoteListenAddrs self.callback info.peerId reachableAddrs
    some ({ self with
        callback
        remoteInfos :=
          self.remoteInfos.replace session.id { info with listenAddrs := some reachableAddrs } },
      [.addRemoteListenAddrs session.id info.peerId reachableAddrs], .continue)

/-- `IdentifyProtocol::process_observed`. The hook runs only for a reachable
address (`&&`); a `Disconnect` from it returns before the address is stored. -/
def IdentifyProtocol.processObserved (self : IdentifyProtocol T) (session : SessionContext)
    (observed : Multiaddr) : Option (Stage T) := do
  let info ← self.remoteInfos.lookup session.id
  if info.observedAddr.isSome then some (self.report session.id info.peerId .duplicateObservedAddr)
  else
    let stored := self.remoteInfos.replace session.id { info with observedAddr := some observed }
    if ((utils.multiaddrToSocketaddr observed).map (·.ip) |>.filter
        fun ip => !self.globalIpOnly || utils.isReachable ip).isSome then
      let (callback, result) :=
        Callback.addObservedAddr self.callback info.peerId observed info.session.ty
      let actions := [.addObservedAddr session.id info.peerId observed info.session.ty]
      if result.isDisconnect then some ({ self with callback }, actions, .disconnect)
      else some ({ self with callback, remoteInfos := stored }, actions, .continue)
    else some ({ self with remoteInfos := stored }, [], .continue)

/-- What `connected` sends: the local listen addresses that pass the address
filter, at most `MAX_ADDRS` of them, the session's address without its `P2P`
components, and the callback's identify payload. Returns the callback's state
after the two calls. -/
def IdentifyProtocol.identifyMessage (self : IdentifyProtocol T) (session : SessionContext) :
    T × IdentifyMessage :=
  let (callback, localAddrs) := Callback.localListenAddrs self.callback
  let listenAddrs := (localAddrs.filter (utils.reachableAddr self.globalIpOnly)).take maxAddrs
  let observedAddr := session.address.filter fun proto => !proto.isP2p
  let (callback, identify) := Callback.identify callback
  (callback, ⟨listenAddrs, observedAddr, identify⟩)

/-- `ServiceProtocol::connected`, at time `now`. A session without a public key
is disconnected and turns the protocol off for every session. -/
def IdentifyProtocol.connected (self : IdentifyProtocol T) (session : SessionContext)
    (now : Instant) : Option (IdentifyProtocol T × List Action) :=
  if session.remotePubkey.isNone then
    some ({ self with secioEnabled := false }, [.disconnect session.id])
  else do
    let remoteInfo ← RemoteInfo.new session (Duration.fromSecs defaultTimeout) now
    let (callback, message) := self.identifyMessage utils session
    some ({ self with callback, remoteInfos := self.remoteInfos.insert session.id remoteInfo },
      [.quickSendMessage session.id (codec.encode message)])

/-- `ServiceProtocol::disconnected`. -/
def IdentifyProtocol.disconnected (self : IdentifyProtocol T) (session : SessionContext) :
    Option (IdentifyProtocol T) :=
  if self.secioEnabled then do
    let _info ← self.remoteInfos.lookup session.id
    some { self with remoteInfos := self.remoteInfos.erase session.id }
  else some self

/-- `self.callback.received_identify(&mut context, identify)`. -/
def IdentifyProtocol.receivedIdentify (self : IdentifyProtocol T) (session : SessionContext)
    (identify : Bytes) : Stage T :=
  let (callback, result) := Callback.receivedIdentify self.callback session identify
  ({ self with callback }, [.receivedIdentify session.id identify], result)

/-- The stages of a decoded message in order, each only after a `Continue`:
"Need to interrupt processing, avoid pollution". -/
def IdentifyProtocol.processMessage (self : IdentifyProtocol T) (session : SessionContext)
    (message : IdentifyMessage) : Option (Stage T) :=
  Stage.andThen
    (Stage.andThen (some (self.receivedIdentify session message.identify))
      (·.processListens utils session message.listenAddrs))
    (·.processObserved utils session message.observedAddr)

/-- `ServiceProtocol::received`. -/
def IdentifyProtocol.received (self : IdentifyProtocol T) (session : SessionContext)
    (data : Bytes) : Option (IdentifyProtocol T × List Action) :=
  if !self.secioEnabled then some (self, [])
  else
    match codec.decode data with
    | some message =>
        (self.processMessage utils session message).map fun (self, actions, result) =>
          (self, actions ++ disconnectIf result session.id)
    | none =>
        (self.remoteInfos.lookup session.id).map fun info =>
          let (self, actions, result) := self.report session.id info.peerId .invalidData
          (self, actions ++ disconnectIf result session.id)

/-- The loop of `notify`: report every entry still waiting for an address once
its deadline has passed. -/
def IdentifyProtocol.checkTimeouts (now : Instant) :
    IdentifyProtocol T → List (Sigma fun _ : SessionId => RemoteInfo) → IdentifyProtocol T × List Action
  | self, [] => (self, [])
  | self, ⟨sessionId, info⟩ :: rest =>
      if info.timedOut now then
        let (self, actions, result) := self.report sessionId info.peerId .timeout
        let (self, later) := self.checkTimeouts now rest
        (self, actions ++ disconnectIf result sessionId ++ later)
      else self.checkTimeouts now rest

/-- `ServiceProtocol::notify`, the timeout tick at time `now`. -/
def IdentifyProtocol.notify (self : IdentifyProtocol T) (now : Instant) :
    IdentifyProtocol T × List Action :=
  if !self.secioEnabled then (self, [])
  else self.checkTimeouts now self.remoteInfos.entries

end Handlers

/-! ## Runs -/

/-- What the transport delivers to the protocol. -/
inductive Event where
  | connected (session : SessionContext) (now : Instant)
  | received (session : SessionContext) (data : Bytes)
  | notify (now : Instant)
  | disconnected (session : SessionContext)
deriving DecidableEq, Repr

section Runs

variable {T : Type} [Callback T] (utils : P2pUtils) (codec : MessageCodec)

/-- One event handled; `none` where a handler panics. -/
def IdentifyProtocol.step (self : IdentifyProtocol T) : Event → Option (IdentifyProtocol T × List Action)
  | .connected session now => self.connected utils codec session now
  | .received session data => self.received utils codec session data
  | .notify now => some (self.notify now)
  | .disconnected session => (self.disconnected session).map fun self => (self, [])

/-- Events handled in order, with all their actions; `none` once one panics. -/
def IdentifyProtocol.run (self : IdentifyProtocol T) :
    List Event → Option (IdentifyProtocol T × List Action)
  | [] => some (self, [])
  | event :: rest => do
      let (self, actions) ← self.step utils codec event
      let (self, later) ← self.run rest
      some (self, actions ++ later)

end Runs

end Ckb.Network
