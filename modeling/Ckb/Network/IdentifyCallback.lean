import Ckb.Network.Isolation
import Ckb.Network.Payload

/-!
# The node's callback

`IdentifyCallback`, the `Callback` the node plugs into the identify protocol.
It verifies a peer's identity payload, opens the node's other protocols on an
outbound session, and passes addresses on to the node's `NetworkState`.

`NetworkState` is not under `src/`. The model keeps what the callback does to
it, a log of its writes in order, and lets each of its queries answer with any
function of the writes made before: every result here holds for every such
store.
-/

set_option autoImplicit false

namespace Ckb.Network

open Ckb.Packed

/-! ## The node's state -/

/-- `ProtocolId`. -/
abbrev ProtocolId := Nat

/-- `TargetProtocol`: the protocols `open_protocols` asks for. -/
inductive TargetProtocol where
  | single (id : ProtocolId)
  | multi (ids : List ProtocolId)
deriving DecidableEq, Repr

/-- A write of the callback to the node's state, or a request on the session's
control, in the order the callback makes them. -/
inductive NetworkOp where
  /-- `network_state.ban_session(control, session, duration, reason)`. -/
  | banSession (session : SessionId) (duration : Duration) (reason : String)
  /-- `context.open_protocols(session, target)`. -/
  | openProtocols (session : SessionId) (target : TargetProtocol)
  /-- `peer.identify_info = Some(PeerIdentifyInfo { client_version })` in the peer registry. -/
  | setIdentifyInfo (session : SessionId) (clientVersion : RustString)
  /-- `peer.listened_addrs = addrs` in the peer registry. -/
  | setListenedAddrs (peer : PeerId) (addrs : List Multiaddr)
  /-- `peer_store.add_addr(peer, addr)`. -/
  | addAddr (peer : PeerId) (addr : Multiaddr)
  /-- `network_state.add_observed_addrs(addrs)`. -/
  | addObservedAddrs (addrs : List Multiaddr)
deriving DecidableEq

/-- How the node's state answers the callback's queries after a history of
writes. -/
structure NetworkQueries where
  /-- `network_state.public_addrs(count)`: addresses with their scores. -/
  publicAddrs : List NetworkOp → Nat → List (Multiaddr × Nat)
  /-- `registry.is_feeler(peer)`. -/
  isFeeler : List NetworkOp → PeerId → Bool
  /-- The node's protocols, of which `get_protocol_ids` keeps those its filter passes. -/
  protocolIds : List NetworkOp → List ProtocolId
  /-- `FEELER_PROTOCOL_ID`, of `crate::network`. -/
  feelerProtocolId : ProtocolId

/-- `NetworkState`, as the callback sees it. -/
structure NetworkState where
  queries : NetworkQueries
  log : List NetworkOp

namespace NetworkState

/-- One more write. -/
def record (state : NetworkState) (op : NetworkOp) : NetworkState :=
  { state with log := state.log ++ [op] }

/-- `public_addrs(count)`. -/
def publicAddrs (state : NetworkState) (count : Nat) : List (Multiaddr × Nat) :=
  state.queries.publicAddrs state.log count

/-- `with_peer_registry(|reg| reg.is_feeler(peer))`. -/
def isFeeler (state : NetworkState) (peer : PeerId) : Bool :=
  state.queries.isFeeler state.log peer

/-- `get_protocol_ids(keep)`. -/
def getProtocolIds (state : NetworkState) (keep : ProtocolId → Bool) : List ProtocolId :=
  (state.queries.protocolIds state.log).filter keep

@[simp] theorem record_queries (state : NetworkState) (op : NetworkOp) :
    (state.record op).queries = state.queries := rfl

@[simp] theorem record_log (state : NetworkState) (op : NetworkOp) :
    (state.record op).log = state.log ++ [op] := rfl

end NetworkState

/-! ## The callback -/

/-- `BAN_ON_NOT_SAME_NET`, in seconds. -/
def banOnNotSameNet : Nat := 5 * 60

/-- `MAX_RETURN_LISTEN_ADDRS`. -/
def maxReturnListenAddrs : Nat := 10

/-- The reason given for the ban of a peer on another network. -/
def notSameNetwork : String := "The nodes are not on the same network"

/-- `struct IdentifyCallback`. `utils` are the address utilities of `p2p::utils`
that `add_observed_addr` calls. -/
structure IdentifyCallback where
  networkState : NetworkState
  identify : Identify
  utils : P2pUtils

namespace IdentifyCallback

/-- `IdentifyCallback::new`: a full node's identity. -/
def new (networkState : NetworkState) (name clientVersion : RustString) (utils : P2pUtils) :
    IdentifyCallback :=
  ⟨networkState, Identify.new name (Flags.ofFlag .fullNode) clientVersion, utils⟩

/-- One more write to the node's state. -/
def record (self : IdentifyCallback) (op : NetworkOp) : IdentifyCallback :=
  { self with networkState := self.networkState.record op }

/-- `IdentifyCallback::listen_addrs`: twice the cap of public addresses, sorted
by score (a stable sort), the first `MAX_RETURN_LISTEN_ADDRS` of them. -/
def listenAddrs (self : IdentifyCallback) : List Multiaddr :=
  (((self.networkState.publicAddrs (maxReturnListenAddrs * 2)).mergeSort fun a b => a.2 ≤ b.2).take
    maxReturnListenAddrs).map (·.1)

/-- `Callback::received_identify`; `none` where `expect("Secio must enabled")`
panics, on an outbound session without a key. -/
def receivedIdentify (self : IdentifyCallback) (session : SessionContext) (identify : Bytes) :
    Option (IdentifyCallback × MisbehaveResult) :=
  match self.identify.verify identify with
  | none =>
      some (self.record (.banSession session.id (Duration.fromSecs banOnNotSameNet) notSameNetwork),
        .disconnect)
  | some (flags, clientVersion) =>
      if session.ty.isOutbound then do
        let peerId ← session.remotePubkey.map PeerId.fromPublicKey
        if self.networkState.isFeeler peerId then
          some (self.record (.openProtocols session.id
            (.single self.networkState.queries.feelerProtocolId)), .continue)
        else if flags.contains self.identify.flags then
          let self := self.record (.setIdentifyInfo session.id clientVersion)
          let protos := self.networkState.getProtocolIds (· != self.networkState.queries.feelerProtocolId)
          some (self.record (.openProtocols session.id (.multi protos)), .continue)
        else some (self, .disconnect)
      else some (self.record (.setIdentifyInfo session.id clientVersion), .continue)

/-- `Callback::add_remote_listen_addrs`: the registry's listened addresses of
the peer, then each address into the peer store. -/
def addRemoteListenAddrs (self : IdentifyCallback) (peerId : PeerId) (addrs : List Multiaddr) :
    IdentifyCallback :=
  addrs.foldl (fun self addr => self.record (.addAddr peerId addr))
    (self.record (.setListenedAddrs peerId addrs))

/-- The observed address `addr` with the port of the local socket address
`socketAddr`: `P2P` components dropped, each `TCP` port replaced. -/
def observedCandidate (addr : Multiaddr) (socketAddr : SocketAddr) : Multiaddr :=
  addr.filterMap fun
    | .p2p _ => none
    | .tcp _ => some (.tcp socketAddr.port)
    | value => some value

/-- `Callback::add_observed_addr`. -/
def addObservedAddr (self : IdentifyCallback) (_peerId : PeerId) (addr : Multiaddr) (ty : SessionType) :
    IdentifyCallback × MisbehaveResult :=
  if ty.isInbound then (self, .continue)
  else if !((self.utils.multiaddrToSocketaddr addr).map fun socketAddr =>
      self.utils.isReachable socketAddr.ip).getD false then (self, .continue)
  else
    let observedAddrs := (self.listenAddrs.filterMap self.utils.multiaddrToSocketaddr).map
      (observedCandidate addr)
    (self.record (.addObservedAddrs observedAddrs), .continue)

end IdentifyCallback

/-- `impl Callback for IdentifyCallback`. `received_identify` falls back to
`Disconnect` where the source panics; the protocol never gets there, as it
calls the hook only on sessions that connected with a key. -/
instance : Callback IdentifyCallback where
  receivedIdentify self session identify := (self.receivedIdentify session identify).getD (self, .disconnect)
  identify self :=
    let (identify, data) := self.identify.encode
    ({ self with identify }, data)
  localListenAddrs self := (self, self.listenAddrs)
  addRemoteListenAddrs := IdentifyCallback.addRemoteListenAddrs
  addObservedAddr := IdentifyCallback.addObservedAddr
  misbehave self _ _ := (self, .disconnect)

/-! ## What the callback keeps and answers -/

namespace IdentifyCallback

/-- The identity the callback announces: network name, flags and client version. -/
def identity (self : IdentifyCallback) : RustString × Flags × RustString :=
  (self.identify.name, self.identify.flags, self.identify.clientVersion)

@[simp] theorem record_identify (self : IdentifyCallback) (op : NetworkOp) :
    (self.record op).identify = self.identify := rfl

@[simp] theorem record_networkState (self : IdentifyCallback) (op : NetworkOp) :
    (self.record op).networkState = self.networkState.record op := rfl

theorem foldl_record_identify (self : IdentifyCallback) (write : Multiaddr → NetworkOp) :
    ∀ addrs : List Multiaddr, (addrs.foldl (fun self addr => self.record (write addr)) self).identify = self.identify
  | [] => rfl
  | addr :: rest => (foldl_record_identify (self.record (write addr)) write rest).trans rfl

theorem receivedIdentify_identify {self next : IdentifyCallback} {session : SessionContext} {identify : Bytes}
    {result : MisbehaveResult} (answered : self.receivedIdentify session identify = some (next, result)) :
    next.identify = self.identify := by
  unfold receivedIdentify at answered
  split at answered
  · cases answered; rfl
  · by_cases outbound : session.ty.isOutbound
    · cases keyed : session.remotePubkey with
      | none => simp [keyed, outbound] at answered
      | some key =>
          simp only [keyed, outbound, if_true, Option.map_some', Option.bind_eq_bind, Option.some_bind] at answered
          split_ifs at answered <;> cases answered <;> rfl
    · simp only [outbound, Bool.false_eq_true, if_false, Option.some.injEq] at answered
      cases answered; rfl

/-- `received_identify` accepts a payload that verifies, from an inbound
session, or from a keyed session whose peer has every flag the node has. -/
theorem receivedIdentify_continue {self : IdentifyCallback} {session : SessionContext} {identify : Bytes}
    {flags : Flags} {clientVersion : RustString}
    (verified : self.identify.verify identify = some (flags, clientVersion))
    (accepted : session.ty = .inbound ∨ session.remotePubkey.isSome ∧ flags.contains self.identify.flags) :
    ∃ next, self.receivedIdentify session identify = some (next, .continue) := by
  unfold receivedIdentify
  rw [verified]
  rcases accepted with inbound | ⟨keyed, contains⟩
  · simp [inbound, SessionType.isOutbound]
  · obtain ⟨key, keyed⟩ := Option.isSome_iff_exists.mp keyed
    simp only [keyed, Option.map_some', Option.bind_eq_bind, Option.some_bind, contains, if_true]
    split_ifs <;> exact ⟨_, rfl⟩

theorem receivedIdentify_rejected {self : IdentifyCallback} {session : SessionContext} {identify : Bytes}
    (refused : self.identify.verify identify = none) :
    (Callback.receivedIdentify self session identify).2 = .disconnect := by
  show ((self.receivedIdentify session identify).getD (self, .disconnect)).2 = .disconnect
  unfold receivedIdentify
  rw [refused]
  rfl

theorem addObservedAddr_identify (self : IdentifyCallback) (peerId : PeerId) (addr : Multiaddr)
    (ty : SessionType) : (self.addObservedAddr peerId addr ty).1.identify = self.identify := by
  unfold addObservedAddr
  split_ifs <;> rfl

theorem addObservedAddr_continue (self : IdentifyCallback) (peerId : PeerId) (addr : Multiaddr)
    (ty : SessionType) : (self.addObservedAddr peerId addr ty).2 = .continue := by
  unfold addObservedAddr
  split_ifs <;> rfl

theorem preserves_identity (announced : RustString × Flags × RustString) :
    Callback.Preserves fun self : IdentifyCallback => self.identity = announced := by
  refine ⟨fun self session identify same => ?_, fun self same => ?_, fun self same => same,
    fun self peerId addrs same => ?_, fun self peerId addr ty same => ?_, fun self _ _ same => same⟩
  · show ((self.receivedIdentify session identify).getD (self, .disconnect)).1.identity = announced
    cases answered : self.receivedIdentify session identify with
    | none => exact same
    | some result => rw [← same]; simp [identity, receivedIdentify_identify answered]
  · rw [← same]
    simp [Callback.identify, identity]
  · rw [← same]
    simp [Callback.addRemoteListenAddrs, addRemoteListenAddrs, identity, foldl_record_identify]
  · rw [← same]
    simp [Callback.addObservedAddr, identity, addObservedAddr_identify]

end IdentifyCallback

end Ckb.Network
