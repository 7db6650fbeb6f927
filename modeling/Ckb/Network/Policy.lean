import Ckb.Network.Peers

/-!
# What the node's callback decides

`IdentifyCallback::received_identify` decides what a verified identity opens
on its session: the feeler protocol for a feeler, every other protocol for a
peer with all the node's flags, nothing for an inbound session. A payload that
does not verify bans the peer. `add_observed_addr` turns the address a peer
saw into one candidate per local listen address. `misbehave` answers every
report `Disconnect`, so the protocol disconnects every peer it reports.
-/

set_option autoImplicit false

namespace Ckb.Network

open Ckb.Packed

/-! ## Protocol gating -/

namespace IdentifyCallback

variable (self : IdentifyCallback) (session : SessionContext) (identify : Bytes)

/-- Each branch of `received_identify`, with the exact writes it makes: a ban on
a payload that does not verify; on a verified one, the client version on an
inbound session; the feeler protocol for a feeler; the version and every
non-feeler protocol for a peer that has every flag bit the node has; and a
disconnect, with no write, for the rest. The protocol calls the hook only for
sessions with a key, so the outbound branches, which panic without one, always
decide. -/
theorem received_identify_gating :
    (∀ (utils : P2pUtils) (codec : MessageCodec) (events : List Event) (lifecycle : Lifecycle)
        (protocol protocol' : IdentifyProtocol IdentifyCallback) (actions actions' : List Action) data,
      Lifecycle.closed.run events = some lifecycle →
      (IdentifyProtocol.new self).run utils codec events = some (protocol, actions) →
      lifecycle.live session.id = some session →
      protocol.received utils codec session data = some (protocol', actions') →
      Action.receivedIdentify session.id identify ∈ actions' → session.remotePubkey.isSome) ∧
    (self.identify.verify identify = none →
      self.receivedIdentify session identify =
        some (self.record (.banSession session.id (Duration.fromSecs banOnNotSameNet) notSameNetwork),
          .disconnect)) ∧
    ∀ flags clientVersion, self.identify.verify identify = some (flags, clientVersion) →
      (session.ty = .inbound →
        self.receivedIdentify session identify =
          some (self.record (.setIdentifyInfo session.id clientVersion), .continue)) ∧
      ∀ key, session.ty = .outbound → session.remotePubkey = some key →
        (self.networkState.isFeeler (PeerId.fromPublicKey key) = true →
          self.receivedIdentify session identify =
            some (self.record (.openProtocols session.id (.single self.networkState.queries.feelerProtocolId)),
              .continue)) ∧
        (self.networkState.isFeeler (PeerId.fromPublicKey key) = false →
          (∀ i, self.identify.flags.bits.toNat.testBit i = true → flags.bits.toNat.testBit i = true) →
          self.receivedIdentify session identify =
            some ((self.record (.setIdentifyInfo session.id clientVersion)).record (.openProtocols session.id
              (.multi ((self.networkState.record (.setIdentifyInfo session.id clientVersion)).getProtocolIds
                (· != self.networkState.queries.feelerProtocolId)))), .continue)) ∧
        (self.networkState.isFeeler (PeerId.fromPublicKey key) = false →
          ¬ (∀ i, self.identify.flags.bits.toNat.testBit i = true → flags.bits.toNat.testBit i = true) →
          self.receivedIdentify session identify = some (self, .disconnect)) := by
  refine ⟨fun utils codec _ _ _ _ _ _ _ admissible ran open_ received called =>
    IdentifyProtocol.receivedIdentify_keyed utils codec self admissible ran open_ received called,
    fun refused => by rw [receivedIdentify, refused], fun flags clientVersion verified =>
    ⟨fun inbound => ?_, fun key outbound keyed => ⟨fun feeler => ?_,
      fun notFeeler covered => ?_, fun notFeeler uncovered => ?_⟩⟩⟩
  all_goals simp only [receivedIdentify, verified, SessionType.isOutbound, Option.map_some', Option.map_none',
    Option.bind_eq_bind, Option.some_bind, Option.none_bind, if_true, if_false, Bool.false_eq_true, *]
  · rw [if_pos ((Flags.contains_iff _ _).mpr covered)]; rfl
  · rw [if_neg (mt (Flags.contains_iff _ _).mp uncovered)]

end IdentifyCallback

/-! ## Observed-address synthesis -/

/-- A component with its TCP port, if it has one, set to `port`. -/
def Protocol.withTcpPort (port : UInt16) : Protocol → Protocol
  | .tcp _ => .tcp port
  | component => component

namespace IdentifyCallback

/-- A candidate is the observed address without its `P2P` components, every TCP
port set to the local one, everything else kept in order. -/
theorem observedCandidate_eq (addr : Multiaddr) (socketAddr : SocketAddr) :
    observedCandidate addr socketAddr = (addr.filter (!·.isP2p)).map (Protocol.withTcpPort socketAddr.port) := by
  induction addr with
  | nil => rfl
  | cons component rest ih =>
      unfold observedCandidate at ih ⊢
      cases component <;> simp [List.filter_cons, Protocol.isP2p, Protocol.withTcpPort, ih]

theorem observedCandidate_not_p2p {addr : Multiaddr} {socketAddr : SocketAddr} {component : Protocol}
    (mem : component ∈ observedCandidate addr socketAddr) : component.isP2p = false := by
  rw [observedCandidate_eq, List.mem_map] at mem
  obtain ⟨original, kept, rfl⟩ := mem
  cases original <;> simp_all [Protocol.withTcpPort, Protocol.isP2p]

/-- An observed address that names a socket gives candidates that name the same
host with the local port. -/
theorem multiaddrToSocketaddr_observedCandidate {addr : Multiaddr} {observed : SocketAddr}
    (socketAddr : SocketAddr) (named : multiaddrToSocketaddr addr = some observed) :
    multiaddrToSocketaddr (observedCandidate addr socketAddr) = some ⟨observed.ip, socketAddr.port⟩ := by
  match addr, named with
  | .ip4 _ :: .tcp _ :: _, named => cases named; rfl
  | .ip6 _ :: .tcp _ :: _, named => cases named; rfl

/-- One candidate per listen address that names a socket, in order. -/
theorem forall₂_candidates (resolve : Multiaddr → Option SocketAddr) (addr : Multiaddr) :
    ∀ listenAddrs : List Multiaddr, List.Forall₂
      (fun listenAddr candidate => ∃ socketAddr, resolve listenAddr = some socketAddr ∧
        candidate = observedCandidate addr socketAddr)
      (listenAddrs.filter fun listenAddr => (resolve listenAddr).isSome)
      ((listenAddrs.filterMap resolve).map (observedCandidate addr))
  | [] => .nil
  | listenAddr :: rest => by
      cases resolved : resolve listenAddr with
      | none => simpa [List.filter_cons, resolved] using forall₂_candidates resolve addr rest
      | some socketAddr =>
          simpa [List.filter_cons, resolved] using
            List.Forall₂.cons ⟨socketAddr, resolved, rfl⟩ (forall₂_candidates resolve addr rest)

/-- The test `add_observed_addr` makes of the observed address is the address
filter with `global_ip_only` set. -/
theorem observed_reachable (utils : P2pUtils) (addr : Multiaddr) :
    ((utils.multiaddrToSocketaddr addr).map fun socketAddr => utils.isReachable socketAddr.ip).getD false =
      utils.reachableAddr true addr := by
  unfold P2pUtils.reachableAddr
  cases utils.multiaddrToSocketaddr addr <;> rfl

/-- `candidate` is the candidate for the local listen address `listenAddr`: the
listen address names a socket, and the candidate is the observed address `addr`
without its `P2P` components and with that socket's port on every TCP
component, so that it has no `P2P` component and names the observed host at the
local port. -/
def IsCandidate (utils : P2pUtils) (addr listenAddr candidate : Multiaddr) : Prop :=
  ∃ socketAddr, utils.multiaddrToSocketaddr listenAddr = some socketAddr ∧
    candidate = (addr.filter (!·.isP2p)).map (Protocol.withTcpPort socketAddr.port) ∧
    (∀ component ∈ candidate, component.isP2p = false) ∧
    ∀ observed, multiaddrToSocketaddr addr = some observed →
      multiaddrToSocketaddr candidate = some ⟨observed.ip, socketAddr.port⟩

/-- `add_observed_addr` always continues. It writes nothing for an inbound
session or an observed address with no reachable socket. Otherwise it passes
one candidate per local listen address that names a socket, in order. -/
theorem add_observed_addr_synthesis (self : IdentifyCallback) (peerId : PeerId) (addr : Multiaddr)
    (ty : SessionType) :
    (self.addObservedAddr peerId addr ty).2 = .continue ∧
    (ty = .inbound ∨ ¬ self.utils.Reachable addr → (self.addObservedAddr peerId addr ty).1 = self) ∧
    (ty = .outbound → self.utils.Reachable addr → ∃ candidates,
      (self.addObservedAddr peerId addr ty).1 = self.record (.addObservedAddrs candidates) ∧
      List.Forall₂ (IsCandidate self.utils addr)
        (self.listenAddrs.filter fun listenAddr => (self.utils.multiaddrToSocketaddr listenAddr).isSome)
        candidates) := by
  have reachableIff := self.utils.reachableAddr_true_iff addr
  refine ⟨addObservedAddr_continue self peerId addr ty, fun skipped => ?_, fun outbound reachable => ?_⟩
  · unfold addObservedAddr
    rw [observed_reachable]
    split_ifs with inbound passes
    · rfl
    · rfl
    · rcases skipped with rfl | unreachable
      · cases inbound rfl
      · exact absurd (reachableIff.mp (by simpa using passes)) unreachable
  · refine ⟨_, ?_, (forall₂_candidates _ addr self.listenAddrs).imp fun {listenAddr candidate} found => ?_⟩
    · unfold addObservedAddr
      rw [observed_reachable, outbound, reachableIff.mpr reachable]
      rfl
    · obtain ⟨socketAddr, resolved, rfl⟩ := found
      exact ⟨socketAddr, resolved, observedCandidate_eq addr socketAddr, fun _ => observedCandidate_not_p2p,
        fun _ => multiaddrToSocketaddr_observedCandidate socketAddr⟩

end IdentifyCallback

/-- The `p2p` crate's socket reading, with every IP reachable. -/
def openUtils : P2pUtils := ⟨multiaddrToSocketaddr, fun _ => true⟩

/-- A full node of the network `ckb` listening on `1.2.3.4:8114`. -/
def listeningCallback : IdentifyCallback :=
  IdentifyCallback.new ⟨⟨fun _ _ => [([.ip4 0x01020304, .tcp 8114], 0)], fun _ _ => false, fun _ => [], 0⟩, []⟩
    ckbName ⟨[], rfl⟩ openUtils

/-- What a peer saw of the node: `5.6.7.8:40000`, with the peer's id. -/
def seenAddr : Multiaddr := [.ip4 0x05060708, .tcp 40000, .p2p [7]]

theorem add_observed_addr_synthesis_seen :
    openUtils.Reachable seenAddr ∧ ∃ candidates,
      (listeningCallback.addObservedAddr ⟨[7]⟩ seenAddr .outbound).1 =
        listeningCallback.record (.addObservedAddrs candidates) ∧
      List.Forall₂ (IdentifyCallback.IsCandidate openUtils seenAddr)
        (listeningCallback.listenAddrs.filter fun listenAddr => (openUtils.multiaddrToSocketaddr listenAddr).isSome)
        candidates :=
  have reachable : openUtils.Reachable seenAddr := ⟨_, rfl, rfl⟩
  ⟨reachable, (IdentifyCallback.add_observed_addr_synthesis listeningCallback ⟨[7]⟩ seenAddr .outbound).2.2 rfl
    reachable⟩

/-- The one candidate is `5.6.7.8:8114`. -/
example : (listeningCallback.addObservedAddr ⟨[7]⟩ seenAddr .outbound).1.networkState.log =
    [.addObservedAddrs [[.ip4 0x05060708, .tcp 8114]]] := by
  simp [IdentifyCallback.addObservedAddr, IdentifyCallback.listenAddrs, listeningCallback, IdentifyCallback.new,
    NetworkState.publicAddrs, seenAddr, openUtils, multiaddrToSocketaddr, IdentifyCallback.observedCandidate,
    SessionType.isInbound, IdentifyCallback.record, NetworkState.record, maxReturnListenAddrs]

/-! ## Every report disconnects -/

/-- A stage that reports misbehaviour ends in `Disconnect`. -/
def ReportsDisconnect {T : Type} (stage : Stage T) : Prop :=
  ∀ sessionId peer kind, Action.misbehave sessionId peer kind ∈ stage.2.1 → stage.2.2 = .disconnect

/-- Each report in `actions` is followed by the disconnect of its session. -/
def DisconnectsReported (actions : List Action) : Prop :=
  ∀ pre sessionId peer kind post, actions = pre ++ .misbehave sessionId peer kind :: post →
    Action.disconnect sessionId ∈ post

theorem mem_post_of_eq_concat {α : Type} {pre post body : List α} {a b : α}
    (split : pre ++ a :: post = body ++ [b]) (differs : a ≠ b) : b ∈ post := by
  rcases List.eq_nil_or_concat post with rfl | ⟨init, final, rfl⟩
  · exact absurd (List.append_inj' split rfl).2 (by simpa using differs)
  · rw [List.concat_eq_append, ← List.cons_append, ← List.append_assoc] at split
    rw [← List.singleton_inj.mp (List.append_inj' split rfl).2, List.concat_eq_append]
    exact List.mem_append_right _ (List.mem_singleton_self _)

/-- Actions that end with the disconnect of the session of every report in them. -/
theorem DisconnectsReported.of_last {actions : List Action}
    (last : ∀ sessionId peer kind, Action.misbehave sessionId peer kind ∈ actions →
      ∃ body, actions = body ++ [.disconnect sessionId]) : DisconnectsReported actions := by
  intro pre sessionId peer kind post split
  obtain ⟨body, ends⟩ := last sessionId peer kind (split ▸ List.mem_append_right pre (List.mem_cons_self _ _))
  exact mem_post_of_eq_concat (split.symm.trans ends) nofun

theorem DisconnectsReported.report_disconnect {sessionId : SessionId} {peer : PeerId} {kind : Misbehavior}
    {later : List Action} (reported : DisconnectsReported later) :
    DisconnectsReported (.misbehave sessionId peer kind :: .disconnect sessionId :: later) := by
  intro pre sessionId' peer' kind' post split
  match pre, split with
  | [], split => cases split; exact List.mem_cons_self _ _
  | [_], split => cases split
  | _ :: _ :: pre, split =>
      cases split
      exact reported pre sessionId' peer' kind' post rfl

section Strict

variable {T : Type} [Callback T] (utils : P2pUtils) (codec : MessageCodec)
variable (strict : ∀ (callback : T) peer kind, (Callback.misbehave callback peer kind).2 = .disconnect)
variable {self self' : IdentifyProtocol T} {session : SessionContext} {stage : Stage T}

omit [Callback T] in
theorem ReportsDisconnect.andThen {first : Option (Stage T)} {next : IdentifyProtocol T → Option (Stage T)}
    (chained : Stage.andThen first next = some stage)
    (firstOk : ∀ stage, first = some stage → ReportsDisconnect stage)
    (nextOk : ∀ middle later, next middle = some later → ReportsDisconnect later) : ReportsDisconnect stage := by
  rcases Stage.andThen_eq_some chained with ⟨-, ended⟩ | ⟨middle, actions, later, continued, nextRan, rfl⟩
  · exact fun _ _ _ _ => ended
  · intro sessionId peer kind mem
    rcases List.mem_append.mp mem with old | new
    · cases firstOk _ continued sessionId peer kind old
    · exact nextOk middle later nextRan sessionId peer kind new

include strict

theorem IdentifyProtocol.report_reportsDisconnect (sessionId : SessionId) (peer : PeerId) (kind : Misbehavior) :
    ReportsDisconnect (self.report sessionId peer kind) :=
  fun _ _ _ _ => strict _ _ _

theorem IdentifyProtocol.processListens_reportsDisconnect {listens : List Multiaddr}
    (processed : self.processListens utils session listens = some stage) : ReportsDisconnect stage := by
  obtain ⟨info, -, ⟨-, rfl⟩ | ⟨-, -, rfl⟩ | ⟨-, -, rfl⟩⟩ := IdentifyProtocol.processListens_cases utils processed
  · exact IdentifyProtocol.report_reportsDisconnect strict _ _ _
  · exact IdentifyProtocol.report_reportsDisconnect strict _ _ _
  · intro _ _ _ mem; simp at mem

theorem IdentifyProtocol.processObserved_reportsDisconnect {observed : Multiaddr}
    (processed : self.processObserved utils session observed = some stage) : ReportsDisconnect stage := by
  obtain ⟨info, -, ⟨-, rfl⟩ | ⟨-, -, rfl⟩ | ⟨-, -, -, rfl⟩ | ⟨-, -, -, rfl⟩⟩ :=
    IdentifyProtocol.processObserved_cases utils processed
  · exact IdentifyProtocol.report_reportsDisconnect strict _ _ _
  all_goals intro _ _ _ mem; simp at mem

theorem IdentifyProtocol.processMessage_reportsDisconnect {message : IdentifyMessage}
    (processed : self.processMessage utils session message = some stage) : ReportsDisconnect stage :=
  ReportsDisconnect.andThen processed
    (fun _ first => ReportsDisconnect.andThen first
      (fun _ identified => by cases identified; intro _ _ _ mem; simp [IdentifyProtocol.receivedIdentify] at mem)
      fun _ _ listened => IdentifyProtocol.processListens_reportsDisconnect utils strict listened)
    fun _ _ observed => IdentifyProtocol.processObserved_reportsDisconnect utils strict observed

theorem IdentifyProtocol.received_disconnectsReported {data : Bytes} {actions : List Action}
    (received : self.received utils codec session data = some (self', actions)) :
    DisconnectsReported actions := by
  refine .of_last fun sessionId peer kind mem => ?_
  obtain rfl := (IdentifyProtocol.received_own utils codec received _ mem).1
  cases enabled : self.secioEnabled
  · rw [IdentifyProtocol.received_disabled utils codec enabled] at received
    cases received
    cases mem
  cases decoded : codec.decode data with
  | some message =>
      rw [IdentifyProtocol.received_decoded utils codec enabled decoded] at received
      obtain ⟨stage, processed, finished⟩ := Option.map_eq_some'.mp received
      cases finished
      rcases List.mem_append.mp mem with reported | ending
      · rw [IdentifyProtocol.processMessage_reportsDisconnect utils strict processed _ _ _ reported]
        exact ⟨_, rfl⟩
      · cases mem_disconnectIf ending
  | none =>
      rw [IdentifyProtocol.received_undecodable utils codec enabled decoded] at received
      obtain ⟨info, -, finished⟩ := Option.map_eq_some'.mp received
      cases finished
      rw [IdentifyProtocol.report_result, strict]
      exact ⟨_, rfl⟩

theorem IdentifyProtocol.checkTimeouts_disconnectsReported (now : Instant) :
    ∀ (self : IdentifyProtocol T) (entries : List (Sigma fun _ : SessionId => RemoteInfo)),
      DisconnectsReported (self.checkTimeouts now entries).2
  | self, [] => fun pre _ _ _ _ split => by cases pre <;> cases split
  | self, ⟨sessionId, info⟩ :: rest => by
      cases timedOut : info.timedOut now
      · rw [IdentifyProtocol.checkTimeouts_waiting timedOut]
        exact IdentifyProtocol.checkTimeouts_disconnectsReported now self rest
      · rw [IdentifyProtocol.checkTimeouts_timedOut timedOut, strict]
        exact .report_disconnect (IdentifyProtocol.checkTimeouts_disconnectsReported now _ rest)

theorem IdentifyProtocol.step_disconnectsReported {event : Event} {actions : List Action}
    (stepped : self.step utils codec event = some (self', actions)) : DisconnectsReported actions := by
  cases event with
  | connected session now =>
      refine .of_last fun _ _ _ mem => ?_
      rcases IdentifyProtocol.connected_cases utils codec stepped with ⟨-, -, rfl⟩ | ⟨-, -, -, rfl⟩ <;>
        simp at mem
  | received session data => exact IdentifyProtocol.received_disconnectsReported utils codec strict stepped
  | notify now =>
      obtain ⟨-, rfl⟩ := IdentifyProtocol.step_notify_eq utils codec self stepped
      unfold IdentifyProtocol.notify
      split
      · exact .of_last fun _ _ _ mem => by cases mem
      · exact IdentifyProtocol.checkTimeouts_disconnectsReported strict now _ _
  | disconnected session =>
      obtain ⟨-, rfl⟩ := IdentifyProtocol.step_disconnected_eq utils codec self stepped
      exact .of_last fun _ _ _ mem => by cases mem

end Strict

/-- The node disconnects every peer it reports: its callback answers every
report `Disconnect`, so in what any event does, from any state, each
misbehaviour report for a session is followed by the request to disconnect
that session. -/
theorem reported_peers_disconnected (utils : P2pUtils) (codec : MessageCodec)
    (self : IdentifyProtocol IdentifyCallback) (event : Event) {self' : IdentifyProtocol IdentifyCallback}
    {actions : List Action} (stepped : self.step utils codec event = some (self', actions))
    (pre post : List Action) (sessionId : SessionId) (peer : PeerId) (kind : Misbehavior)
    (split : actions = pre ++ .misbehave sessionId peer kind :: post) : Action.disconnect sessionId ∈ post :=
  IdentifyProtocol.step_disconnectsReported utils codec (fun _ _ _ => rfl) stepped pre sessionId peer kind post split

/-- A full node of the network `ckb` with no client version. -/
def ckbCallback : IdentifyCallback :=
  IdentifyCallback.new NetworkState.empty ckbName ⟨[], rfl⟩ P2pUtils.unresolved

/-- The node's protocol with the keyed session open. -/
def ckbWithKeyed : IdentifyProtocol IdentifyCallback :=
  { IdentifyProtocol.new ckbCallback with
    remoteInfos := (∅ : RemoteInfos).insert keyedSession.id
      ⟨⟨[]⟩, keyedSession, 0, Duration.fromSecs defaultTimeout, none, none⟩ }

theorem reported_peers_disconnected_undecodable :
    ∃ self', ckbWithKeyed.step P2pUtils.unresolved (MessageCodec.table []) (.received keyedSession [0]) =
        some (self', [.misbehave keyedSession.id ⟨[]⟩ .invalidData, .disconnect keyedSession.id]) ∧
      Action.disconnect keyedSession.id ∈ [Action.disconnect keyedSession.id] :=
  ⟨_, rfl, reported_peers_disconnected P2pUtils.unresolved (MessageCodec.table []) ckbWithKeyed
    (.received keyedSession [0]) rfl [] [.disconnect keyedSession.id] keyedSession.id ⟨[]⟩ .invalidData rfl⟩

end Ckb.Network
