import Ckb.Network.IdentifyCallback

/-!
# Two honest peers

The two ends of one session, each an identify protocol over the node's
callback. The session carries what each end sends to the other, in order. What
the transport may do is a machine of its own, `Schedule`: each end connects
once, gets the other end's message once, after both ends have connected, and
ticks before its deadline unless it already has that message.

Two ends on networks of the same name, with the same address filter and
authenticated keys, complete the handshake in every such schedule: neither
reports a misbehavior or asks for a disconnect, each stores the addresses the
other sent, and once it has them no tick reports a timeout. This needs both
ends' payloads to fit the `u32` size header of the packed `Identify` table.
-/

set_option autoImplicit false

namespace Ckb.Network

open Ckb.Packed

/-! ## The session between two ends -/

/-- The two ends of the session. -/
inductive Side where
  | a
  | b
deriving DecidableEq, Repr

/-- The other end. -/
def Side.other : Side → Side
  | .a => .b
  | .b => .a

@[simp] theorem Side.other_ne (side : Side) : side.other ≠ side := by
  cases side <;> decide

/-- The data an action sends on its session. -/
def Action.sentData : Action → Option Bytes
  | .quickSendMessage _ data => some data
  | _ => none

/-- A `Misbehavior` report or a `disconnect` request. -/
def Action.isPenalty : Action → Bool
  | .misbehave _ _ _ => true
  | .disconnect _ => true
  | _ => false

/-- One end: its protocol, the session as it sees it, what it has sent, how many
of the other end's messages it has handled, and everything it did. -/
structure Peer where
  protocol : IdentifyProtocol IdentifyCallback
  session : SessionContext
  sent : List Bytes
  received : Nat
  actions : List Action

/-- An end handles one event of its session: its protocol steps, what it sends
goes on the session, and its actions are kept. -/
def Peer.handle (utils : P2pUtils) (codec : MessageCodec) (peer : Peer) (event : Event) : Option Peer := do
  let (protocol, actions) ← peer.protocol.step utils codec event
  some { peer with
    protocol
    sent := peer.sent ++ actions.filterMap Action.sentData
    actions := peer.actions ++ actions }

theorem Peer.handle_eq {utils : P2pUtils} {codec : MessageCodec} {peer : Peer} {event : Event}
    {protocol : IdentifyProtocol IdentifyCallback} {actions : List Action}
    (stepped : peer.protocol.step utils codec event = some (protocol, actions)) :
    peer.handle utils codec event = some { peer with
      protocol
      sent := peer.sent ++ actions.filterMap Action.sentData
      actions := peer.actions ++ actions } := by
  simp [Peer.handle, stepped]

/-- Both ends. -/
structure Link where
  a : Peer
  b : Peer

/-- One end of the link. -/
def Link.peer (link : Link) : Side → Peer
  | .a => link.a
  | .b => link.b

/-- The link with one end replaced. -/
def Link.set (link : Link) : Side → Peer → Link
  | .a, peer => { link with a := peer }
  | .b, peer => { link with b := peer }

@[simp] theorem Link.peer_set_self (link : Link) (side : Side) (peer : Peer) :
    (link.set side peer).peer side = peer := by
  cases side <;> rfl

@[simp] theorem Link.peer_set_ne (link : Link) {side other : Side} (differs : other ≠ side) (peer : Peer) :
    (link.set side peer).peer other = link.peer other := by
  cases side <;> cases other <;> first | rfl | exact absurd rfl differs

/-- What happens on the link. -/
inductive LinkEvent where
  /-- An end's `connected`, at time `now`. -/
  | connected (side : Side) (now : Instant)
  /-- An end gets the other end's next message. -/
  | deliver (side : Side)
  /-- An end's timeout tick, at time `now`. -/
  | tick (side : Side) (now : Instant)
deriving DecidableEq, Repr

section Link

variable (utils : P2pUtils) (codec : MessageCodec)

/-- One event on the link; `none` where an end panics or there is no message
to deliver. -/
def Link.step (link : Link) : LinkEvent → Option Link
  | .connected side now => do
      let peer ← (link.peer side).handle utils codec (.connected (link.peer side).session now)
      some (link.set side peer)
  | .deliver side => do
      let peer := link.peer side
      let data ← (link.peer side.other).sent.get? peer.received
      let peer ← peer.handle utils codec (.received peer.session data)
      some (link.set side { peer with received := peer.received + 1 })
  | .tick side now => do
      let peer ← (link.peer side).handle utils codec (.notify now)
      some (link.set side peer)

/-- Events on the link, in order. -/
def Link.run (link : Link) : List LinkEvent → Option Link
  | [] => some link
  | event :: rest => (link.step utils codec event).bind (·.run rest)

theorem Link.run_append (link : Link) (events : List LinkEvent) (event : LinkEvent) :
    link.run utils codec (events ++ [event]) = (link.run utils codec events).bind (·.step utils codec event) := by
  induction events generalizing link with
  | nil => simp [Link.run]
  | cons first rest ih =>
      simp only [List.cons_append, Link.run]
      cases link.step utils codec first <;> simp [ih]

end Link

/-! ## What the transport allows -/

/-- How far the session has gone: when each end connected, and whether it has
the other end's message. -/
structure Schedule where
  connectedAt : Side → Option Instant
  delivered : Side → Bool

/-- Nothing has happened. -/
def Schedule.start : Schedule := ⟨fun _ => none, fun _ => false⟩

/-- The transport's discipline, one event at a time: `none` for an event it
never delivers. An end connects once; it gets the other end's message once,
after both ends have connected; it ticks before its deadline, unless it already
has the message. -/
def Schedule.advance (schedule : Schedule) : LinkEvent → Option Schedule
  | .connected side now =>
      if schedule.connectedAt side = none then
        some { schedule with connectedAt := Function.update schedule.connectedAt side (some now) }
      else none
  | .deliver side =>
      if (schedule.connectedAt side).isSome ∧ (schedule.connectedAt side.other).isSome ∧
          schedule.delivered side = false then
        some { schedule with delivered := Function.update schedule.delivered side true }
      else none
  | .tick side now =>
      if schedule.delivered side ∨
          (schedule.connectedAt side).all fun start => now < start + Duration.fromSecs defaultTimeout then
        some schedule
      else none

/-- A sequence of events the transport can deliver, from `schedule` on. -/
def Schedule.run (schedule : Schedule) : List LinkEvent → Option Schedule
  | [] => some schedule
  | event :: rest => (schedule.advance event).bind (·.run rest)

theorem Schedule.run_append (schedule : Schedule) (events : List LinkEvent) (event : LinkEvent) :
    schedule.run (events ++ [event]) = (schedule.run events).bind (·.advance event) := by
  induction events generalizing schedule with
  | nil => simp [Schedule.run]
  | cons first rest ih =>
      simp only [List.cons_append, Schedule.run]
      cases schedule.advance first <;> simp [ih]

/-! ## Two honest ends -/

/-- Two ends of one session, running the node's callback on networks of the
same name and with the same address filter. -/
structure Setup where
  utils : P2pUtils
  codec : MessageCodec
  globalIpOnly : Bool
  name : RustString
  clientVersion : Side → RustString
  networkState : Side → NetworkState
  session : Side → SessionContext

namespace Setup

variable (setup : Setup)

/-- An end's protocol before the session. -/
def protocol (side : Side) : IdentifyProtocol IdentifyCallback :=
  { IdentifyProtocol.new (IdentifyCallback.new (setup.networkState side) setup.name (setup.clientVersion side)
      setup.utils) with globalIpOnly := setup.globalIpOnly }

/-- An end before the session. -/
def startPeer (side : Side) : Peer := ⟨setup.protocol side, setup.session side, [], 0, []⟩

/-- Both ends before the session. -/
def start : Link := ⟨setup.startPeer .a, setup.startPeer .b⟩

/-- The message an end's `connected` sends. -/
def message (side : Side) : IdentifyMessage :=
  ((setup.protocol side).identifyMessage setup.utils (setup.session side)).2

/-- What the handshake needs: keys on the session, payloads that fit their
size header, and a codec that delivers both messages unchanged. -/
structure Honest : Prop where
  keyed : ∀ side, (setup.session side).remotePubkey.isSome
  fits : ∀ side, setup.name.bytes.length + (setup.clientVersion side).bytes.length + 32 < 2 ^ 32
  delivers : ∀ side, setup.codec.decode (setup.codec.encode (setup.message side)) = some (setup.message side)

end Setup

/-! ## A well-formed message from a peer of the same network -/

section Welcome

variable {T : Type} [Callback T] (utils : P2pUtils) (codec : MessageCodec)

/-- A message that decodes, from a session whose entry still waits for both
addresses, with at most `MAX_ADDRS` listen addresses that all pass the filter,
and an identity payload the callback accepts: when the callback's
`add_observed_addr` always continues, the message fills in both addresses,
exactly as sent, and takes no report, disconnect or send. -/
theorem IdentifyProtocol.received_welcome {self : IdentifyProtocol T} {session : SessionContext}
    {data : Bytes} {message : IdentifyMessage} {info : RemoteInfo}
    (enabled : self.secioEnabled = true) (decoded : codec.decode data = some message)
    (found : self.remoteInfos.lookup session.id = some info)
    (waiting : info.listenAddrs = none ∧ info.observedAddr = none)
    (few : message.listenAddrs.length ≤ maxAddrs)
    (reachable : ∀ addr ∈ message.listenAddrs, utils.reachableAddr self.globalIpOnly addr = true)
    (accepted : (Callback.receivedIdentify self.callback session message.identify).2 = .continue)
    (observedContinue : ∀ (state : T) peer addr ty, (Callback.addObservedAddr state peer addr ty).2 = .continue) :
    ∃ self' actions, self.received utils codec session data = some (self', actions) ∧
      self'.secioEnabled = true ∧ self'.globalIpOnly = self.globalIpOnly ∧
      (∀ other, self'.remoteInfos.lookup other = if other = session.id then
        some { info with listenAddrs := some message.listenAddrs, observedAddr := some message.observedAddr }
        else self.remoteInfos.lookup other) ∧
      ∀ action ∈ actions, action.isPenalty = false ∧ action.sentData = none := by
  have identified : self.receivedIdentify session message.identify =
      ((self.receivedIdentify session message.identify).1, [.receivedIdentify session.id message.identify],
        .continue) := by
    rw [← accepted]; rfl
  obtain ⟨middle, listened, secio, global, stored⟩ := IdentifyProtocol.processListens_fresh utils
    (show (self.receivedIdentify session message.identify).1.remoteInfos.lookup session.id = some info
      from found) waiting.1 few
  simp only [IdentifyProtocol.receivedIdentify_globalIpOnly, IdentifyProtocol.receivedIdentify_secioEnabled,
    IdentifyProtocol.receivedIdentify_remoteInfos, List.filter_eq_self.mpr reachable] at listened stored secio global
  have found' : middle.remoteInfos.lookup session.id = some { info with listenAddrs := some message.listenAddrs } := by
    rw [stored, lookup_replace_self, found]; rfl
  obtain ⟨last, hooks, observed, secio', global', stored', hooked⟩ := IdentifyProtocol.processObserved_fresh utils
    found' waiting.2 (observedContinue _ _ message.observedAddr _)
  rw [IdentifyProtocol.received_decoded utils codec enabled decoded, IdentifyProtocol.processMessage, identified]
  simp only [Stage.andThen, listened, Option.map_some', observed]
  refine ⟨_, _, rfl, secio'.trans (secio.trans enabled), global'.trans global, fun other => ?_, ?_⟩
  · by_cases same : other = session.id
    · subst same; simp [stored', found']
    · simp [stored', stored, same]
  · intro action mem
    simp only [disconnectIf, MisbehaveResult.isDisconnect, Bool.false_eq_true, if_false, List.append_nil,
      List.singleton_append, List.cons_append, List.nil_append, List.mem_cons] at mem
    rcases mem with rfl | rfl | hook
    · exact ⟨rfl, rfl⟩
    · exact ⟨rfl, rfl⟩
    · rw [List.mem_singleton.mp (hooked hook)]
      exact ⟨rfl, rfl⟩

/-- A message whose identity payload the callback refuses is stopped there: the
session is disconnected. -/
theorem IdentifyProtocol.received_rejected {self : IdentifyProtocol T} {session : SessionContext}
    {data : Bytes} {message : IdentifyMessage}
    (enabled : self.secioEnabled = true) (decoded : codec.decode data = some message)
    (rejected : (Callback.receivedIdentify self.callback session message.identify).2 = .disconnect) :
    self.received utils codec session data =
      some ((self.receivedIdentify session message.identify).1,
        [.receivedIdentify session.id message.identify, .disconnect session.id]) := by
  have stopped : self.receivedIdentify session message.identify =
      ((self.receivedIdentify session message.identify).1, [.receivedIdentify session.id message.identify],
        .disconnect) := by
    rw [← rejected]; rfl
  rw [IdentifyProtocol.received_decoded utils codec enabled decoded, IdentifyProtocol.processMessage, stopped]
  rfl

end Welcome

/-! ## The ends of an honest setup -/

namespace Setup

variable (setup : Setup)

@[simp] theorem protocol_secioEnabled (side : Side) : (setup.protocol side).secioEnabled = true := rfl

@[simp] theorem protocol_globalIpOnly (side : Side) : (setup.protocol side).globalIpOnly = setup.globalIpOnly := rfl

@[simp] theorem protocol_remoteInfos (side : Side) : (setup.protocol side).remoteInfos = ∅ := rfl

@[simp] theorem start_peer (side : Side) : setup.start.peer side = setup.startPeer side := by
  cases side <;> rfl

@[simp] theorem startPeer_protocol (side : Side) : (setup.startPeer side).protocol = setup.protocol side := rfl

@[simp] theorem startPeer_session (side : Side) : (setup.startPeer side).session = setup.session side := rfl

@[simp] theorem startPeer_sent (side : Side) : (setup.startPeer side).sent = [] := rfl

@[simp] theorem startPeer_received (side : Side) : (setup.startPeer side).received = 0 := rfl

@[simp] theorem startPeer_actions (side : Side) : (setup.startPeer side).actions = [] := rfl

theorem protocol_identity (side : Side) :
    (setup.protocol side).callback.identity = (setup.name, Flags.ofFlag .fullNode, setup.clientVersion side) := rfl

/-- An end sends at most `MAX_ADDRS` listen addresses, all of which pass the filter. -/
theorem message_listenAddrs (side : Side) :
    (setup.message side).listenAddrs.length ≤ maxAddrs ∧
      ∀ addr ∈ (setup.message side).listenAddrs, setup.utils.reachableAddr setup.globalIpOnly addr = true := by
  rw [message, IdentifyProtocol.identifyMessage_snd]
  exact ⟨List.length_take_le _ _, fun addr mem => (List.mem_filter.mp (List.mem_of_mem_take mem)).2⟩

theorem message_identify (side : Side) :
    (setup.message side).identify = packIdentify setup.name (Flags.ofFlag .fullNode) (setup.clientVersion side) := by
  rw [message, IdentifyProtocol.identifyMessage_snd]
  exact Identify.encode_bytes _

variable {setup}

/-- The callback of an end with its identity accepts the other end's payload. -/
theorem accepts (honest : setup.Honest) (side : Side) {callback : IdentifyCallback}
    (identity : callback.identity = (setup.name, Flags.ofFlag .fullNode, setup.clientVersion side)) :
    (Callback.receivedIdentify callback (setup.session side) (setup.message side.other).identify).2 = .continue := by
  simp only [IdentifyCallback.identity, Prod.mk.injEq] at identity
  obtain ⟨name, flags, -⟩ := identity
  have verified : callback.identify.verify (setup.message side.other).identify =
      some (Flags.ofFlag .fullNode, setup.clientVersion side.other) := by
    rw [message_identify, Identify.verify_packIdentify _ _ _ _ (honest.fits side.other), name, if_pos ⟨rfl, by decide⟩]
  obtain ⟨next, answered⟩ := IdentifyCallback.receivedIdentify_continue verified
    (.inr ⟨honest.keyed side, by rw [flags]; decide⟩)
  show ((callback.receivedIdentify _ _).getD (callback, .disconnect)).2 = .continue
  rw [answered]
  rfl

end Setup

/-! ## The handshake, one event at a time -/

theorem Link.set_peer (link : Link) (side : Side) : link.set side (link.peer side) = link := by
  cases side <;> rfl

namespace Setup

variable (setup : Setup)

/-- The entry an end holds for the session after its `connected` made `fresh`:
the other end's addresses filled in once it has its message. -/
def entryAfter (side : Side) (fresh : RemoteInfo) (delivered : Bool) : RemoteInfo :=
  if delivered then
    { fresh with
      listenAddrs := some (setup.message side.other).listenAddrs
      observedAddr := some (setup.message side.other).observedAddr }
  else fresh

/-- Where an end stands, from when it connected and whether it has the other
end's message. -/
structure Stands (side : Side) (connectedAt : Option Instant) (delivered : Bool) (peer : Peer) : Prop where
  idle : connectedAt = none → peer = setup.startPeer side
  session : peer.session = setup.session side
  enabled : peer.protocol.secioEnabled = true
  globalIpOnly : peer.protocol.globalIpOnly = setup.globalIpOnly
  identity : peer.protocol.callback.identity = (setup.name, Flags.ofFlag .fullNode, setup.clientVersion side)
  quiet : ∀ action ∈ peer.actions, action.isPenalty = false
  received : peer.received = if delivered then 1 else 0
  sent : ∀ now, connectedAt = some now → peer.sent = [setup.codec.encode (setup.message side)]
  entry : ∀ now, connectedAt = some now → ∃ fresh,
    RemoteInfo.new (setup.session side) (Duration.fromSecs defaultTimeout) now = some fresh ∧
    ∀ other, peer.protocol.remoteInfos.lookup other =
      if other = (setup.session side).id then some (setup.entryAfter side fresh delivered) else none

/-- Both ends stand where the schedule says, and an end has the other end's
message only once both have connected. -/
structure Reached (schedule : Schedule) (link : Link) : Prop where
  stands : ∀ side, setup.Stands side (schedule.connectedAt side) (schedule.delivered side) (link.peer side)
  delivered : ∀ side, schedule.delivered side = true →
    (schedule.connectedAt side).isSome ∧ (schedule.connectedAt side.other).isSome

theorem reached_start : setup.Reached Schedule.start setup.start := by
  refine ⟨fun side => ?_, fun _ delivered => by cases delivered⟩
  rw [start_peer]
  exact ⟨fun _ => rfl, rfl, rfl, rfl, rfl, fun _ mem => (by cases mem), rfl, fun _ started => (by cases started),
    fun _ started => (by cases started)⟩

variable {setup}

/-- A tick the schedule allows finds no entry past its deadline. -/
theorem Stands.notify_quiet {side : Side} {connectedAt : Option Instant} {delivered : Bool} {peer : Peer}
    (stands : setup.Stands side connectedAt delivered peer) {now : Instant}
    (allowed : delivered = true ∨
      (connectedAt.all fun start => now < start + Duration.fromSecs defaultTimeout) = true) :
    peer.protocol.notify now = (peer.protocol, []) := by
  refine IdentifyProtocol.notify_of_waiting fun sessionId info found => ?_
  cases started : connectedAt with
  | none => simp [stands.idle started, startPeer] at found
  | some start =>
      obtain ⟨fresh, created, entries⟩ := stands.entry start started
      obtain ⟨key, -, rfl⟩ := Option.map_eq_some'.mp created
      rw [entries] at found
      split_ifs at found
      cases found
      rw [started] at allowed
      cases delivered <;> simp_all [entryAfter, RemoteInfo.timedOut]

/-- An end connects: it registers the session and sends its message. -/
theorem stands_connect {side : Side} (keyed : (setup.session side).remotePubkey.isSome) (now : Instant) :
    ∃ peer, (setup.startPeer side).handle setup.utils setup.codec (.connected (setup.session side) now) = some peer ∧
      setup.Stands side (some now) false peer := by
  obtain ⟨key, keyed⟩ := Option.isSome_iff_exists.mp keyed
  obtain ⟨⟨protocol, actions⟩, connected⟩ := Option.isSome_iff_exists.mp
    (IdentifyProtocol.connected_isSome setup.utils setup.codec now :
      ((setup.protocol side).connected setup.utils setup.codec (setup.session side) now).isSome)
  rcases IdentifyProtocol.connected_cases setup.utils setup.codec connected with ⟨keyless, -, -⟩ |
    ⟨key', keyed', rfl, rfl⟩
  · rw [keyed] at keyless; cases keyless
  refine ⟨_, Peer.handle_eq connected, fun started => (by cases started), rfl, rfl, rfl,
    IdentifyProtocol.identifyMessage_preserves setup.utils (IdentifyCallback.preserves_identity _)
      (setup.protocol side) (setup.session side) (setup.protocol_identity side),
    (by simp [Action.isPenalty]), rfl, fun _ started => (by cases started; simp [Action.sentData, Setup.message]), ?_⟩
  intro start started
  cases started
  refine ⟨⟨PeerId.fromPublicKey key', setup.session side, now, Duration.fromSecs defaultTimeout, none, none⟩,
    by simp [RemoteInfo.new, keyed'], fun other => ?_⟩
  by_cases same : other = (setup.session side).id
  · rw [same, AList.lookup_insert, if_pos rfl]; rfl
  · rw [AList.lookup_insert_ne same, if_neg same]; rfl

/-- An end that connected gets the other end's message: it fills in both
addresses as sent, and reports, disconnects and sends nothing. -/
theorem stands_deliver (honest : setup.Honest) {side : Side} {start : Instant} {peer : Peer}
    (stands : setup.Stands side (some start) false peer) :
    ∃ peer', peer.handle setup.utils setup.codec
        (.received peer.session (setup.codec.encode (setup.message side.other))) = some peer' ∧
      setup.Stands side (some start) true { peer' with received := peer'.received + 1 } := by
  obtain ⟨fresh, created, entries⟩ := stands.entry start rfl
  obtain ⟨key, -, rfl⟩ := Option.map_eq_some'.mp created
  obtain ⟨few, reachable⟩ := setup.message_listenAddrs side.other
  obtain ⟨protocol, actions, received, enabled, global, entries', sound⟩ :=
    IdentifyProtocol.received_welcome setup.utils setup.codec stands.enabled (honest.delivers side.other)
      (by rw [entries, stands.session, if_pos rfl]) ⟨rfl, rfl⟩ few (stands.globalIpOnly ▸ reachable)
      (stands.session ▸ Setup.accepts honest side stands.identity)
      IdentifyCallback.addObservedAddr_continue
  refine ⟨_, Peer.handle_eq received, fun started => (by cases started),
    stands.session, enabled, global.trans stands.globalIpOnly,
    IdentifyProtocol.received_preserves setup.utils setup.codec (IdentifyCallback.preserves_identity _) received
      stands.identity, ?_, (by simp [stands.received]), fun _ _ => ?_, ?_⟩
  · intro action mem
    rcases List.mem_append.mp mem with mem | mem
    · exact stands.quiet action mem
    · exact (sound action mem).1
  · rw [stands.sent start rfl, List.filterMap_eq_nil_iff.mpr fun action mem => (sound action mem).2, List.append_nil]
  · intro _ started
    cases started
    refine ⟨_, created, fun other => ?_⟩
    rw [entries', entries, stands.session]
    by_cases same : other = (setup.session side).id
    · simp [same, entryAfter]
    · simp [same]

/-- An end whose callback cannot verify the other end's payload disconnects the
session on that end's message, and sends nothing more. -/
theorem Stands.deliver_refused {side : Side} {connectedAt : Option Instant} {delivered : Bool} {peer : Peer}
    (stands : setup.Stands side connectedAt delivered peer)
    (decoded : setup.codec.decode (setup.codec.encode (setup.message side.other)) = some (setup.message side.other))
    (refused : ∀ identify : Identify, identify.verify (setup.message side.other).identify = none) :
    ∃ peer', peer.handle setup.utils setup.codec
        (.received peer.session (setup.codec.encode (setup.message side.other))) = some peer' ∧
      peer'.sent = peer.sent ∧ Action.disconnect (setup.session side).id ∈ peer'.actions :=
  ⟨_, Peer.handle_eq (IdentifyProtocol.received_rejected setup.utils setup.codec stands.enabled decoded
    (IdentifyCallback.receivedIdentify_rejected (refused _))), by simp [Action.sentData], by simp [stands.session]⟩

/-- What one event the schedule allows does to the ends. -/
theorem Reached.step (honest : setup.Honest) {schedule schedule' : Schedule} {link : Link} {event : LinkEvent}
    (reached : setup.Reached schedule link) (advanced : schedule.advance event = some schedule') :
    ∃ link', link.step setup.utils setup.codec event = some link' ∧ setup.Reached schedule' link' := by
  cases event with
  | connected side now =>
      simp only [Schedule.advance] at advanced
      split_ifs at advanced with fresh
      cases advanced
      have waiting : schedule.delivered side = false := by
        cases delivered : schedule.delivered side
        · rfl
        · simpa [fresh] using (reached.delivered side delivered).1
      have grows : ∀ other, (schedule.connectedAt other).isSome →
          (Function.update schedule.connectedAt side (some now) other).isSome := by
        intro other started
        by_cases same : other = side <;> simp_all
      obtain ⟨peer, handled, stands⟩ := stands_connect (honest.keyed side) now
      refine ⟨link.set side peer, by simp [Link.step, (reached.stands side).idle fresh, handled],
        fun other => ?_, fun other delivered => ?_⟩
      · by_cases same : other = side
        · subst same; simpa [waiting] using stands
        · simpa [same] using reached.stands other
      · obtain ⟨own, opposite⟩ := reached.delivered other delivered
        exact ⟨grows _ own, grows _ opposite⟩
  | deliver side =>
      simp only [Schedule.advance] at advanced
      split_ifs at advanced with ready
      cases advanced
      obtain ⟨own, opposite, waiting⟩ := ready
      obtain ⟨start, started⟩ := Option.isSome_iff_exists.mp own
      obtain ⟨start', started'⟩ := Option.isSome_iff_exists.mp opposite
      have stands := reached.stands side
      rw [started, waiting] at stands
      have other := reached.stands side.other
      rw [started'] at other
      obtain ⟨peer, handled, stands'⟩ := stands_deliver honest stands
      refine ⟨link.set side { peer with received := peer.received + 1 }, ?_, fun other => ?_, fun other delivered => ?_⟩
      · simp [Link.step, other.sent start' rfl, stands.received, handled]
      · by_cases same : other = side
        · subst same; simpa [started] using stands'
        · simpa [same] using reached.stands other
      · by_cases same : other = side
        · subst same; exact ⟨own, opposite⟩
        · exact reached.delivered other (by simpa [same] using delivered)
  | tick side now =>
      simp only [Schedule.advance] at advanced
      split_ifs at advanced with allowed
      cases advanced
      refine ⟨link, ?_, reached⟩
      simp only [Link.step, Peer.handle, IdentifyProtocol.step_notify, (reached.stands side).notify_quiet allowed,
        List.filterMap_nil, List.append_nil, Option.bind_eq_bind, Option.some_bind]
      exact congrArg some (Link.set_peer link side)

/-- Every schedule the transport allows runs on the two ends without a panic,
and leaves them where it says. -/
theorem reached_run (honest : setup.Honest) {events : List LinkEvent} {schedule : Schedule}
    (admissible : Schedule.start.run events = some schedule) :
    ∃ link, setup.start.run setup.utils setup.codec events = some link ∧ setup.Reached schedule link := by
  induction events using List.reverseRecOn generalizing schedule with
  | nil =>
      cases admissible
      exact ⟨_, rfl, setup.reached_start⟩
  | append_singleton events event ih =>
      rw [Schedule.run_append] at admissible
      obtain ⟨middle, earlier, advanced⟩ := Option.bind_eq_some.mp admissible
      obtain ⟨link, ran, reached⟩ := ih earlier
      obtain ⟨link', stepped, reached'⟩ := reached.step honest advanced
      exact ⟨link', by rw [Link.run_append, ran]; exact stepped, reached'⟩

end Setup

/-- Two honest peers complete the handshake. Take two ends of one session, on
networks of the same name and with the same address filter, with keys on the
session, payloads that fit the `u32` size header, and a codec that delivers
their messages unchanged. In every schedule the transport allows, both ends run
without a panic; neither reports a misbehavior or asks for a disconnect; and an
end that has the other end's message stores exactly the listen addresses and
observed address that the other end's `connected` sent, after which no tick at
any time does anything. -/
theorem honest_handshake (setup : Setup) (honest : setup.Honest) {events : List LinkEvent}
    {schedule : Schedule} (admissible : Schedule.start.run events = some schedule) :
    ∃ link, setup.start.run setup.utils setup.codec events = some link ∧
      ∀ side, (∀ action ∈ (link.peer side).actions, action.isPenalty = false) ∧
        (schedule.delivered side = true →
          (link.peer side.other).sent = [setup.codec.encode (setup.message side.other)] ∧
          ∃ info, (link.peer side).protocol.remoteInfos.lookup (setup.session side).id = some info ∧
            info.listenAddrs = some (setup.message side.other).listenAddrs ∧
            info.observedAddr = some (setup.message side.other).observedAddr ∧
            ∀ now, ((link.peer side).protocol.notify now).2 = []) := by
  obtain ⟨link, ran, reached⟩ := Setup.reached_run honest admissible
  refine ⟨link, ran, fun side => ⟨(reached.stands side).quiet, fun delivered => ?_⟩⟩
  obtain ⟨own, opposite⟩ := reached.delivered side delivered
  obtain ⟨start, started⟩ := Option.isSome_iff_exists.mp own
  obtain ⟨start', started'⟩ := Option.isSome_iff_exists.mp opposite
  have stands := reached.stands side
  rw [started, delivered] at stands
  obtain ⟨fresh, -, entries⟩ := stands.entry start rfl
  refine ⟨(reached.stands side.other).sent start' started', _, by rw [entries, if_pos rfl], rfl, rfl,
    fun now => ?_⟩
  rw [stands.notify_quiet (.inl rfl)]

/-! ## Two full nodes -/

/-- A node's state with no public address, no feeler and no other protocol. -/
def NetworkState.empty : NetworkState := ⟨⟨fun _ _ => [], fun _ _ => false, fun _ => [], 0⟩, []⟩

/-- The session between the two ends, as each sees it: `a` dialed `b`. -/
def pairSession : Side → SessionContext
  | .a => ⟨1, [], .outbound, some ⟨⟨[2]⟩⟩⟩
  | .b => ⟨2, [], .inbound, some ⟨⟨[1]⟩⟩⟩

/-- The setup with a codec for the table of its two ends' messages. -/
def Setup.withTable (setup : Setup) : Setup :=
  { setup with codec := MessageCodec.table [setup.message .a, setup.message .b] }

theorem Setup.withTable_delivers (setup : Setup) (side : Side) :
    setup.withTable.codec.decode (setup.withTable.codec.encode (setup.withTable.message side)) =
      some (setup.withTable.message side) :=
  MessageCodec.table_decode_encode (by
    cases side
    · exact List.mem_cons_self _ _
    · exact List.mem_cons_of_mem _ (List.mem_cons_self _ _)) (by simp)

/-- Two full nodes of the network `name` with no public address and no client
version, `a` dialing `b`. -/
def fullNodes (name : RustString) : Setup :=
  Setup.withTable ⟨P2pUtils.unresolved, MessageCodec.table [], true, name, fun _ => ⟨[], rfl⟩,
    fun _ => NetworkState.empty, pairSession⟩

/-- The network name `ckb`. -/
def ckbName : RustString := ⟨[0x63, 0x6b, 0x62], rfl⟩

/-- Both ends connect, `b` gets its message, `a` ticks, gets its message, and
ticks again a minute later. -/
def handshakeEvents : List LinkEvent :=
  [.connected .a 0, .connected .b 0, .deliver .b, .tick .a 5, .deliver .a, .tick .a (Duration.fromSecs 60)]

theorem honest_handshake_fullNodes :
    (fullNodes ckbName).Honest ∧ ∃ schedule, Schedule.start.run handshakeEvents = some schedule ∧
      ∃ link, (fullNodes ckbName).start.run (fullNodes ckbName).utils (fullNodes ckbName).codec handshakeEvents =
          some link ∧
        ∀ side, (∀ action ∈ (link.peer side).actions, action.isPenalty = false) ∧
          (schedule.delivered side = true →
            (link.peer side.other).sent = [(fullNodes ckbName).codec.encode ((fullNodes ckbName).message side.other)] ∧
            ∃ info, (link.peer side).protocol.remoteInfos.lookup ((fullNodes ckbName).session side).id = some info ∧
              info.listenAddrs = some ((fullNodes ckbName).message side.other).listenAddrs ∧
              info.observedAddr = some ((fullNodes ckbName).message side.other).observedAddr ∧
              ∀ now, ((link.peer side).protocol.notify now).2 = []) :=
  have honest : (fullNodes ckbName).Honest :=
    ⟨fun side => by cases side <;> rfl, fun side => by cases side <;> decide, Setup.withTable_delivers _⟩
  ⟨honest, _, rfl, honest_handshake (fullNodes ckbName) honest rfl⟩

/-- On the network named `overlongName`, no end verifies the other's payload. -/
theorem fullNodes_overlong_refused (identify : Identify) (side : Side) :
    identify.verify ((fullNodes overlongName).message side).identify = none := by
  have long : overlongName.bytes.length = 2 ^ 32 := List.length_replicate _ _
  rw [Setup.message_identify]
  exact Identify.verify_packIdentify_of_too_long _ _ _ _ (by
    show 2 ^ 32 ≤ overlongName.bytes.length + _ + 32
    omega)

/-- Both ends connect, then each gets the other's message. -/
def rejectedEvents : List LinkEvent := [.connected .a 0, .connected .b 0, .deliver .b, .deliver .a]

/-- On a network whose name is `2 ^ 32` bytes long, the ends' payloads overflow
the `u32` size header: each end refuses the other's identity and disconnects,
although the session has keys and the codec delivers both messages unchanged. -/
theorem honest_handshake_overlongName :
    (∀ side, ((fullNodes overlongName).session side).remotePubkey.isSome) ∧
    (∀ side, (fullNodes overlongName).codec.decode
      ((fullNodes overlongName).codec.encode ((fullNodes overlongName).message side)) =
        some ((fullNodes overlongName).message side)) ∧
    (Schedule.start.run rejectedEvents).isSome ∧
    ∃ link, (fullNodes overlongName).start.run (fullNodes overlongName).utils (fullNodes overlongName).codec
        rejectedEvents = some link ∧
      ∀ side, Action.disconnect ((fullNodes overlongName).session side).id ∈ (link.peer side).actions := by
  refine ⟨fun side => by cases side <;> rfl, Setup.withTable_delivers _, rfl, ?_⟩
  obtain ⟨peerA, connectedA, standsA⟩ :=
    Setup.stands_connect (show ((fullNodes overlongName).session .a).remotePubkey.isSome from rfl) 0
  obtain ⟨peerB, connectedB, standsB⟩ :=
    Setup.stands_connect (show ((fullNodes overlongName).session .b).remotePubkey.isSome from rfl) 0
  obtain ⟨handledA, handlesA, sentA, disconnectsA⟩ :=
    standsA.deliver_refused (Setup.withTable_delivers _ _) (fullNodes_overlong_refused · _)
  obtain ⟨handledB, handlesB, sentB, disconnectsB⟩ :=
    standsB.deliver_refused (Setup.withTable_delivers _ _) (fullNodes_overlong_refused · _)
  simp only [Side.other] at handlesA handlesB
  have ba : Side.b ≠ Side.a := by decide
  have ab : Side.a ≠ Side.b := by decide
  simp only [rejectedEvents, Link.run, Link.step, Setup.start_peer, Setup.startPeer_session, connectedA,
    Option.bind_eq_bind, Option.some_bind, Link.peer_set_ne _ ba, Link.peer_set_ne _ ab, connectedB,
    Link.peer_set_self, Side.other, standsA.sent 0 rfl, standsB.sent 0 rfl, standsA.received, standsB.received,
    Bool.false_eq_true, if_false, List.get?_cons_zero, handlesB, sentB,
    handlesA, Option.some.injEq, exists_eq_left']
  rintro (_ | _)
  · simpa only [Link.peer_set_self] using disconnectsA
  · simpa only [Link.peer_set_ne _ ba, Link.peer_set_self] using disconnectsB

end Ckb.Network
