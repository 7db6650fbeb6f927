import Ckb.Network.Registry

/-!
# The handshake of one session

How a session's messages and ticks are handled. A message runs its three
stages in order, each only after a `Continue`, and a stage that stops the
message writes nothing. The two addresses of an entry are written once.
A session that has both is never timed out, and one still waiting is reported
once per tick after its deadline. The protocol sends one identify message to
each session that connects with a key and no other message, and every report
and hook call names the peer whose key authenticated its session.
-/

set_option autoImplicit false

namespace Ckb.Network

open Ckb.Packed

/-! ## The stages of a message -/

section Stages

variable {T : Type} [Callback T] (utils : P2pUtils) (codec : MessageCodec)

/-- `received` on an open session: an undecodable message is one `InvalidData`
report and writes nothing; a decoded one runs `received_identify`,
`process_listens` and `process_observed` in order, each only after a
`Continue`. The first `Disconnect` ends the message with `disconnect`, and the
stage that returned it wrote nothing. -/
theorem received_stages (self : IdentifyProtocol T) (session : SessionContext) (info : RemoteInfo)
    (data : Bytes) (enabled : self.secioEnabled = true)
    (found : self.remoteInfos.lookup session.id = some info) :
    (codec.decode data = none →
      self.received utils codec session data =
        some ({ self with callback := (Callback.misbehave self.callback info.peerId .invalidData).1 },
          .misbehave session.id info.peerId .invalidData ::
            disconnectIf (Callback.misbehave self.callback info.peerId .invalidData).2 session.id)) ∧
    ∀ message, codec.decode data = some message →
      ((self.receivedIdentify session message.identify).2.2 = .disconnect →
        (self.receivedIdentify session message.identify).1.remoteInfos = self.remoteInfos ∧
        self.received utils codec session data =
          some ((self.receivedIdentify session message.identify).1,
            [.receivedIdentify session.id message.identify, .disconnect session.id])) ∧
      ((self.receivedIdentify session message.identify).2.2 = .continue → ∃ listened,
        (self.receivedIdentify session message.identify).1.processListens utils session
          message.listenAddrs = some listened ∧
        (listened.2.2 = .disconnect →
          listened.1.remoteInfos = self.remoteInfos ∧
          (∃ kind, listened.2.1 = [.misbehave session.id info.peerId kind]) ∧
          self.received utils codec session data =
            some (listened.1, .receivedIdentify session.id message.identify ::
              (listened.2.1 ++ [.disconnect session.id]))) ∧
        (listened.2.2 = .continue → ∃ observed,
          listened.1.processObserved utils session message.observedAddr = some observed ∧
          (observed.2.2 = .disconnect → observed.1.remoteInfos = listened.1.remoteInfos) ∧
          Action.disconnect session.id ∉ listened.2.1 ++ observed.2.1 ∧
          self.received utils codec session data =
            some (observed.1, .receivedIdentify session.id message.identify ::
              (listened.2.1 ++ observed.2.1 ++ disconnectIf observed.2.2 session.id)))) := by
  refine ⟨fun undecodable => ?_, fun message decoded => ?_⟩
  · simp [IdentifyProtocol.received_undecodable utils codec enabled undecodable, found]
    rfl
  rw [IdentifyProtocol.received_decoded utils codec enabled decoded, IdentifyProtocol.processMessage]
  have unchanged : (self.receivedIdentify session message.identify).1.remoteInfos = self.remoteInfos := rfl
  have reported : (self.receivedIdentify session message.identify).2.1 =
      [.receivedIdentify session.id message.identify] := rfl
  generalize self.receivedIdentify session message.identify = identified at unchanged reported ⊢
  obtain ⟨middle, actions, result⟩ := identified
  simp only at unchanged reported
  subst reported
  cases result
  · refine ⟨fun stopped => (by cases stopped), fun _ => ?_⟩
    have stillFound : (middle.remoteInfos.lookup session.id).isSome := by simp [unchanged, found]
    obtain ⟨listened, listens⟩ := Option.isSome_iff_exists.mp
      (IdentifyProtocol.processListens_isSome utils stillFound :
        (middle.processListens utils session message.listenAddrs).isSome)
    refine ⟨listened, listens, fun stopped => ?_, fun continued => ?_⟩
    · obtain ⟨kept, info', kind, found', reports⟩ :=
        IdentifyProtocol.processListens_disconnect utils listens stopped
      rw [unchanged, found, Option.some.injEq] at found'
      subst found'
      obtain ⟨state, listenActions, result⟩ := listened
      simp only at stopped
      subst stopped
      refine ⟨kept.trans unchanged, ⟨kind, reports⟩, ?_⟩
      simp [Stage.andThen, listens, disconnectIf, MisbehaveResult.isDisconnect]
    · have observedFound : (listened.1.remoteInfos.lookup session.id).isSome :=
        (IdentifyProtocol.processListens_confined utils listens).entry.isSome.trans stillFound
      obtain ⟨observed, observes⟩ := Option.isSome_iff_exists.mp
        (IdentifyProtocol.processObserved_isSome utils observedFound :
          (listened.1.processObserved utils session message.observedAddr).isSome)
      refine ⟨observed, observes, IdentifyProtocol.processObserved_disconnect utils observes, ?_, ?_⟩
      · rw [List.mem_append, not_or]
        exact ⟨IdentifyProtocol.processListens_quiet utils listens _,
          IdentifyProtocol.processObserved_quiet utils observes _⟩
      · obtain ⟨state, listenActions, result⟩ := listened
        simp only at continued
        subst continued
        simp [Stage.andThen, listens, observes]
  · exact ⟨fun _ => ⟨unchanged, by simp [Stage.andThen, disconnectIf, MisbehaveResult.isDisconnect]⟩,
      fun continued => by cases continued⟩

/-- An undecodable message on a registered session, with every report answered
`Disconnect`. -/
theorem received_stages_undecodable :
    twoKeyed.received P2pUtils.unresolved (MessageCodec.table []) keyedSession [0] =
      some (twoKeyed, [.misbehave keyedSession.id ⟨[]⟩ .invalidData, .disconnect keyedSession.id]) :=
  (received_stages P2pUtils.unresolved (MessageCodec.table []) twoKeyed keyedSession
    ⟨⟨[]⟩, keyedSession, 0, Duration.fromSecs defaultTimeout, none, none⟩ [0] rfl rfl).1 rfl

end Stages

/-! ## Write-once addresses -/

/-- A `connected` or `disconnected` of the session with id `sessionId`: the only
events that may create or drop its entry. -/
def Event.opensOrCloses (sessionId : SessionId) : Event → Bool
  | .connected session _ => session.id == sessionId
  | .disconnected session => session.id == sessionId
  | _ => false

section WriteOnce

variable {T : Type} [Callback T] (utils : P2pUtils) (codec : MessageCodec)
variable {self self' : IdentifyProtocol T} {actions : List Action}

/-- An event that neither connects nor disconnects a session only grows its entry. -/
theorem IdentifyProtocol.entryGrows_step {event : Event} {sessionId : SessionId}
    (stepped : self.step utils codec event = some (self', actions))
    (untouched : event.opensOrCloses sessionId = false) :
    EntryGrows (self.remoteInfos.lookup sessionId) (self'.remoteInfos.lookup sessionId) := by
  cases event with
  | connected session now =>
      have differs : sessionId ≠ session.id := fun same => by simp [Event.opensOrCloses, same] at untouched
      rcases IdentifyProtocol.connected_cases utils codec stepped with ⟨-, rfl, -⟩ | ⟨key, -, rfl, -⟩
      · exact EntryGrows.refl _
      · rw [AList.lookup_insert_ne differs]; exact EntryGrows.refl _
  | received session data =>
      exact (IdentifyProtocol.received_confined utils codec stepped).entryGrows sessionId
  | notify now =>
      obtain ⟨rfl, -⟩ := IdentifyProtocol.step_notify_eq utils codec self stepped
      exact (IdentifyProtocol.notify_confined now 0).entryGrows sessionId
  | disconnected session =>
      have differs : sessionId ≠ session.id := fun same => by simp [Event.opensOrCloses, same] at untouched
      obtain ⟨disconnected, -⟩ := IdentifyProtocol.step_disconnected_eq utils codec self stepped
      rcases IdentifyProtocol.disconnected_cases disconnected with ⟨-, -, rfl⟩ | ⟨-, rfl⟩
      · rw [AList.lookup_erase_ne differs]; exact EntryGrows.refl _
      · exact EntryGrows.refl _

theorem IdentifyProtocol.entryGrows_run (sessionId : SessionId) :
    ∀ {self self' : IdentifyProtocol T} {events : List Event} {actions : List Action},
      self.run utils codec events = some (self', actions) →
      (∀ event ∈ events, event.opensOrCloses sessionId = false) →
      EntryGrows (self.remoteInfos.lookup sessionId) (self'.remoteInfos.lookup sessionId)
  | self, self', [], actions, ran, _ => by
      cases ran
      exact EntryGrows.refl _
  | self, self', event :: rest, actions, ran, untouched => by
      obtain ⟨middle, first, later, stepped, rest, -⟩ := IdentifyProtocol.run_cons_eq_some utils codec ran
      exact (IdentifyProtocol.entryGrows_step utils codec stepped (untouched event (.head _))).trans
        (IdentifyProtocol.entryGrows_run sessionId rest fun event mem => untouched event (.tail _ mem))

theorem IdentifyProtocol.processListens_duplicate {session : SessionContext} {info : RemoteInfo}
    {listens : List Multiaddr} {stage : Stage T} (found : self.remoteInfos.lookup session.id = some info)
    (listened : info.listenAddrs.isSome)
    (processed : self.processListens utils session listens = some stage) :
    stage = self.report session.id info.peerId .duplicateListenAddrs := by
  obtain ⟨info', found', ⟨-, rfl⟩ | ⟨fresh, -⟩ | ⟨fresh, -⟩⟩ :=
    IdentifyProtocol.processListens_cases utils processed <;>
  · rw [found, Option.some.injEq] at found'
    subst found'
    first | rfl | simp [fresh] at listened

theorem IdentifyProtocol.processObserved_duplicate {session : SessionContext} {info : RemoteInfo}
    {observed : Multiaddr} {stage : Stage T} (found : self.remoteInfos.lookup session.id = some info)
    (observedBefore : info.observedAddr.isSome)
    (processed : self.processObserved utils session observed = some stage) :
    stage = self.report session.id info.peerId .duplicateObservedAddr := by
  obtain ⟨info', found', ⟨-, rfl⟩ | ⟨fresh, -⟩ | ⟨fresh, -⟩ | ⟨fresh, -⟩⟩ :=
    IdentifyProtocol.processObserved_cases utils processed <;>
  · rw [found, Option.some.injEq] at found'
    subst found'
    first | rfl | simp [fresh] at observedBefore
/-- A message that finds an address set makes no call of that address's hook:
its stage for that address, if it runs, is the duplicate report. -/
theorem IdentifyProtocol.received_no_hook {session : SessionContext} {info : RemoteInfo} {data : Bytes}
    (found : self.remoteInfos.lookup session.id = some info)
    (received : self.received utils codec session data = some (self', actions)) :
    (info.listenAddrs.isSome → ∀ peer addrs, Action.addRemoteListenAddrs session.id peer addrs ∉ actions) ∧
      (info.observedAddr.isSome → ∀ peer addr ty, Action.addObservedAddr session.id peer addr ty ∉ actions) := by
  have stageFound : ∀ middle : IdentifyProtocol T, Confined session.id self middle →
      ∃ info', middle.remoteInfos.lookup session.id = some info' ∧ info.Grows info' := fun _ confined =>
    (found ▸ confined.entry).exists_of_some_left
  constructor
  · intro listened peer addrs mem
    rcases IdentifyProtocol.received_mem utils codec received mem with hit | ⟨_, _, hit⟩ |
      ⟨message, stage, -, processed, mem⟩
    · cases hit
    · cases hit
    · rcases IdentifyProtocol.processMessage_mem utils processed mem with hit |
        ⟨middle, listenedStage, confined, listens, mem⟩ | ⟨middle, observedStage, -, observes, mem⟩
      · cases hit
      · obtain ⟨info', found', grows⟩ := stageFound middle confined
        rw [IdentifyProtocol.processListens_duplicate utils found'
          (by rw [grows.listenAddrs listened]; exact listened) listens] at mem
        simp at mem
      · obtain ⟨_, -, ⟨-, rfl⟩ | ⟨-, -, rfl⟩ | ⟨-, -, -, rfl⟩ | ⟨-, -, -, rfl⟩⟩ :=
          IdentifyProtocol.processObserved_cases utils observes <;> simp at mem
  · intro observedBefore peer addr ty mem
    rcases IdentifyProtocol.received_mem utils codec received mem with hit | ⟨_, _, hit⟩ |
      ⟨message, stage, -, processed, mem⟩
    · cases hit
    · cases hit
    · rcases IdentifyProtocol.processMessage_mem utils processed mem with hit |
        ⟨middle, listenedStage, -, listens, mem⟩ | ⟨middle, observedStage, confined, observes, mem⟩
      · cases hit
      · obtain ⟨_, -, ⟨-, rfl⟩ | ⟨-, -, rfl⟩ | ⟨-, -, rfl⟩⟩ :=
          IdentifyProtocol.processListens_cases utils listens <;> simp at mem
      · obtain ⟨info', found', grows⟩ := stageFound middle confined
        rw [IdentifyProtocol.processObserved_duplicate utils found'
          (by rw [grows.observedAddr observedBefore]; exact observedBefore) observes] at mem
        simp at mem

/-- The two addresses of an entry are written once. Over any events that neither
connect nor disconnect a session its entry stays absent or only grows, so an
address once set is never changed or reset. A stage that finds its address set
is exactly one duplicate report, and a message that finds an address set makes
no call of that address's hook. -/
theorem handshake_addresses_write_once (sessionId : SessionId) :
    (∀ (self self' : IdentifyProtocol T) events actions, self.run utils codec events = some (self', actions) →
      (∀ event ∈ events, event.opensOrCloses sessionId = false) →
      EntryGrows (self.remoteInfos.lookup sessionId) (self'.remoteInfos.lookup sessionId)) ∧
    (∀ (self : IdentifyProtocol T) session info listens stage, session.id = sessionId →
      self.remoteInfos.lookup sessionId = some info → info.listenAddrs.isSome →
      self.processListens utils session listens = some stage →
      stage = self.report sessionId info.peerId .duplicateListenAddrs) ∧
    (∀ (self : IdentifyProtocol T) session info observed stage, session.id = sessionId →
      self.remoteInfos.lookup sessionId = some info → info.observedAddr.isSome →
      self.processObserved utils session observed = some stage →
      stage = self.report sessionId info.peerId .duplicateObservedAddr) ∧
    (∀ (self self' : IdentifyProtocol T) session data actions info, session.id = sessionId →
      self.remoteInfos.lookup sessionId = some info →
      self.received utils codec session data = some (self', actions) →
      (info.listenAddrs.isSome → ∀ peer addrs, Action.addRemoteListenAddrs sessionId peer addrs ∉ actions) ∧
      (info.observedAddr.isSome → ∀ peer addr ty, Action.addObservedAddr sessionId peer addr ty ∉ actions)) := by
  refine ⟨fun _ _ _ _ ran untouched => IdentifyProtocol.entryGrows_run utils codec sessionId ran untouched,
    ?_, ?_, ?_⟩
  · rintro self session info listens stage rfl found listened processed
    exact IdentifyProtocol.processListens_duplicate utils found listened processed
  · rintro self session info observed stage rfl found observedBefore processed
    exact IdentifyProtocol.processObserved_duplicate utils found observedBefore processed
  · rintro self self' session data actions info rfl found received
    exact IdentifyProtocol.received_no_hook utils codec found received

end WriteOnce

/-- Two messages on one session: the first has too many listen addresses, the
second none. -/
def overflowTable : List IdentifyMessage := [⟨List.replicate 11 [], [], []⟩, ⟨[], [], []⟩]

/-- With every report answered `Continue`, the first message leaves the listen
addresses unset and stores the observed address; the second reaches
`process_observed` with the observed address set, and calls
`add_remote_listen_addrs` on the way. -/
theorem handshake_addresses_write_once_overflow :
    (Lifecycle.closed.run [.connected keyedSession 0, .received keyedSession [0],
      .received keyedSession [1]]).isSome ∧
    ∃ reached, (IdentifyProtocol.new FixedAnswers.permissive).run P2pUtils.unresolved
        (MessageCodec.table overflowTable) [.connected keyedSession 0, .received keyedSession [0]] =
        some reached ∧
      (reached.1.remoteInfos.lookup keyedSession.id).bind (·.observedAddr) = some [] ∧
      (reached.1.received P2pUtils.unresolved (MessageCodec.table overflowTable) keyedSession [1]).map
        (·.2) = some [.receivedIdentify keyedSession.id [], .addRemoteListenAddrs keyedSession.id ⟨[]⟩ [],
          .misbehave keyedSession.id ⟨[]⟩ .duplicateObservedAddr] :=
  ⟨rfl, _, rfl, rfl, rfl⟩

/-! ## Timeouts -/

section Timeouts

variable {T : Type} [Callback T] (utils : P2pUtils) (codec : MessageCodec)
variable {self self' : IdentifyProtocol T} {actions : List Action}

theorem IdentifyProtocol.received_no_timeout {session : SessionContext} {data : Bytes}
    (received : self.received utils codec session data = some (self', actions)) (sessionId : SessionId) :
    actions.filter (Action.isTimeoutOf sessionId) = [] := by
  refine List.filter_eq_nil_iff.mpr fun action mem => ?_
  rcases IdentifyProtocol.received_mem utils codec received mem with rfl | ⟨_, _, rfl⟩ |
    ⟨message, stage, -, processed, mem⟩
  · simp [Action.isTimeoutOf]
  · simp [Action.isTimeoutOf]
  · rcases IdentifyProtocol.processMessage_mem utils processed mem with rfl |
      ⟨middle, listened, -, listens, mem⟩ | ⟨middle, observed, -, observes, mem⟩
    · simp [Action.isTimeoutOf]
    · obtain ⟨_, -, ⟨-, rfl⟩ | ⟨-, -, rfl⟩ | ⟨-, -, rfl⟩⟩ :=
        IdentifyProtocol.processListens_cases utils listens <;> simp_all [Action.isTimeoutOf]
    · obtain ⟨_, -, ⟨-, rfl⟩ | ⟨-, -, rfl⟩ | ⟨-, -, -, rfl⟩ | ⟨-, -, -, rfl⟩⟩ :=
        IdentifyProtocol.processObserved_cases utils observes <;> simp_all [Action.isTimeoutOf]

/-- An entry with both addresses, or no entry, is never timed out by an event
that neither connects nor disconnects its session. -/
theorem IdentifyProtocol.step_no_timeout {event : Event} {sessionId : SessionId}
    (stepped : self.step utils codec event = some (self', actions))
    (untouched : event.opensOrCloses sessionId = false)
    (complete : ∀ info, self.remoteInfos.lookup sessionId = some info →
      info.listenAddrs.isSome ∧ info.observedAddr.isSome) :
    actions.filter (Action.isTimeoutOf sessionId) = [] := by
  cases event with
  | connected session now =>
      rcases IdentifyProtocol.connected_cases utils codec stepped with ⟨-, -, rfl⟩ | ⟨-, -, -, rfl⟩ <;> rfl
  | received session data => exact IdentifyProtocol.received_no_timeout utils codec stepped sessionId
  | notify now =>
      obtain ⟨-, rfl⟩ := IdentifyProtocol.step_notify_eq utils codec self stepped
      cases enabled : self.secioEnabled
      · simp [IdentifyProtocol.notify, enabled]
      · rw [IdentifyProtocol.notify_reports enabled]
        cases found : self.remoteInfos.lookup sessionId with
        | none => rfl
        | some info =>
            obtain ⟨listened, observed⟩ := complete info found
            simp [Option.filter, RemoteInfo.timedOut, Option.isSome_iff_ne_none.mp listened,
              Option.isSome_iff_ne_none.mp observed]
  | disconnected session =>
      obtain ⟨-, rfl⟩ := IdentifyProtocol.step_disconnected_eq utils codec self stepped
      rfl

/-- Once both addresses of an entry are set, no later event reports `Timeout`
for its session until the session is connected or disconnected again. -/
theorem IdentifyProtocol.run_no_timeout (sessionId : SessionId) :
    ∀ {self self' : IdentifyProtocol T} {events : List Event} {actions : List Action},
      self.run utils codec events = some (self', actions) →
      (∀ event ∈ events, event.opensOrCloses sessionId = false) →
      (∀ info, self.remoteInfos.lookup sessionId = some info →
        info.listenAddrs.isSome ∧ info.observedAddr.isSome) →
      actions.filter (Action.isTimeoutOf sessionId) = []
  | self, self', [], actions, ran, _, _ => by
      cases ran
      rfl
  | self, self', event :: rest, actions, ran, untouched, complete => by
      obtain ⟨middle, first, later, stepped, rest, rfl⟩ := IdentifyProtocol.run_cons_eq_some utils codec ran
      have stillComplete : ∀ info, middle.remoteInfos.lookup sessionId = some info →
          info.listenAddrs.isSome ∧ info.observedAddr.isSome := fun info found => by
        obtain ⟨old, before, grows⟩ :=
          (found ▸ IdentifyProtocol.entryGrows_step utils codec stepped (untouched event (.head _))).exists_of_some
        obtain ⟨listened, observed⟩ := complete old before
        exact ⟨by rw [grows.listenAddrs listened]; exact listened,
          by rw [grows.observedAddr observed]; exact observed⟩
      rw [List.filter_append,
        IdentifyProtocol.step_no_timeout utils codec stepped (untouched event (.head _)) complete,
        IdentifyProtocol.run_no_timeout sessionId rest (fun event mem => untouched event (.tail _ mem))
          stillComplete]
      rfl

/-- The timeout law of an open session while the protocol is on. Its entry
records the time of its `connected`; a tick reports `Timeout` for it exactly
once when an address is still missing and eight seconds have passed since, and
never otherwise; and once both addresses are set, no later event reports
`Timeout` for it until it is disconnected. -/
theorem notify_timeout_law (callback : T) {events : List Event} {lifecycle : Lifecycle}
    {self : IdentifyProtocol T} {actions : List Action}
    (admissible : Lifecycle.closed.run events = some lifecycle)
    (ran : (IdentifyProtocol.new callback).run utils codec events = some (self, actions))
    (enabled : self.secioEnabled = true) {sessionId : SessionId} {session : SessionContext}
    (open_ : lifecycle.live sessionId = some session) :
    ∃ info, self.remoteInfos.lookup sessionId = some info ∧
      Event.connected session info.connectedAt ∈ events ∧
      (∀ now, (self.notify now).2.filter (Action.isTimeoutOf sessionId) =
        if (info.listenAddrs = none ∨ info.observedAddr = none) ∧
            info.connectedAt + Duration.fromSecs defaultTimeout ≤ now
          then [.misbehave sessionId info.peerId .timeout] else []) ∧
      (info.listenAddrs.isSome → info.observedAddr.isSome →
        ∀ later self' actions', self.run utils codec later = some (self', actions') →
          (∀ event ∈ later, event.opensOrCloses sessionId = false) →
          actions'.filter (Action.isTimeoutOf sessionId) = []) := by
  have invariant := ((IdentifyProtocol.run_eq_some_iff utils codec).mp ran).registryInvariant
    utils codec callback admissible
  have tracked := invariant.registered.enabled enabled sessionId
  rw [open_] at tracked
  obtain ⟨info, found, rfl⟩ := Option.map_eq_some'.mp tracked
  have wellFormed := invariant.wellFormed.entries sessionId info found
  refine ⟨info, found, invariant.connectedAt sessionId info found, fun now => ?_,
    fun listened observed later self' actions' ran' untouched =>
      IdentifyProtocol.run_no_timeout utils codec sessionId ran' untouched fun info' found' => by
        rw [found, Option.some.injEq] at found'
        exact found' ▸ ⟨listened, observed⟩⟩
  rw [IdentifyProtocol.notify_reports enabled, found, ← wellFormed.timeout]
  have timed : info.timedOut now = decide ((info.listenAddrs = none ∨ info.observedAddr = none) ∧
      info.connectedAt + info.timeout ≤ now) := by
    unfold RemoteInfo.timedOut
    cases info.listenAddrs <;> cases info.observedAddr <;> simp
  by_cases waiting : (info.listenAddrs = none ∨ info.observedAddr = none) ∧
      info.connectedAt + info.timeout ≤ now <;> simp [Option.filter, timed, waiting]

/-- A keyed session connected at time zero, ticked at its deadline. -/
theorem notify_timeout_law_keyedSession :
    ∃ lifecycle self actions, Lifecycle.closed.run [.connected keyedSession 0] = some lifecycle ∧
      (IdentifyProtocol.new FixedAnswers.permissive).run P2pUtils.unresolved (MessageCodec.table [])
        [.connected keyedSession 0] = some (self, actions) ∧
      self.secioEnabled = true ∧ lifecycle.live keyedSession.id = some keyedSession ∧
      ∃ info, self.remoteInfos.lookup keyedSession.id = some info ∧
        Event.connected keyedSession info.connectedAt ∈ [.connected keyedSession 0] ∧
        (∀ now, (self.notify now).2.filter (Action.isTimeoutOf keyedSession.id) =
          if (info.listenAddrs = none ∨ info.observedAddr = none) ∧
              info.connectedAt + Duration.fromSecs defaultTimeout ≤ now
            then [.misbehave keyedSession.id info.peerId .timeout] else []) ∧
        (info.listenAddrs.isSome → info.observedAddr.isSome →
          ∀ later self' actions', self.run P2pUtils.unresolved (MessageCodec.table []) later =
              some (self', actions') →
            (∀ event ∈ later, event.opensOrCloses keyedSession.id = false) →
            actions'.filter (Action.isTimeoutOf keyedSession.id) = []) :=
  ⟨_, _, _, rfl, rfl, rfl, rfl,
    @notify_timeout_law _ _ P2pUtils.unresolved (MessageCodec.table []) FixedAnswers.permissive
      [.connected keyedSession 0] _ _ _ rfl rfl rfl keyedSession.id keyedSession rfl⟩

end Timeouts

/-! ## A disconnect within one event -/

/-- No action for `sessionId` follows its `disconnect` in `actions`. -/
def QuietAfterDisconnect (sessionId : SessionId) (actions : List Action) : Prop :=
  ∀ pre post, actions = pre ++ .disconnect sessionId :: post → ∀ action ∈ post, action.session ≠ sessionId

theorem QuietAfterDisconnect.of_not_mem {sessionId : SessionId} {actions : List Action}
    (absent : Action.disconnect sessionId ∉ actions) : QuietAfterDisconnect sessionId actions :=
  fun pre _ split => absurd (split ▸ List.mem_append_right pre (List.mem_cons_self _ _)) absent

theorem QuietAfterDisconnect.of_length_le_one {sessionId : SessionId} {actions : List Action}
    (short : actions.length ≤ 1) : QuietAfterDisconnect sessionId actions := fun pre post split => by
  have lengths := congrArg List.length split
  simp only [List.length_append, List.length_cons] at lengths
  have empty : post = [] := List.eq_nil_of_length_eq_zero (by omega)
  simp [empty]

theorem QuietAfterDisconnect.append {sessionId : SessionId} {first second : List Action}
    (quietFirst : QuietAfterDisconnect sessionId first) (quietSecond : QuietAfterDisconnect sessionId second)
    (apart : Action.disconnect sessionId ∈ first → ∀ action ∈ second, action.session ≠ sessionId) :
    QuietAfterDisconnect sessionId (first ++ second) := fun pre post split => by
  rcases List.append_eq_append_iff.mp split with ⟨middle, rfl, later⟩ | ⟨middle, rfl, later⟩
  · exact quietSecond middle post later
  · cases middle with
    | nil =>
        simp only [List.nil_append] at later
        exact quietSecond [] post (by simp [later])
    | cons head middle =>
        obtain ⟨rfl, rfl⟩ := List.cons.inj later
        intro action mem
        rcases List.mem_append.mp mem with mem | mem
        · exact quietFirst pre middle (by simp) action mem
        · exact apart (by simp) action mem

section Disconnect

variable {T : Type} [Callback T] (utils : P2pUtils) (codec : MessageCodec)

theorem IdentifyProtocol.checkTimeouts_quiet (now : Instant) (sessionId : SessionId) :
    ∀ (self : IdentifyProtocol T) (entries : List (Sigma fun _ : SessionId => RemoteInfo)),
      entries.NodupKeys → QuietAfterDisconnect sessionId (self.checkTimeouts now entries).2
  | self, [], _ => QuietAfterDisconnect.of_length_le_one (by simp [IdentifyProtocol.checkTimeouts])
  | self, ⟨key, info⟩ :: rest, nodup => by
      obtain ⟨absent, nodupRest⟩ := List.nodupKeys_cons.mp nodup
      cases timedOut : info.timedOut now
      · rw [IdentifyProtocol.checkTimeouts_waiting timedOut]
        exact IdentifyProtocol.checkTimeouts_quiet now sessionId self rest nodupRest
      · rw [IdentifyProtocol.checkTimeouts_timedOut timedOut,
          show ∀ (first : Action) (middle later : List Action),
            first :: (middle ++ later) = [first] ++ middle ++ later from fun _ _ _ => rfl]
        have ownSession : ∀ action ∈ [Action.misbehave key info.peerId .timeout] ++
            disconnectIf (Callback.misbehave self.callback info.peerId .timeout).2 key, action.session = key := by
          intro action mem
          rcases List.mem_append.mp mem with mem | mem
          · rw [List.mem_singleton.mp mem]; rfl
          · rw [mem_disconnectIf mem]; rfl
        refine QuietAfterDisconnect.append (QuietAfterDisconnect.append (.of_not_mem (by simp))
          (.of_length_le_one ?_) fun mem => by simp at mem)
          (IdentifyProtocol.checkTimeouts_quiet now sessionId _ rest nodupRest) fun mem action later same => ?_
        · unfold disconnectIf; split <;> simp
        · have own : sessionId = key := ownSession _ mem
          subst own
          exact absent (same ▸ IdentifyProtocol.checkTimeouts_session now _ rest action later)

/-- A `disconnect` ends what one event does for its session: in the actions of
any event, from any state, no action for a session follows its `disconnect`. -/
theorem disconnect_ends_event (self : IdentifyProtocol T) (event : Event) {self' : IdentifyProtocol T}
    {actions : List Action} (stepped : self.step utils codec event = some (self', actions))
    (sessionId : SessionId) (pre post : List Action)
    (split : actions = pre ++ .disconnect sessionId :: post) :
    ∀ action ∈ post, action.session ≠ sessionId := by
  revert pre post
  show QuietAfterDisconnect sessionId actions
  cases event with
  | connected session now =>
      rcases IdentifyProtocol.connected_cases utils codec stepped with ⟨-, -, rfl⟩ | ⟨-, -, -, rfl⟩ <;>
        exact QuietAfterDisconnect.of_length_le_one (by simp)
  | received session data =>
      obtain ⟨body, result, rfl, quiet⟩ := IdentifyProtocol.received_shape utils codec stepped
      exact QuietAfterDisconnect.append (.of_not_mem (quiet sessionId))
        (.of_length_le_one (by unfold disconnectIf; split <;> simp)) fun mem => absurd mem (quiet sessionId)
  | notify now =>
      obtain ⟨-, rfl⟩ := IdentifyProtocol.step_notify_eq utils codec self stepped
      unfold IdentifyProtocol.notify
      split
      · exact QuietAfterDisconnect.of_length_le_one (by simp)
      · exact IdentifyProtocol.checkTimeouts_quiet now sessionId self _ self.remoteInfos.nodupKeys
  | disconnected session =>
      obtain ⟨-, rfl⟩ := IdentifyProtocol.step_disconnected_eq utils codec self stepped
      exact QuietAfterDisconnect.of_length_le_one (by simp)

/-- Both sessions ticked at their deadline: the later session's `disconnect` is
followed only by the earlier session's actions. -/
theorem disconnect_ends_event_tick :
    (IdentifyProtocol.new FixedAnswers.strict).run P2pUtils.unresolved (MessageCodec.table [])
        [.connected keyedSession 0, .connected keyedSession2 0] =
      some (twoKeyed, [.quickSendMessage keyedSession.id [0], .quickSendMessage keyedSession2.id [0]]) ∧
    twoKeyed.step P2pUtils.unresolved (MessageCodec.table []) (.notify (Duration.fromSecs defaultTimeout)) =
      some (twoKeyed, [.misbehave keyedSession2.id ⟨[2]⟩ .timeout] ++ .disconnect keyedSession2.id ::
        [.misbehave keyedSession.id ⟨[]⟩ .timeout, .disconnect keyedSession.id]) ∧
    ∀ action ∈ [Action.misbehave keyedSession.id ⟨[]⟩ .timeout, .disconnect keyedSession.id],
      action.session ≠ keyedSession2.id :=
  ⟨rfl, rfl, disconnect_ends_event P2pUtils.unresolved (MessageCodec.table []) twoKeyed
    (.notify (Duration.fromSecs defaultTimeout)) rfl keyedSession2.id [.misbehave keyedSession2.id ⟨[2]⟩ .timeout]
    _ rfl⟩

end Disconnect

/-- A message with eleven listen addresses, then one with one. -/
def queuedTable : List IdentifyMessage := [⟨List.replicate 11 [], [], []⟩, ⟨[[]], [], []⟩]

/-- With every report answered `Disconnect`, the first message asks for the
session's disconnect; the second, delivered before `disconnected`, is processed
again: `received_identify` and `add_remote_listen_addrs` are called and the
session's listen addresses are set. -/
theorem disconnect_ends_event_queued :
    (Lifecycle.closed.run [.connected keyedSession 0, .received keyedSession [0],
      .received keyedSession [1]]).isSome ∧
    ((IdentifyProtocol.new FixedAnswers.strict).run P2pUtils.unresolved (MessageCodec.table queuedTable)
        [.connected keyedSession 0, .received keyedSession [0], .received keyedSession [1]]).map
      (fun ran => (ran.2.drop 1, (ran.1.remoteInfos.lookup keyedSession.id).bind (·.listenAddrs))) =
      some ([.receivedIdentify keyedSession.id [], .misbehave keyedSession.id ⟨[]⟩ (.tooManyAddresses 11),
        .disconnect keyedSession.id, .receivedIdentify keyedSession.id [],
        .addRemoteListenAddrs keyedSession.id ⟨[]⟩ []], some []) :=
  ⟨rfl, rfl⟩

/-! ## What an event does for a session -/

/-- The session a `quick_send_message` goes to. -/
def Action.sentTo : Action → Option SessionId
  | .quickSendMessage session _ => some session
  | _ => none

/-- The peer a report or a hook call is about. -/
def Action.peer : Action → Option PeerId
  | .addRemoteListenAddrs _ peer _ => some peer
  | .addObservedAddr _ peer _ _ => some peer
  | .misbehave _ peer _ => some peer
  | _ => none

/-- The peer `action` names, if any, is the one of its session's entry in
`self`, and the protocol is on. -/
def NamesEntry {T : Type} (self : IdentifyProtocol T) (action : Action) : Prop :=
  ∀ peer, action.peer = some peer → self.secioEnabled = true ∧
    ∃ info, self.remoteInfos.lookup action.session = some info ∧ info.peerId = peer

theorem NamesEntry.of_none {T : Type} {self : IdentifyProtocol T} {action : Action}
    (none : action.peer = none) : NamesEntry self action :=
  fun _ named => by rw [none] at named; cases named

/-- An action of a stage of the message names the peer of the session's entry. -/
theorem NamesEntry.of_confined {T : Type} {self middle : IdentifyProtocol T} {session : SessionId}
    {info : RemoteInfo} {action : Action} (enabled : self.secioEnabled = true)
    (confined : Confined session self middle) (found : middle.remoteInfos.lookup session = some info)
    (own : action.session = session) (named : action.peer = some info.peerId) : NamesEntry self action := by
  intro peer names
  rw [named] at names
  cases names
  obtain ⟨old, oldFound, grows⟩ := confined.exists_of_some found
  exact ⟨enabled, old, by rw [own]; exact oldFound, grows.peerId.symm⟩

section Own

variable {T : Type} [Callback T] (utils : P2pUtils) (codec : MessageCodec)
variable {self self' : IdentifyProtocol T} {actions : List Action}

/-- Every action of a message is made on behalf of its session, sends nothing,
and names the peer of the session's entry. -/
theorem IdentifyProtocol.received_own {session : SessionContext} {data : Bytes}
    (received : self.received utils codec session data = some (self', actions)) :
    ∀ action ∈ actions, action.session = session.id ∧ action.sentTo = none ∧ NamesEntry self action := by
  intro action mem
  cases enabled : self.secioEnabled
  · rw [IdentifyProtocol.received_disabled utils codec enabled] at received
    cases received
    cases mem
  rcases IdentifyProtocol.received_mem utils codec received mem with rfl | ⟨info, found, rfl⟩ |
    ⟨message, stage, -, processed, mem⟩
  · exact ⟨rfl, rfl, .of_none rfl⟩
  · exact ⟨rfl, rfl, .of_confined enabled (.refl _ _) found rfl rfl⟩
  · rcases IdentifyProtocol.processMessage_mem utils processed mem with rfl |
      ⟨middle, listened, confined, listens, mem⟩ | ⟨middle, observed, confined, observes, mem⟩
    · exact ⟨rfl, rfl, .of_none rfl⟩
    · obtain ⟨info, found, ⟨-, rfl⟩ | ⟨-, -, rfl⟩ | ⟨-, -, rfl⟩⟩ :=
        IdentifyProtocol.processListens_cases utils listens <;> simp at mem <;> subst mem <;>
        exact ⟨rfl, rfl, .of_confined enabled confined found rfl rfl⟩
    · obtain ⟨info, found, ⟨-, rfl⟩ | ⟨-, -, rfl⟩ | ⟨-, -, -, rfl⟩ | ⟨-, -, -, rfl⟩⟩ :=
        IdentifyProtocol.processObserved_cases utils observes <;> simp at mem <;> subst mem <;>
        exact ⟨rfl, rfl, .of_confined enabled confined found rfl rfl⟩

/-- A tick sends nothing, and each of its reports names the peer of the
session's entry. -/
theorem IdentifyProtocol.notify_own (now : Instant) :
    ∀ action ∈ (self.notify now).2, action.sentTo = none ∧ NamesEntry self action := by
  intro action mem
  cases enabled : self.secioEnabled
  · simp [IdentifyProtocol.notify, enabled] at mem
  have looped : action ∈ (self.checkTimeouts now self.remoteInfos.entries).2 := by
    simpa [IdentifyProtocol.notify, enabled] using mem
  rcases IdentifyProtocol.checkTimeouts_kinds now self _ action looped with ⟨sessionId, peer, rfl⟩ |
    ⟨sessionId, rfl⟩
  · refine ⟨rfl, fun _ named => ?_⟩
    cases named
    have reported : Action.misbehave sessionId peer .timeout ∈
        (self.notify now).2.filter (Action.isTimeoutOf sessionId) :=
      List.mem_filter.mpr ⟨mem, by simp [Action.isTimeoutOf]⟩
    rw [IdentifyProtocol.notify_reports enabled now sessionId] at reported
    obtain ⟨info, kept, same⟩ := List.mem_map.mp reported
    cases same
    simp only [Option.mem_toList, Option.mem_def, Option.filter_eq_some] at kept
    exact ⟨enabled, info, kept.1, rfl⟩
  · exact ⟨rfl, .of_none rfl⟩

end Own

/-! ## One identify message per keyed connection -/

/-- The session a `connected` event with a remote key opens. -/
def Event.greets : Event → Option SessionId
  | .connected session _ => if session.remotePubkey.isSome then some session.id else none
  | _ => none

section Greeting

variable {T : Type} [Callback T] (utils : P2pUtils) (codec : MessageCodec)
variable {self self' : IdentifyProtocol T} {actions : List Action}

/-- One event sends one identify message if it connects a keyed session, to
that session, and nothing otherwise. -/
theorem IdentifyProtocol.step_sentTo {event : Event}
    (stepped : self.step utils codec event = some (self', actions)) :
    actions.filterMap Action.sentTo = event.greets.toList := by
  cases event with
  | connected session now =>
      rcases IdentifyProtocol.connected_cases utils codec stepped with
        ⟨keyless, -, rfl⟩ | ⟨key, keyed, -, rfl⟩
      · simp [Event.greets, keyless, Action.sentTo]
      · simp [Event.greets, keyed, Action.sentTo]
  | received session data =>
      exact List.filterMap_eq_nil_iff.mpr fun action mem =>
        (IdentifyProtocol.received_own utils codec stepped action mem).2.1
  | notify now =>
      obtain ⟨-, rfl⟩ := IdentifyProtocol.step_notify_eq utils codec self stepped
      exact List.filterMap_eq_nil_iff.mpr fun action mem => (IdentifyProtocol.notify_own now action mem).1
  | disconnected session =>
      obtain ⟨-, rfl⟩ := IdentifyProtocol.step_disconnected_eq utils codec self stepped
      rfl

/-- Over any run, from any state, the protocol sends exactly one identify
message for each keyed session that connects, in the order they connect, and
no other message: none in answer to a message, a tick or a disconnect. -/
theorem sends_follow_keyed_connections :
    ∀ {self self' : IdentifyProtocol T} {events : List Event} {actions : List Action},
      self.run utils codec events = some (self', actions) →
      actions.filterMap Action.sentTo = events.filterMap Event.greets
  | _, _, [], _, ran => by cases ran; rfl
  | _, _, event :: rest, _, ran => by
      obtain ⟨middle, first, later, stepped, ranRest, rfl⟩ := IdentifyProtocol.run_cons_eq_some utils codec ran
      rw [List.filterMap_append, IdentifyProtocol.step_sentTo utils codec stepped,
        sends_follow_keyed_connections ranRest]
      cases greets : event.greets <;> simp [List.filterMap_cons, greets]

end Greeting

/-- A keyless session, then a keyed one that sends a message, a tick, and a
second keyed session. -/
def greetings : List Event :=
  [.connected keylessSession 0, .connected keyedSession 0, .received keyedSession [0], .notify 0,
    .connected keyedSession2 0]

theorem sends_follow_keyed_connections_greetings :
    ∃ self actions, (IdentifyProtocol.new FixedAnswers.permissive).run P2pUtils.unresolved
        (MessageCodec.table []) greetings = some (self, actions) ∧
      actions.filterMap Action.sentTo = [keyedSession.id, keyedSession2.id] :=
  ⟨_, _, rfl, sends_follow_keyed_connections P2pUtils.unresolved (MessageCodec.table [])
    (show (IdentifyProtocol.new FixedAnswers.permissive).run P2pUtils.unresolved (MessageCodec.table [])
      greetings = some _ from rfl)⟩

/-! ## Reports name the session's peer -/

section Peers

variable {T : Type} [Callback T] (utils : P2pUtils) (codec : MessageCodec)
variable {self self' : IdentifyProtocol T} {actions : List Action}

/-- Every report and hook call of an event names the peer of its session's entry. -/
theorem IdentifyProtocol.step_names {event : Event}
    (stepped : self.step utils codec event = some (self', actions)) :
    ∀ action ∈ actions, NamesEntry self action := by
  cases event with
  | connected session now =>
      rcases IdentifyProtocol.connected_cases utils codec stepped with ⟨-, -, rfl⟩ | ⟨-, -, -, rfl⟩ <;>
        intro action mem <;> rw [List.mem_singleton.mp mem] <;> exact .of_none rfl
  | received session data =>
      exact fun action mem => (IdentifyProtocol.received_own utils codec stepped action mem).2.2
  | notify now =>
      obtain ⟨-, rfl⟩ := IdentifyProtocol.step_notify_eq utils codec self stepped
      exact fun action mem => (IdentifyProtocol.notify_own now action mem).2
  | disconnected session =>
      obtain ⟨-, rfl⟩ := IdentifyProtocol.step_disconnected_eq utils codec self stepped
      nofun

/-- Reports and hook calls go to the right peer: after every run the transport
can deliver, each report and each hook call the next event makes for a session
names the peer whose public key authenticated that session, which is open. -/
theorem reports_name_session_peer (callback : T) {events : List Event} {lifecycle : Lifecycle}
    {event : Event} (admissible : Lifecycle.closed.run events = some lifecycle)
    (ran : (IdentifyProtocol.new callback).run utils codec events = some (self, actions))
    {actions' : List Action} (stepped : self.step utils codec event = some (self', actions')) :
    ∀ action ∈ actions', ∀ peer, action.peer = some peer →
      ∃ session key, lifecycle.live action.session = some session ∧ session.remotePubkey = some key ∧
        PeerId.fromPublicKey key = peer := by
  intro action mem peer named
  have invariant := ((IdentifyProtocol.run_eq_some_iff utils codec).mp ran).registryInvariant
    utils codec callback admissible
  obtain ⟨enabled, info, found, rfl⟩ := IdentifyProtocol.step_names utils codec stepped action mem peer named
  have tracked := invariant.registered.enabled enabled action.session
  rw [found] at tracked
  exact ⟨info.session, ⟨info.peerId⟩, tracked.symm, (invariant.wellFormed.entries _ info found).key, rfl⟩

end Peers

/-- A keyed session connects, then sends a message that does not decode: its
peer is reported. -/
theorem reports_name_session_peer_undecodable :
    ∃ lifecycle self actions self' actions', Lifecycle.closed.run [.connected keyedSession 0] = some lifecycle ∧
      (IdentifyProtocol.new FixedAnswers.permissive).run P2pUtils.unresolved (MessageCodec.table [])
        [.connected keyedSession 0] = some (self, actions) ∧
      self.step P2pUtils.unresolved (MessageCodec.table []) (.received keyedSession [0]) = some (self', actions') ∧
      actions' = [.misbehave keyedSession.id ⟨[]⟩ .invalidData] ∧
      ∀ action ∈ actions', ∀ peer, action.peer = some peer →
        ∃ session key, lifecycle.live action.session = some session ∧ session.remotePubkey = some key ∧
          PeerId.fromPublicKey key = peer :=
  ⟨_, _, _, _, _, rfl, rfl, rfl, rfl, reports_name_session_peer P2pUtils.unresolved (MessageCodec.table [])
    FixedAnswers.permissive (show Lifecycle.closed.run [.connected keyedSession 0] = some _ from rfl)
    (show (IdentifyProtocol.new FixedAnswers.permissive).run P2pUtils.unresolved (MessageCodec.table [])
      [.connected keyedSession 0] = some _ from rfl)
    (show IdentifyProtocol.step _ _ _ (.received keyedSession [0]) = some _ from rfl)⟩

end Ckb.Network
