import Ckb.Network.Handshake

/-!
# Address hygiene

`IdentifyProtocol::new` sets `global_ip_only` and nothing changes it, so the
address filter of `connected` and `process_listens` and the test of
`process_observed` pass only reachable addresses. Every address the protocol
advertises or passes to a hook is reachable, and every listen list it stores is
the capped, filtered listen list of a message received on its session: the list
its hook got.
-/

set_option autoImplicit false

namespace Ckb.Network

open Ckb.Packed

section Witnesses

variable {T : Type} (codec : MessageCodec)

/-- Every stored listen list is at most `MAX_ADDRS` long, was handed to
`add_remote_listen_addrs` for its session's peer, and is an ordered sublist of
the listen list of a message received on its session. -/
def ListensWitnessed (events : List Event) (actions : List Action) (protocol : IdentifyProtocol T) :
    Prop :=
  ∀ sessionId info listens, protocol.remoteInfos.lookup sessionId = some info →
    info.listenAddrs = some listens →
    listens.length ≤ maxAddrs ∧ Action.addRemoteListenAddrs sessionId info.peerId listens ∈ actions ∧
    ∃ session data message, Event.received session data ∈ events ∧ session.id = sessionId ∧
      codec.decode data = some message ∧ listens.Sublist message.listenAddrs

variable {codec}

theorem ListensWitnessed.mono {events events' : List Event} {actions actions' : List Action}
    {protocol : IdentifyProtocol T} (witnessed : ListensWitnessed codec events actions protocol)
    (moreEvents : events ⊆ events') (moreActions : actions ⊆ actions') :
    ListensWitnessed codec events' actions' protocol := fun sessionId info listens found stored => by
  obtain ⟨short, handed, session, data, message, received, rest⟩ :=
    witnessed sessionId info listens found stored
  exact ⟨short, moreActions handed, session, data, message, moreEvents received, rest⟩

theorem ListensWitnessed.of_kept {events : List Event} {actions : List Action}
    {before after : IdentifyProtocol T} (witnessed : ListensWitnessed codec events actions before)
    (kept : ∀ sessionId info' listens, after.remoteInfos.lookup sessionId = some info' →
      info'.listenAddrs = some listens → ∃ info, before.remoteInfos.lookup sessionId = some info ∧
        info.listenAddrs = some listens ∧ info.peerId = info'.peerId) :
    ListensWitnessed codec events actions after := fun sessionId info' listens found stored => by
  obtain ⟨info, before, stored', peer⟩ := kept sessionId info' listens found stored
  rw [← peer]
  exact witnessed sessionId info listens before stored'

theorem ListensWitnessed.of_remoteInfos {events : List Event} {actions : List Action}
    {before after : IdentifyProtocol T} (witnessed : ListensWitnessed codec events actions before)
    (same : after.remoteInfos = before.remoteInfos) : ListensWitnessed codec events actions after :=
  witnessed.of_kept fun _ info _ found stored => ⟨info, same ▸ found, stored, rfl⟩

/-- What an action may carry: a sent message advertises at most `MAX_ADDRS`
listen addresses, all reachable, and every address passed to a hook is
reachable. -/
def Action.Hygienic (utils : P2pUtils) (codec : MessageCodec) : Action → Prop
  | .quickSendMessage _ data => ∃ message, data = codec.encode message ∧
      message.listenAddrs.length ≤ maxAddrs ∧ ∀ addr ∈ message.listenAddrs, utils.Reachable addr
  | .addRemoteListenAddrs _ _ addrs => ∀ addr ∈ addrs, utils.Reachable addr
  | .addObservedAddr _ _ addr _ => utils.Reachable addr
  | _ => True

end Witnesses

section Stages

variable {T : Type} [Callback T] (utils : P2pUtils) {codec : MessageCodec}
variable {self : IdentifyProtocol T} {session : SessionContext}

/-- `process_listens` stores only the filtered listen list of the message it
processes, and hands the same list to its hook. -/
theorem IdentifyProtocol.processListens_witnessed {events : List Event} {actions : List Action}
    {data : Bytes} {message : IdentifyMessage} {stage : Stage T}
    (processed : self.processListens utils session message.listenAddrs = some stage)
    (event : Event.received session data ∈ events) (decoded : codec.decode data = some message)
    (witnessed : ListensWitnessed codec events actions self) :
    ListensWitnessed codec events (actions ++ stage.2.1) stage.1 := by
  have more := witnessed.mono (fun _ mem => mem) (List.subset_append_left actions stage.2.1)
  obtain ⟨info, found, ⟨-, rfl⟩ | ⟨-, -, rfl⟩ | ⟨fresh, short, rfl⟩⟩ :=
    IdentifyProtocol.processListens_cases utils processed
  · exact more.of_remoteInfos rfl
  · exact more.of_remoteInfos rfl
  · intro sessionId info' listens found' stored
    by_cases same : sessionId = session.id
    · subst same
      simp only [lookup_replace_self, found, Option.map_some', Option.some.injEq] at found'
      subst found'
      simp only [Option.some.injEq] at stored
      subst stored
      exact ⟨(List.length_filter_le _ _).trans short, by simp, session, data, message, event, rfl,
        decoded, List.filter_sublist _⟩
    · rw [lookup_replace_ne _ _ same] at found'
      exact more sessionId info' listens found' stored

theorem IdentifyProtocol.processObserved_witnessed {events : List Event} {actions : List Action}
    {observed : Multiaddr} {stage : Stage T}
    (processed : self.processObserved utils session observed = some stage)
    (witnessed : ListensWitnessed codec events actions self) :
    ListensWitnessed codec events (actions ++ stage.2.1) stage.1 := by
  have more := witnessed.mono (fun _ mem => mem) (List.subset_append_left actions stage.2.1)
  have storedObserved : ∀ (info : RemoteInfo) (after : IdentifyProtocol T),
      self.remoteInfos.lookup session.id = some info →
      after.remoteInfos = self.remoteInfos.replace session.id { info with observedAddr := some observed } →
      ListensWitnessed codec events (actions ++ stage.2.1) after := fun info after found stored =>
    more.of_kept fun sessionId info' listens found' listened => by
      rw [stored] at found'
      by_cases same : sessionId = session.id
      · subst same
        simp only [lookup_replace_self, found, Option.map_some', Option.some.injEq] at found'
        subst found'
        exact ⟨info, found, listened, rfl⟩
      · rw [lookup_replace_ne _ _ same] at found'
        exact ⟨info', found', listened, rfl⟩
  obtain ⟨info, found, ⟨-, rfl⟩ | ⟨-, -, rfl⟩ | ⟨-, -, -, rfl⟩ | ⟨-, -, -, rfl⟩⟩ :=
    IdentifyProtocol.processObserved_cases utils processed
  · exact more.of_remoteInfos rfl
  · exact storedObserved info _ found rfl
  · exact more.of_remoteInfos rfl
  · exact storedObserved info _ found rfl

/-- `received` keeps the witnesses of every stored listen list, given its own event. -/
theorem IdentifyProtocol.received_witnessed {events : List Event} {actions actions' : List Action}
    {self' : IdentifyProtocol T} {data : Bytes}
    (received : self.received utils codec session data = some (self', actions'))
    (event : Event.received session data ∈ events) (witnessed : ListensWitnessed codec events actions self) :
    ListensWitnessed codec events (actions ++ actions') self' := by
  have more : ∀ later, ListensWitnessed codec events (actions ++ later) self :=
    fun later => witnessed.mono (fun _ mem => mem) (List.subset_append_left _ _)
  cases enabled : self.secioEnabled
  · rw [IdentifyProtocol.received_disabled utils codec enabled] at received
    cases received
    exact more []
  · cases decoded : codec.decode data with
    | none =>
        rw [IdentifyProtocol.received_undecodable utils codec enabled decoded] at received
        obtain ⟨info, -, reported⟩ := Option.map_eq_some'.mp received
        cases reported
        exact (more _).of_remoteInfos rfl
    | some message =>
        rw [IdentifyProtocol.received_decoded utils codec enabled decoded] at received
        obtain ⟨stage, processed, finished⟩ := Option.map_eq_some'.mp received
        cases finished
        have staged : ListensWitnessed codec events (actions ++ stage.2.1) stage.1 :=
          Stage.andThen_preserves (fun middle later => ListensWitnessed codec events (actions ++ later) middle)
            processed
            (fun listened chained => Stage.andThen_preserves
              (fun middle later => ListensWitnessed codec events (actions ++ later) middle) chained
              (fun identified first => Option.some.inj first ▸ (more _).of_remoteInfos rfl)
              (fun middle later stage holds processed => by
                show ListensWitnessed codec events (actions ++ (later ++ stage.2.1)) stage.1
                rw [← List.append_assoc]
                exact IdentifyProtocol.processListens_witnessed utils processed event decoded holds))
            (fun middle later stage holds processed => by
              show ListensWitnessed codec events (actions ++ (later ++ stage.2.1)) stage.1
              rw [← List.append_assoc]
              exact IdentifyProtocol.processObserved_witnessed utils processed holds)
        rw [← List.append_assoc]
        exact staged.mono (fun _ mem => mem) (List.subset_append_left _ _)

theorem IdentifyProtocol.step_witnessed {events : List Event} {actions actions' : List Action}
    {self' : IdentifyProtocol T} {event : Event}
    (stepped : self.step utils codec event = some (self', actions'))
    (witnessed : ListensWitnessed codec events actions self) :
    ListensWitnessed codec (events ++ [event]) (actions ++ actions') self' := by
  have more : ListensWitnessed codec (events ++ [event]) (actions ++ actions') self :=
    witnessed.mono (List.subset_append_left _ _) (List.subset_append_left _ _)
  cases event with
  | connected session now =>
      rcases IdentifyProtocol.connected_cases utils codec stepped with ⟨-, rfl, -⟩ | ⟨key, -, rfl, -⟩
      · exact more.of_remoteInfos rfl
      · refine more.of_kept fun sessionId info' listens found stored => ?_
        by_cases same : sessionId = session.id
        · subst same
          simp only [AList.lookup_insert, Option.some.injEq] at found
          subst found
          cases stored
        · rw [AList.lookup_insert_ne same] at found
          exact ⟨info', found, stored, rfl⟩
  | received session data =>
      exact IdentifyProtocol.received_witnessed utils stepped (by simp)
        (witnessed.mono (List.subset_append_left _ _) (fun _ mem => mem))
  | notify now =>
      obtain ⟨rfl, -⟩ := IdentifyProtocol.step_notify_eq utils codec self stepped
      exact more.of_remoteInfos (IdentifyProtocol.notify_remoteInfos now)
  | disconnected session =>
      obtain ⟨disconnected, -⟩ := IdentifyProtocol.step_disconnected_eq utils codec self stepped
      rcases IdentifyProtocol.disconnected_cases disconnected with ⟨-, -, rfl⟩ | ⟨-, rfl⟩
      · refine more.of_kept fun sessionId info' listens found stored => ?_
        by_cases same : sessionId = session.id
        · subst same; simp at found
        · rw [AList.lookup_erase_ne same] at found
          exact ⟨info', found, stored, rfl⟩
      · exact more

/-- With `global_ip_only` set, every action of every event is hygienic. -/
theorem IdentifyProtocol.step_hygienic {actions' : List Action} {self' : IdentifyProtocol T} {event : Event}
    (global : self.globalIpOnly = true) (stepped : self.step utils codec event = some (self', actions')) :
    ∀ action ∈ actions', action.Hygienic utils codec := by
  have reachable : ∀ addr, utils.reachableAddr self.globalIpOnly addr = true → utils.Reachable addr :=
    fun addr passes => (utils.reachableAddr_true_iff addr).mp (global ▸ passes)
  cases event with
  | connected session now =>
      rcases IdentifyProtocol.connected_cases utils codec stepped with ⟨-, -, rfl⟩ | ⟨-, -, -, rfl⟩
      · simp [Action.Hygienic]
      · simp only [List.mem_singleton, forall_eq]
        refine ⟨_, rfl, List.length_take_le _ _, fun addr mem => reachable addr ?_⟩
        exact (List.mem_filter.mp (List.mem_of_mem_take mem)).2
  | received session data =>
      intro action mem
      rcases IdentifyProtocol.received_mem utils codec stepped mem with rfl | ⟨_, _, rfl⟩ |
        ⟨message, stage, -, processed, mem⟩
      · trivial
      · trivial
      · rcases IdentifyProtocol.processMessage_mem utils processed mem with rfl |
          ⟨middle, listened, confined, listens, mem⟩ | ⟨middle, observed, confined, observes, mem⟩
        · trivial
        · obtain ⟨_, -, ⟨-, rfl⟩ | ⟨-, -, rfl⟩ | ⟨-, -, rfl⟩⟩ :=
            IdentifyProtocol.processListens_cases utils listens <;>
            simp only [IdentifyProtocol.report_actions, List.mem_singleton] at mem <;> subst mem
          · trivial
          · trivial
          · exact fun addr mem => reachable addr (confined.globalIpOnly ▸ (List.mem_filter.mp mem).2)
        · obtain ⟨_, -, ⟨-, rfl⟩ | ⟨-, -, rfl⟩ | ⟨-, passes, -, rfl⟩ | ⟨-, passes, -, rfl⟩⟩ :=
            IdentifyProtocol.processObserved_cases utils observes <;>
            simp only [IdentifyProtocol.report_actions, List.mem_singleton, List.not_mem_nil] at mem
          all_goals subst mem
          · trivial
          all_goals exact reachable _ (confined.globalIpOnly ▸ passes)
  | notify now =>
      obtain ⟨-, rfl⟩ := IdentifyProtocol.step_notify_eq utils codec self stepped
      intro action mem
      unfold IdentifyProtocol.notify at mem
      split at mem
      · cases mem
      · rcases IdentifyProtocol.checkTimeouts_kinds now self _ action mem with ⟨_, _, rfl⟩ | ⟨_, rfl⟩ <;> trivial
  | disconnected session =>
      obtain ⟨-, rfl⟩ := IdentifyProtocol.step_disconnected_eq utils codec self stepped
      intro action mem
      cases mem

/-- Address hygiene over every run of `IdentifyProtocol::new`: every message it
sends advertises at most `MAX_ADDRS` listen addresses, all reachable; every
address it passes to `add_remote_listen_addrs` or `add_observed_addr` is
reachable; and every listen list it stores is at most `MAX_ADDRS` long, is the
list it handed to `add_remote_listen_addrs`, and is an ordered sublist of the
listen list of a message received on its session. -/
theorem address_hygiene (callback : T) {events : List Event} {self : IdentifyProtocol T}
    {actions : List Action}
    (ran : (IdentifyProtocol.new callback).run utils codec events = some (self, actions)) :
    (∀ sessionId data, Action.quickSendMessage sessionId data ∈ actions → ∃ message,
      data = codec.encode message ∧ message.listenAddrs.length ≤ maxAddrs ∧
        ∀ addr ∈ message.listenAddrs, utils.Reachable addr) ∧
    (∀ sessionId peer addrs, Action.addRemoteListenAddrs sessionId peer addrs ∈ actions →
      ∀ addr ∈ addrs, utils.Reachable addr) ∧
    (∀ sessionId peer addr ty, Action.addObservedAddr sessionId peer addr ty ∈ actions →
      utils.Reachable addr) ∧
    ∀ sessionId info listens, self.remoteInfos.lookup sessionId = some info →
      info.listenAddrs = some listens →
      listens.length ≤ maxAddrs ∧ Action.addRemoteListenAddrs sessionId info.peerId listens ∈ actions ∧
      ∃ session data message, Event.received session data ∈ events ∧ session.id = sessionId ∧
        codec.decode data = some message ∧ listens.Sublist message.listenAddrs := by
  have invariant := ((IdentifyProtocol.run_eq_some_iff utils codec).mp ran).invariant utils codec
    (fun events self actions => self.WellFormed ∧ (∀ action ∈ actions, action.Hygienic utils codec) ∧
      ListensWitnessed codec events actions self)
    ⟨⟨rfl, by simp [IdentifyProtocol.new]⟩, by simp, fun _ _ _ found => by
      simp [IdentifyProtocol.new] at found⟩
    fun ⟨wellFormed, hygienic, witnessed⟩ stepped =>
      ⟨IdentifyProtocol.wellFormed_step utils codec wellFormed stepped,
        fun action mem => (List.mem_append.mp mem).elim (hygienic action)
          (IdentifyProtocol.step_hygienic utils wellFormed.globalIpOnly stepped action),
        IdentifyProtocol.step_witnessed utils stepped witnessed⟩
  obtain ⟨-, hygienic, witnessed⟩ := invariant
  exact ⟨fun sessionId data mem => hygienic _ mem, fun sessionId peer addrs mem => hygienic _ mem,
    fun sessionId peer addr ty mem => hygienic _ mem, witnessed⟩

/-- A keyed session sends a message with no listen addresses, which is stored. -/
theorem address_hygiene_emptyListens :
    ∃ self actions, (IdentifyProtocol.new FixedAnswers.permissive).run P2pUtils.unresolved
        (MessageCodec.table overflowTable) [.connected keyedSession 0, .received keyedSession [1]] =
        some (self, actions) ∧
    (∀ sessionId data, Action.quickSendMessage sessionId data ∈ actions → ∃ message,
      data = (MessageCodec.table overflowTable).encode message ∧ message.listenAddrs.length ≤ maxAddrs ∧
        ∀ addr ∈ message.listenAddrs, P2pUtils.unresolved.Reachable addr) ∧
    (∀ sessionId peer addrs, Action.addRemoteListenAddrs sessionId peer addrs ∈ actions →
      ∀ addr ∈ addrs, P2pUtils.unresolved.Reachable addr) ∧
    (∀ sessionId peer addr ty, Action.addObservedAddr sessionId peer addr ty ∈ actions →
      P2pUtils.unresolved.Reachable addr) ∧
    ∀ sessionId info listens, self.remoteInfos.lookup sessionId = some info →
      info.listenAddrs = some listens →
      listens.length ≤ maxAddrs ∧ Action.addRemoteListenAddrs sessionId info.peerId listens ∈ actions ∧
      ∃ session data message, Event.received session data ∈
          [.connected keyedSession 0, .received keyedSession [1]] ∧ session.id = sessionId ∧
        (MessageCodec.table overflowTable).decode data = some message ∧ listens.Sublist message.listenAddrs :=
  ⟨_, _, rfl, @address_hygiene _ _ P2pUtils.unresolved (MessageCodec.table overflowTable)
    FixedAnswers.permissive _ _ _ rfl⟩

end Stages

end Ckb.Network
