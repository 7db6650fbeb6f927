import Ckb.Network.Runs

/-!
# The registry of remote infos

What every run of `IdentifyProtocol::new` keeps. Each entry is the
`RemoteInfo::new` of its own session, grown only by messages. While the protocol
is on, the registry holds exactly the open sessions; a session without a public
key turns it off for good, and from then on `disconnected` removes nothing. No
handler panics on a run the transport can deliver.
-/

set_option autoImplicit false

namespace Ckb.Network

open Ckb.Packed

/-! ## Invariants -/

/-- An entry as `RemoteInfo::new` made it for its session; messages change none
of these fields. -/
structure RemoteInfo.WellFormed (sessionId : SessionId) (info : RemoteInfo) : Prop where
  id : info.session.id = sessionId
  key : info.session.remotePubkey = some ⟨info.peerId⟩
  timeout : info.timeout = Duration.fromSecs defaultTimeout

theorem RemoteInfo.WellFormed.of_grows {sessionId : SessionId} {old new : RemoteInfo}
    (wellFormed : old.WellFormed sessionId) (grows : old.Grows new) : new.WellFormed sessionId :=
  ⟨grows.session ▸ wellFormed.id, by rw [grows.session, grows.peerId]; exact wellFormed.key,
    grows.timeout.trans wellFormed.timeout⟩

theorem EntryGrows.exists_of_some {before : Option RemoteInfo} {info : RemoteInfo}
    (grows : EntryGrows before (some info)) : ∃ old, before = some old ∧ old.Grows info := by
  cases grows with
  | some grew => exact ⟨_, rfl, grew⟩

theorem isSome_of_map_session {entry : Option RemoteInfo} {session : SessionContext}
    (mapped : entry.map (·.session) = some session) : entry.isSome := by
  cases entry
  · cases mapped
  · rfl

theorem EntryGrows.exists_of_some_left {after : Option RemoteInfo} {info : RemoteInfo}
    (grows : EntryGrows (some info) after) : ∃ new, after = some new ∧ info.Grows new := by
  cases grows with
  | some grew => exact ⟨_, rfl, grew⟩

theorem Confined.exists_of_some {T : Type} {session other : SessionId} {before after : IdentifyProtocol T}
    {info : RemoteInfo} (confined : Confined session before after)
    (found : after.remoteInfos.lookup other = some info) :
    ∃ old, before.remoteInfos.lookup other = some old ∧ old.Grows info :=
  (found ▸ confined.entryGrows other).exists_of_some

section Invariants

variable {T : Type}

/-- What every state of every run from `IdentifyProtocol::new` satisfies. -/
structure IdentifyProtocol.WellFormed (protocol : IdentifyProtocol T) : Prop where
  globalIpOnly : protocol.globalIpOnly = true
  entries : ∀ sessionId info, protocol.remoteInfos.lookup sessionId = some info → info.WellFormed sessionId

/-- The registry follows the open sessions: every open session with a key has
its entry, and while the protocol is on there is no other entry. -/
structure Registered (lifecycle : Lifecycle) (protocol : IdentifyProtocol T) : Prop where
  keyed : ∀ sessionId session, lifecycle.live sessionId = some session →
    session.remotePubkey.isSome → (protocol.remoteInfos.lookup sessionId).map (·.session) = some session
  enabled : protocol.secioEnabled = true → ∀ sessionId,
    (protocol.remoteInfos.lookup sessionId).map (·.session) = lifecycle.live sessionId

theorem IdentifyProtocol.WellFormed.of_confined {session : SessionId} {before after : IdentifyProtocol T}
    (wellFormed : before.WellFormed) (confined : Confined session before after) : after.WellFormed where
  globalIpOnly := confined.globalIpOnly.trans wellFormed.globalIpOnly
  entries sessionId info found := by
    obtain ⟨old, before, grows⟩ := confined.exists_of_some found
    exact (wellFormed.entries sessionId old before).of_grows grows

theorem Registered.of_confined {lifecycle : Lifecycle} {session : SessionId}
    {before after : IdentifyProtocol T} (registered : Registered lifecycle before)
    (confined : Confined session before after) : Registered lifecycle after where
  keyed sessionId open_ opened keyed := by
    rw [(confined.entryGrows sessionId).map_session]; exact registered.keyed sessionId open_ opened keyed
  enabled enabled sessionId := by
    rw [(confined.entryGrows sessionId).map_session]
    exact registered.enabled (confined.secioEnabled ▸ enabled) sessionId

end Invariants

/-! ## One event -/

section Step

variable {T : Type} [Callback T] (utils : P2pUtils) (codec : MessageCodec)
variable {lifecycle lifecycle' : Lifecycle} {self self' : IdentifyProtocol T} {actions : List Action}

theorem IdentifyProtocol.wellFormed_step {event : Event} (wellFormed : self.WellFormed)
    (stepped : self.step utils codec event = some (self', actions)) : self'.WellFormed := by
  cases event with
  | connected session now =>
      rcases IdentifyProtocol.connected_cases utils codec stepped with ⟨-, rfl, -⟩ | ⟨key, keyed, rfl, -⟩
      · exact ⟨wellFormed.globalIpOnly, wellFormed.entries⟩
      · refine ⟨wellFormed.globalIpOnly, fun sessionId info found => ?_⟩
        by_cases same : sessionId = session.id
        · subst same
          simp only [AList.lookup_insert, Option.some.injEq] at found
          subst found
          exact ⟨rfl, keyed, rfl⟩
        · rw [AList.lookup_insert_ne same] at found
          exact wellFormed.entries sessionId info found
  | received session data =>
      exact wellFormed.of_confined (IdentifyProtocol.received_confined utils codec stepped)
  | notify now =>
      obtain ⟨rfl, -⟩ := IdentifyProtocol.step_notify_eq utils codec self stepped
      exact wellFormed.of_confined (IdentifyProtocol.notify_confined now 0)
  | disconnected session =>
      obtain ⟨disconnected, -⟩ := IdentifyProtocol.step_disconnected_eq utils codec self stepped
      rcases IdentifyProtocol.disconnected_cases disconnected with ⟨-, -, rfl⟩ | ⟨-, rfl⟩
      · refine ⟨wellFormed.globalIpOnly, fun sessionId info found => ?_⟩
        by_cases same : sessionId = session.id
        · subst same; simp at found
        · rw [AList.lookup_erase_ne same] at found
          exact wellFormed.entries sessionId info found
      · exact wellFormed

/-- The protocol stays on until a session without a key connects. -/
theorem IdentifyProtocol.secioEnabled_step {event : Event}
    (stepped : self.step utils codec event = some (self', actions)) :
    self'.secioEnabled = true ↔ self.secioEnabled = true ∧
      ∀ session now, event = .connected session now → session.remotePubkey.isSome := by
  cases event with
  | connected session now =>
      rcases IdentifyProtocol.connected_cases utils codec stepped with ⟨keyless, rfl, -⟩ | ⟨key, keyed, rfl, -⟩
      · simp [keyless]
      · simp [keyed]
  | received session data =>
      rw [(IdentifyProtocol.received_confined utils codec stepped).secioEnabled]; simp
  | notify now =>
      obtain ⟨rfl, -⟩ := IdentifyProtocol.step_notify_eq utils codec self stepped
      rw [(IdentifyProtocol.notify_confined now 0).secioEnabled]; simp
  | disconnected session =>
      obtain ⟨disconnected, -⟩ := IdentifyProtocol.step_disconnected_eq utils codec self stepped
      rcases IdentifyProtocol.disconnected_cases disconnected with ⟨-, -, rfl⟩ | ⟨-, rfl⟩ <;> simp

/-- The events that still change anything once the protocol is off. -/
def Event.isConnected : Event → Bool
  | .connected .. => true
  | _ => false

theorem IdentifyProtocol.disabled_step {event : Event} (off : self.secioEnabled = false)
    (stepped : self.step utils codec event = some (self', actions)) : self'.secioEnabled = false := by
  simpa [off] using IdentifyProtocol.secioEnabled_step utils codec stepped

/-- Once the protocol is off, `received`, `notify` and `disconnected` change
nothing and send nothing. -/
theorem IdentifyProtocol.step_quiet_of_disabled {event : Event} (off : self.secioEnabled = false)
    (quiet : event.isConnected = false) : self.step utils codec event = some (self, []) := by
  cases event with
  | connected => cases quiet
  | received session data => exact IdentifyProtocol.received_disabled utils codec off
  | notify now => simp [IdentifyProtocol.notify, off]
  | disconnected session => simp [IdentifyProtocol.disconnected, off]

theorem IdentifyProtocol.registered_step {event : Event} (registered : Registered lifecycle self)
    (advanced : lifecycle.advance event = some lifecycle')
    (stepped : self.step utils codec event = some (self', actions)) : Registered lifecycle' self' := by
  rcases Lifecycle.advance_cases advanced with
    ⟨session, now, rfl, -, live⟩ | ⟨session, data, rfl, -, rfl⟩ | ⟨now, rfl, rfl⟩ | ⟨session, rfl, -, live⟩
  · have opened : ∀ sessionId, sessionId ≠ session.id → lifecycle'.live sessionId = lifecycle.live sessionId :=
      fun sessionId differs => by rw [live, Function.update_noteq differs]
    rcases IdentifyProtocol.connected_cases utils codec stepped with ⟨keyless, rfl, -⟩ | ⟨key, keyed, rfl, -⟩
    · refine ⟨fun sessionId open_ found keyed => ?_, fun enabled => absurd enabled (by simp)⟩
      by_cases same : sessionId = session.id
      · subst same
        rw [live, Function.update_same, Option.some.injEq] at found
        subst found
        simp [keyless] at keyed
      · exact registered.keyed sessionId open_ ((opened sessionId same).symm.trans found) keyed
    · refine ⟨fun sessionId open_ found keyed => ?_, fun enabled sessionId => ?_⟩
      · by_cases same : sessionId = session.id
        · subst same
          rw [live, Function.update_same] at found
          simpa using found
        · rw [AList.lookup_insert_ne same]
          exact registered.keyed sessionId open_ ((opened sessionId same).symm.trans found) keyed
      · by_cases same : sessionId = session.id
        · subst same
          simp [live]
        · rw [AList.lookup_insert_ne same, opened sessionId same]
          exact registered.enabled enabled sessionId
  · exact registered.of_confined (IdentifyProtocol.received_confined utils codec stepped)
  · obtain ⟨rfl, -⟩ := IdentifyProtocol.step_notify_eq utils codec self stepped
    exact registered.of_confined (IdentifyProtocol.notify_confined now 0)
  · have closed : lifecycle'.live session.id = none := by rw [live, Function.update_same]
    have opened : ∀ sessionId, sessionId ≠ session.id → lifecycle'.live sessionId = lifecycle.live sessionId :=
      fun sessionId differs => by rw [live, Function.update_noteq differs]
    obtain ⟨disconnected, -⟩ := IdentifyProtocol.step_disconnected_eq utils codec self stepped
    have keyed : ∀ sessionId open_, lifecycle'.live sessionId = some open_ → sessionId ≠ session.id :=
      fun sessionId open_ found same => by rw [same, closed] at found; cases found
    rcases IdentifyProtocol.disconnected_cases disconnected with ⟨-, -, rfl⟩ | ⟨disabled, rfl⟩
    · refine ⟨fun sessionId open_ found hasKey => ?_, fun enabled sessionId => ?_⟩
      · have differs := keyed sessionId open_ found
        rw [AList.lookup_erase_ne differs]
        exact registered.keyed sessionId open_ ((opened sessionId differs).symm.trans found) hasKey
      · by_cases same : sessionId = session.id
        · subst same; simp [closed]
        · rw [AList.lookup_erase_ne same, opened sessionId same]
          exact registered.enabled enabled sessionId
    · refine ⟨fun sessionId open_ found hasKey => ?_, fun enabled => absurd enabled (by simp [disabled])⟩
      have differs := keyed sessionId open_ found
      exact registered.keyed sessionId open_ ((opened sessionId differs).symm.trans found) hasKey

/-- Every entry records the `connected` event that made it. -/
theorem IdentifyProtocol.connectedAt_step {event : Event} {events : List Event}
    (recorded : ∀ sessionId info, self.remoteInfos.lookup sessionId = some info →
      Event.connected info.session info.connectedAt ∈ events)
    (stepped : self.step utils codec event = some (self', actions)) :
    ∀ sessionId info, self'.remoteInfos.lookup sessionId = some info →
      Event.connected info.session info.connectedAt ∈ events ++ [event] := by
  intro sessionId info found
  rw [List.mem_append, List.mem_singleton]
  have confinedCase : ∀ session, Confined session self self' → Event.connected info.session info.connectedAt ∈ events :=
    fun _ confined => by
      obtain ⟨old, before, grows⟩ := confined.exists_of_some found
      rw [grows.session, grows.connectedAt]
      exact recorded sessionId old before
  cases event with
  | connected session now =>
      rcases IdentifyProtocol.connected_cases utils codec stepped with ⟨-, rfl, -⟩ | ⟨key, -, rfl, -⟩
      · exact .inl (recorded sessionId info found)
      · by_cases same : sessionId = session.id
        · subst same
          simp only [AList.lookup_insert, Option.some.injEq] at found
          subst found
          exact .inr rfl
        · rw [AList.lookup_insert_ne same] at found
          exact .inl (recorded sessionId info found)
  | received session data => exact .inl (confinedCase _ (IdentifyProtocol.received_confined utils codec stepped))
  | notify now =>
      obtain ⟨rfl, -⟩ := IdentifyProtocol.step_notify_eq utils codec self stepped
      exact .inl (confinedCase 0 (IdentifyProtocol.notify_confined now 0))
  | disconnected session =>
      obtain ⟨disconnected, -⟩ := IdentifyProtocol.step_disconnected_eq utils codec self stepped
      rcases IdentifyProtocol.disconnected_cases disconnected with ⟨-, -, rfl⟩ | ⟨-, rfl⟩
      · by_cases same : sessionId = session.id
        · subst same; simp at found
        · rw [AList.lookup_erase_ne same] at found
          exact .inl (recorded sessionId info found)
      · exact .inl (recorded sessionId info found)

/-- No handler panics on an event the transport can deliver, from a registered state. -/
theorem IdentifyProtocol.step_isSome {event : Event} (registered : Registered lifecycle self)
    (advanced : lifecycle.advance event = some lifecycle') : (self.step utils codec event).isSome := by
  have found : ∀ session : SessionContext, lifecycle.live session.id = some session →
      self.secioEnabled = true → (self.remoteInfos.lookup session.id).isSome := fun session open_ enabled => by
    have tracked := registered.enabled enabled session.id
    rw [open_] at tracked
    exact isSome_of_map_session tracked
  rcases Lifecycle.advance_cases advanced with
    ⟨session, now, rfl, -, -⟩ | ⟨session, data, rfl, open_, -⟩ | ⟨now, rfl, -⟩ | ⟨session, rfl, open_, -⟩
  · exact IdentifyProtocol.connected_isSome utils codec now
  · exact IdentifyProtocol.received_isSome utils codec data (found session open_)
  · rfl
  · simpa using IdentifyProtocol.disconnected_isSome (found session open_)

end Step

/-! ## Runs from `IdentifyProtocol::new` -/

section Runs

variable {T : Type} [Callback T] (utils : P2pUtils) (codec : MessageCodec)

/-- Once the protocol is off, only `connected` events do anything: the others
can be dropped from any later run. -/
theorem IdentifyProtocol.run_of_disabled : ∀ {self : IdentifyProtocol T} (events : List Event),
    self.secioEnabled = false →
      self.run utils codec events = self.run utils codec (events.filter Event.isConnected)
  | _, [], _ => rfl
  | self, event :: rest, off => by
      cases connected : event.isConnected
      · rw [List.filter_cons_of_neg (by simp [connected]), IdentifyProtocol.run_cons,
          IdentifyProtocol.step_quiet_of_disabled utils codec off connected,
          ← IdentifyProtocol.run_of_disabled rest off]
        simp
      · rw [List.filter_cons_of_pos connected, IdentifyProtocol.run_cons, IdentifyProtocol.run_cons]
        cases stepped : self.step utils codec event with
        | none => rfl
        | some after =>
            obtain ⟨middle, first⟩ := after
            rw [Option.some_bind, Option.some_bind,
              IdentifyProtocol.run_of_disabled rest (IdentifyProtocol.disabled_step utils codec off stepped)]

/-- What holds after every run of `IdentifyProtocol::new` that the transport can
deliver: the state invariants, and the protocol is on exactly while every
session so far connected with a key. -/
structure RegistryInvariant (events : List Event) (lifecycle : Lifecycle) (protocol : IdentifyProtocol T) :
    Prop where
  wellFormed : protocol.WellFormed
  registered : Registered lifecycle protocol
  secioEnabled : protocol.secioEnabled = true ↔
    ∀ session now, Event.connected session now ∈ events → session.remotePubkey.isSome
  connectedAt : ∀ sessionId info, protocol.remoteInfos.lookup sessionId = some info →
    Event.connected info.session info.connectedAt ∈ events

theorem IdentifyProtocol.Runs.registryInvariant (callback : T) {events : List Event}
    {self : IdentifyProtocol T} {actions : List Action}
    (reached : IdentifyProtocol.Runs utils codec (IdentifyProtocol.new callback) events self actions)
    {lifecycle : Lifecycle} (admissible : Lifecycle.closed.run events = some lifecycle) :
    RegistryInvariant events lifecycle self := by
  induction reached generalizing lifecycle with
  | nil =>
      cases admissible
      exact ⟨⟨rfl, by simp [IdentifyProtocol.new]⟩,
        ⟨fun _ _ closed => (by cases closed), fun _ _ => by simp [IdentifyProtocol.new, Lifecycle.closed]⟩,
        by simp [IdentifyProtocol.new], fun _ _ found => by simp [IdentifyProtocol.new] at found⟩
  | snoc _ stepped ih =>
      rw [Lifecycle.run_append] at admissible
      obtain ⟨before, earlier, advanced⟩ := Option.bind_eq_some.mp admissible
      have invariant := ih earlier
      refine ⟨IdentifyProtocol.wellFormed_step utils codec invariant.wellFormed stepped,
        IdentifyProtocol.registered_step utils codec invariant.registered advanced stepped, ?_,
        IdentifyProtocol.connectedAt_step utils codec invariant.connectedAt stepped⟩
      rw [IdentifyProtocol.secioEnabled_step utils codec stepped, invariant.secioEnabled]
      simp only [List.mem_append, List.mem_singleton, or_imp, forall_and, eq_comm]

/-- No handler panics: every run the transport can deliver goes through, and
while the protocol is on every open session has its entry. -/
theorem identify_run_total (callback : T) {events : List Event} {lifecycle : Lifecycle}
    (admissible : Lifecycle.closed.run events = some lifecycle) :
    ∃ self actions, (IdentifyProtocol.new callback).run utils codec events = some (self, actions) ∧
      (self.secioEnabled = true → ∀ sessionId session, lifecycle.live sessionId = some session →
        (self.remoteInfos.lookup sessionId).isSome) := by
  induction events using List.reverseRecOn generalizing lifecycle with
  | nil =>
      cases admissible
      exact ⟨_, _, rfl, fun _ _ _ closed => by cases closed⟩
  | append_singleton events event ih =>
      rw [Lifecycle.run_append] at admissible
      obtain ⟨before, earlier, advanced⟩ := Option.bind_eq_some.mp admissible
      obtain ⟨self, actions, ran, -⟩ := ih earlier
      have reached := (IdentifyProtocol.run_eq_some_iff utils codec).mp ran
      obtain ⟨⟨self', actions'⟩, stepped⟩ := Option.isSome_iff_exists.mp <|
        IdentifyProtocol.step_isSome utils codec
          (reached.registryInvariant utils codec callback earlier).registered advanced
      have extended := (reached.snoc stepped).registryInvariant utils codec callback
        (by rw [Lifecycle.run_append, earlier]; exact advanced)
      refine ⟨self', actions ++ actions', by simp [IdentifyProtocol.run_append, ran, stepped],
        fun enabled sessionId session open_ => ?_⟩
      have tracked := extended.registered.enabled enabled sessionId
      rw [open_] at tracked
      exact isSome_of_map_session tracked

/-- On every run the transport can deliver, `received` calls
`received_identify` only for a session with a key: it calls it only while the
protocol is on, and then every open session is the one its entry records. -/
theorem IdentifyProtocol.receivedIdentify_keyed (callback : T) {events : List Event} {lifecycle : Lifecycle}
    {self self' : IdentifyProtocol T} {actions actions' : List Action}
    (admissible : Lifecycle.closed.run events = some lifecycle)
    (ran : (IdentifyProtocol.new callback).run utils codec events = some (self, actions))
    {session : SessionContext} {data identify : Bytes} (open_ : lifecycle.live session.id = some session)
    (received : self.received utils codec session data = some (self', actions'))
    (called : Action.receivedIdentify session.id identify ∈ actions') : session.remotePubkey.isSome := by
  cases enabled : self.secioEnabled
  · rw [IdentifyProtocol.received_disabled utils codec enabled] at received
    cases received
    cases called
  · have invariant := ((IdentifyProtocol.run_eq_some_iff utils codec).mp ran).registryInvariant
      utils codec callback admissible
    have tracked := invariant.registered.enabled enabled session.id
    rw [open_, Option.map_eq_some'] at tracked
    obtain ⟨info, found, rfl⟩ := tracked
    simp [(invariant.wellFormed.entries _ info found).key]

/-- A session without a key connects, then one with a key connects and disconnects. -/
def keylessThenKeyed : List Event :=
  [.connected keylessSession 0, .connected keyedSession 0, .disconnected keyedSession]

theorem identify_run_total_keylessThenKeyed :
    ∃ lifecycle, Lifecycle.closed.run keylessThenKeyed = some lifecycle ∧
      ∃ self actions, (IdentifyProtocol.new FixedAnswers.permissive).run P2pUtils.unresolved
          (MessageCodec.table []) keylessThenKeyed = some (self, actions) ∧
        (self.secioEnabled = true → ∀ sessionId session, lifecycle.live sessionId = some session →
          (self.remoteInfos.lookup sessionId).isSome) :=
  ⟨_, rfl, identify_run_total P2pUtils.unresolved (MessageCodec.table []) FixedAnswers.permissive rfl⟩

end Runs

end Ckb.Network
