import Ckb.Network.Handshake

/-!
# Session isolation

What the handlers do for one session depends on the rest of the state only
through the session's view: the switch `secio_enabled`, the address filter, the
session's own entry and the callback's answers. Events of other sessions keep
that view as long as they carry a public key; a session that connects without
one turns the protocol off for every session.

So a run and the run of the session's own events and the ticks alone take the
same actions for the session and leave it the same entry, when the callback's
answers do not depend on the calls made before it. Two runs that agree on the
session's events agree on everything they do for it.
-/

set_option autoImplicit false

namespace Ckb.Network

open Ckb.Packed

/-! ## Callbacks whose answers do not change -/

section Answers

variable {T : Type} [Callback T]

/-- Two states of a callback that give every hook the same answer. -/
structure Callback.Alike (state other : T) : Prop where
  receivedIdentify : ∀ session identify,
    (Callback.receivedIdentify state session identify).2 = (Callback.receivedIdentify other session identify).2
  identify : (Callback.identify state).2 = (Callback.identify other).2
  localListenAddrs : (Callback.localListenAddrs state).2 = (Callback.localListenAddrs other).2
  addObservedAddr : ∀ peer addr ty,
    (Callback.addObservedAddr state peer addr ty).2 = (Callback.addObservedAddr other peer addr ty).2
  misbehave : ∀ peer kind, (Callback.misbehave state peer kind).2 = (Callback.misbehave other peer kind).2

theorem Callback.Alike.refl (state : T) : Callback.Alike state state :=
  ⟨fun _ _ => rfl, rfl, rfl, fun _ _ _ => rfl, fun _ _ => rfl⟩

theorem Callback.Alike.symm {state other : T} (alike : Callback.Alike state other) :
    Callback.Alike other state :=
  ⟨fun _ _ => (alike.receivedIdentify _ _).symm, alike.identify.symm, alike.localListenAddrs.symm,
    fun _ _ _ => (alike.addObservedAddr _ _ _).symm, fun _ _ => (alike.misbehave _ _).symm⟩

theorem Callback.Alike.trans {first second third : T} (early : Callback.Alike first second)
    (late : Callback.Alike second third) : Callback.Alike first third :=
  ⟨fun _ _ => (early.receivedIdentify _ _).trans (late.receivedIdentify _ _),
    early.identify.trans late.identify, early.localListenAddrs.trans late.localListenAddrs,
    fun _ _ _ => (early.addObservedAddr _ _ _).trans (late.addObservedAddr _ _ _),
    fun _ _ => (early.misbehave _ _).trans (late.misbehave _ _)⟩

/-- States moved on from two alike states, each answering as the one it left,
answer alike. -/
theorem Callback.Alike.across {state other moved moved' : T} (alike : Callback.Alike state other)
    (left : Callback.Alike moved state) (right : Callback.Alike moved' other) : Callback.Alike moved moved' :=
  left.trans (alike.trans right.symm)

end Answers

/-- A callback whose answers do not depend on the calls made before: every hook
leaves a state that answers as the old one did. -/
structure Callback.Steady (T : Type) [Callback T] : Prop where
  receivedIdentify : ∀ (state : T) session identify,
    Callback.Alike (Callback.receivedIdentify state session identify).1 state
  identify : ∀ state : T, Callback.Alike (Callback.identify state).1 state
  localListenAddrs : ∀ state : T, Callback.Alike (Callback.localListenAddrs state).1 state
  addRemoteListenAddrs : ∀ (state : T) peer addrs,
    Callback.Alike (Callback.addRemoteListenAddrs state peer addrs) state
  addObservedAddr : ∀ (state : T) peer addr ty,
    Callback.Alike (Callback.addObservedAddr state peer addr ty).1 state
  misbehave : ∀ (state : T) peer kind, Callback.Alike (Callback.misbehave state peer kind).1 state

theorem FixedAnswers.steady : Callback.Steady FixedAnswers :=
  ⟨fun _ _ _ => .refl _, fun _ => .refl _, fun _ => .refl _, fun _ _ _ => .refl _,
    fun _ _ _ _ => .refl _, fun _ _ _ => .refl _⟩

/-! ## What every hook keeps -/

section Preserves

variable {T : Type} [Callback T]

/-- A property of the callback's state that every hook keeps. -/
structure Callback.Preserves (P : T → Prop) : Prop where
  receivedIdentify : ∀ state session identify, P state → P (Callback.receivedIdentify state session identify).1
  identify : ∀ state, P state → P (Callback.identify state).1
  localListenAddrs : ∀ state, P state → P (Callback.localListenAddrs state).1
  addRemoteListenAddrs : ∀ state peer addrs, P state → P (Callback.addRemoteListenAddrs state peer addrs)
  addObservedAddr : ∀ state peer addr ty, P state → P (Callback.addObservedAddr state peer addr ty).1
  misbehave : ∀ state peer kind, P state → P (Callback.misbehave state peer kind).1

/-- Under a steady callback, answering as a given state does is kept. -/
theorem Callback.Steady.preserves (steady : Callback.Steady T) (reference : T) :
    Callback.Preserves fun state => Callback.Alike state reference :=
  ⟨fun _ _ _ alike => (steady.receivedIdentify _ _ _).trans alike, fun _ alike => (steady.identify _).trans alike,
    fun _ alike => (steady.localListenAddrs _).trans alike,
    fun _ _ _ alike => (steady.addRemoteListenAddrs _ _ _).trans alike,
    fun _ _ _ _ alike => (steady.addObservedAddr _ _ _ _).trans alike,
    fun _ _ _ alike => (steady.misbehave _ _ _).trans alike⟩

variable (utils : P2pUtils) (codec : MessageCodec) {P : T → Prop} (preserves : Callback.Preserves P)
variable {self self' : IdentifyProtocol T} {session : SessionContext} {actions : List Action}

include preserves

theorem IdentifyProtocol.processListens_preserves {listens : List Multiaddr} {stage : Stage T}
    (processed : self.processListens utils session listens = some stage) (holds : P self.callback) :
    P stage.1.callback := by
  obtain ⟨info, -, ⟨-, rfl⟩ | ⟨-, -, rfl⟩ | ⟨-, -, rfl⟩⟩ := IdentifyProtocol.processListens_cases utils processed
  · exact preserves.misbehave _ _ _ holds
  · exact preserves.misbehave _ _ _ holds
  · exact preserves.addRemoteListenAddrs _ _ _ holds

theorem IdentifyProtocol.processObserved_preserves {observed : Multiaddr} {stage : Stage T}
    (processed : self.processObserved utils session observed = some stage) (holds : P self.callback) :
    P stage.1.callback := by
  obtain ⟨info, -, ⟨-, rfl⟩ | ⟨-, -, rfl⟩ | ⟨-, -, -, rfl⟩ | ⟨-, -, -, rfl⟩⟩ :=
    IdentifyProtocol.processObserved_cases utils processed
  · exact preserves.misbehave _ _ _ holds
  · exact holds
  · exact preserves.addObservedAddr _ _ _ _ holds
  · exact preserves.addObservedAddr _ _ _ _ holds

theorem IdentifyProtocol.processMessage_preserves {message : IdentifyMessage} {stage : Stage T}
    (processed : self.processMessage utils session message = some stage) (holds : P self.callback) :
    P stage.1.callback :=
  Stage.andThen_preserves (fun middle _ => P middle.callback) processed
    (fun _ listened => Stage.andThen_preserves (fun middle _ => P middle.callback) listened
      (fun _ identified => Option.some.inj identified ▸ preserves.receivedIdentify _ _ _ holds)
      fun _ _ _ middle listens => IdentifyProtocol.processListens_preserves utils preserves listens middle)
    fun _ _ _ middle observes => IdentifyProtocol.processObserved_preserves utils preserves observes middle

theorem IdentifyProtocol.received_preserves {data : Bytes}
    (received : self.received utils codec session data = some (self', actions)) (holds : P self.callback) :
    P self'.callback := by
  cases enabled : self.secioEnabled
  · rw [IdentifyProtocol.received_disabled utils codec enabled] at received
    cases received
    exact holds
  · cases decoded : codec.decode data with
    | none =>
        rw [IdentifyProtocol.received_undecodable utils codec enabled decoded] at received
        obtain ⟨info, -, reported⟩ := Option.map_eq_some'.mp received
        cases reported
        exact preserves.misbehave _ _ _ holds
    | some message =>
        rw [IdentifyProtocol.received_decoded utils codec enabled decoded] at received
        obtain ⟨stage, processed, finished⟩ := Option.map_eq_some'.mp received
        cases finished
        exact IdentifyProtocol.processMessage_preserves utils preserves processed holds

theorem IdentifyProtocol.identifyMessage_preserves (self : IdentifyProtocol T) (session : SessionContext)
    (holds : P self.callback) : P (self.identifyMessage utils session).1 :=
  preserves.identify _ (preserves.localListenAddrs _ holds)

theorem IdentifyProtocol.checkTimeouts_preserves (now : Instant) :
    ∀ (self : IdentifyProtocol T) (entries : List (Sigma fun _ : SessionId => RemoteInfo)),
      P self.callback → P (self.checkTimeouts now entries).1.callback
  | self, [], holds => holds
  | self, ⟨sessionId, info⟩ :: rest, holds => by
      cases timedOut : info.timedOut now
      · rw [IdentifyProtocol.checkTimeouts_waiting timedOut]
        exact IdentifyProtocol.checkTimeouts_preserves now self rest holds
      · rw [IdentifyProtocol.checkTimeouts_timedOut timedOut]
        exact IdentifyProtocol.checkTimeouts_preserves now _ rest (preserves.misbehave _ _ _ holds)

end Preserves

/-! ## The view of one session -/

/-- The actions made on behalf of session `sessionId`, in order. -/
def actionsFor (sessionId : SessionId) (actions : List Action) : List Action :=
  actions.filter (·.session == sessionId)

/-- The events whose handling reads or writes session `sessionId`: its own and
every tick. -/
def Event.concerns (sessionId : SessionId) : Event → Bool
  | .connected session _ => session.id == sessionId
  | .received session _ => session.id == sessionId
  | .notify _ => true
  | .disconnected session => session.id == sessionId

/-- Every session other than `sessionId` that connects in `events` has a public key. -/
def OthersKeyed (sessionId : SessionId) (events : List Event) : Prop :=
  ∀ session now, Event.connected session now ∈ events → session.id ≠ sessionId →
    session.remotePubkey.isSome

theorem OthersKeyed.mono {sessionId : SessionId} {events events' : List Event}
    (keyed : OthersKeyed sessionId events) (sub : events' ⊆ events) : OthersKeyed sessionId events' :=
  fun session now mem => keyed session now (sub mem)

@[simp] theorem actionsFor_append (sessionId : SessionId) (first second : List Action) :
    actionsFor sessionId (first ++ second) = actionsFor sessionId first ++ actionsFor sessionId second :=
  List.filter_append _ _

theorem actionsFor_foreign {sessionId : SessionId} {actions : List Action}
    (foreign : ∀ action ∈ actions, action.session ≠ sessionId) : actionsFor sessionId actions = [] :=
  List.filter_eq_nil_iff.mpr fun action mem => by simpa using foreign action mem

theorem rel_mono {α β : Type} {r r' : α → β → Prop} {first : Option α} {second : Option β}
    (related : Option.Rel r first second) (weaker : ∀ {a b}, r a b → r' a b) :
    Option.Rel r' first second := by
  cases related with
  | none => exact .none
  | some holds => exact .some (weaker holds)

theorem rel_map {α β γ δ : Type} {r : α → β → Prop} {r' : γ → δ → Prop} {f : α → γ} {g : β → δ}
    {first : Option α} {second : Option β} (related : Option.Rel r first second)
    (preserved : ∀ {a b}, r a b → r' (f a) (g b)) : Option.Rel r' (first.map f) (second.map g) := by
  cases related with
  | none => exact .none
  | some holds => exact .some (preserved holds)

theorem rel_some {α β : Type} {r : α → β → Prop} {first : Option α} {second : Option β} {a : α}
    (related : Option.Rel r first second) (found : first = some a) : ∃ b, second = some b ∧ r a b := by
  cases related with
  | none => cases found
  | some holds => cases found; exact ⟨_, rfl, holds⟩

section View

variable {T : Type} [Callback T]

/-- What the handlers read when they act for session `sessionId`: the switch,
the address filter, the session's entry and the callback's answers. -/
structure SameView (sessionId : SessionId) (left right : IdentifyProtocol T) : Prop where
  secioEnabled : left.secioEnabled = right.secioEnabled
  globalIpOnly : left.globalIpOnly = right.globalIpOnly
  entry : left.remoteInfos.lookup sessionId = right.remoteInfos.lookup sessionId
  callback : Callback.Alike left.callback right.callback

theorem SameView.refl (sessionId : SessionId) (self : IdentifyProtocol T) : SameView sessionId self self :=
  ⟨rfl, rfl, rfl, .refl _⟩

theorem SameView.symm {sessionId : SessionId} {left right : IdentifyProtocol T}
    (view : SameView sessionId left right) : SameView sessionId right left :=
  ⟨view.secioEnabled.symm, view.globalIpOnly.symm, view.entry.symm, view.callback.symm⟩

theorem SameView.trans {sessionId : SessionId} {first second third : IdentifyProtocol T}
    (early : SameView sessionId first second) (late : SameView sessionId second third) :
    SameView sessionId first third :=
  ⟨early.secioEnabled.trans late.secioEnabled, early.globalIpOnly.trans late.globalIpOnly,
    early.entry.trans late.entry, early.callback.trans late.callback⟩

/-- Both sides' callbacks moved on, each answering as before. -/
theorem SameView.withCallback {sessionId : SessionId} {left right : IdentifyProtocol T}
    (view : SameView sessionId left right) {moved moved' : T} (leftMoved : Callback.Alike moved left.callback)
    (rightMoved : Callback.Alike moved' right.callback) :
    SameView sessionId { left with callback := moved } { right with callback := moved' } :=
  ⟨view.secioEnabled, view.globalIpOnly, view.entry, view.callback.across leftMoved rightMoved⟩

/-- Two results of a handler that did the same and leave the session the same view. -/
def Agrees {α : Type} (sessionId : SessionId) (result other : IdentifyProtocol T × α) : Prop :=
  SameView sessionId result.1 other.1 ∧ result.2 = other.2

theorem IdentifyProtocol.disconnected_agrees {session : SessionContext} {left right : IdentifyProtocol T}
    (view : SameView session.id left right) :
    Option.Rel (SameView session.id) (left.disconnected session) (right.disconnected session) := by
  unfold IdentifyProtocol.disconnected
  rw [view.entry]
  split_ifs with enabled enabled' enabled'
  · cases right.remoteInfos.lookup session.id with
    | none => exact .none
    | some info => exact .some ⟨view.secioEnabled, view.globalIpOnly, by simp, view.callback⟩
  · exact absurd (view.secioEnabled ▸ enabled) enabled'
  · exact absurd (view.secioEnabled ▸ enabled') enabled
  · exact .some view

theorem Stage.andThen_agrees {sessionId : SessionId} {first first' : Option (Stage T)}
    {next next' : IdentifyProtocol T → Option (Stage T)} (firsts : Option.Rel (Agrees sessionId) first first')
    (nexts : ∀ {middle middle'}, SameView sessionId middle middle' →
      Option.Rel (Agrees sessionId) (next middle) (next' middle')) :
    Option.Rel (Agrees sessionId) (Stage.andThen first next) (Stage.andThen first' next') := by
  cases firsts with
  | none => exact .none
  | @some stage stage' agree =>
      obtain ⟨middle, actions, result⟩ := stage
      obtain ⟨middle', actions', result'⟩ := stage'
      obtain ⟨view, same⟩ := agree
      cases same
      cases result
      · exact rel_map (nexts view) fun agree => ⟨agree.1, by simp only [agree.2]⟩
      · exact .some ⟨view, rfl⟩

end View

/-! ## Handlers of the session's own events -/

theorem IdentifyProtocol.identifyMessage_snd {T : Type} [Callback T] (utils : P2pUtils)
    (self : IdentifyProtocol T) (session : SessionContext) :
    (self.identifyMessage utils session).2 =
      ⟨((Callback.localListenAddrs self.callback).2.filter (utils.reachableAddr self.globalIpOnly)).take maxAddrs,
        session.address.filter fun proto => !proto.isP2p,
        (Callback.identify (Callback.localListenAddrs self.callback).1).2⟩ := rfl

section Own

variable {T : Type} [Callback T] (utils : P2pUtils) (codec : MessageCodec) (steady : Callback.Steady T)

include steady

variable {left right : IdentifyProtocol T} {session : SessionContext}

theorem IdentifyProtocol.report_agrees {sessionId : SessionId} (view : SameView sessionId left right)
    (other : SessionId) (peer : PeerId) (kind : Misbehavior) :
    Agrees sessionId (left.report other peer kind) (right.report other peer kind) :=
  ⟨view.withCallback (steady.misbehave _ _ _) (steady.misbehave _ _ _),
    Prod.ext rfl (view.callback.misbehave peer kind)⟩

theorem IdentifyProtocol.receivedIdentify_agrees {sessionId : SessionId} (view : SameView sessionId left right)
    (identify : Bytes) :
    Agrees sessionId (left.receivedIdentify session identify) (right.receivedIdentify session identify) :=
  ⟨view.withCallback (steady.receivedIdentify _ _ _) (steady.receivedIdentify _ _ _),
    Prod.ext rfl (view.callback.receivedIdentify session identify)⟩

theorem IdentifyProtocol.processListens_agrees (view : SameView session.id left right)
    (listens : List Multiaddr) :
    Option.Rel (Agrees session.id) (left.processListens utils session listens)
      (right.processListens utils session listens) := by
  unfold IdentifyProtocol.processListens
  rw [view.entry, view.globalIpOnly]
  cases right.remoteInfos.lookup session.id with
  | none => exact .none
  | some info =>
      simp only [Option.bind_eq_bind, Option.some_bind]
      split_ifs
      · exact .some (IdentifyProtocol.report_agrees steady view _ _ _)
      · exact .some (IdentifyProtocol.report_agrees steady view _ _ _)
      · exact .some ⟨⟨view.secioEnabled, rfl, by simp [view.entry],
          view.callback.across (steady.addRemoteListenAddrs _ _ _) (steady.addRemoteListenAddrs _ _ _)⟩, rfl⟩

theorem IdentifyProtocol.processObserved_agrees (view : SameView session.id left right)
    (observed : Multiaddr) :
    Option.Rel (Agrees session.id) (left.processObserved utils session observed)
      (right.processObserved utils session observed) := by
  unfold IdentifyProtocol.processObserved
  rw [view.entry, view.globalIpOnly]
  cases right.remoteInfos.lookup session.id with
  | none => exact .none
  | some info =>
      simp only [Option.bind_eq_bind, Option.some_bind]
      rw [view.callback.addObservedAddr]
      split_ifs
      · exact .some (IdentifyProtocol.report_agrees steady view _ _ _)
      · exact .some ⟨⟨view.secioEnabled, rfl, view.entry,
          view.callback.across (steady.addObservedAddr _ _ _ _) (steady.addObservedAddr _ _ _ _)⟩, rfl⟩
      · exact .some ⟨⟨view.secioEnabled, rfl, by simp [view.entry],
          view.callback.across (steady.addObservedAddr _ _ _ _) (steady.addObservedAddr _ _ _ _)⟩, rfl⟩
      · exact .some ⟨⟨view.secioEnabled, rfl, by simp [view.entry], view.callback⟩, rfl⟩

theorem IdentifyProtocol.processMessage_agrees (view : SameView session.id left right)
    (message : IdentifyMessage) :
    Option.Rel (Agrees session.id) (left.processMessage utils session message)
      (right.processMessage utils session message) :=
  Stage.andThen_agrees
    (Stage.andThen_agrees (.some (IdentifyProtocol.receivedIdentify_agrees steady view message.identify))
      fun view => IdentifyProtocol.processListens_agrees utils steady view _)
    fun view => IdentifyProtocol.processObserved_agrees utils steady view _

theorem IdentifyProtocol.received_agrees (view : SameView session.id left right) (data : Bytes) :
    Option.Rel (Agrees session.id) (left.received utils codec session data)
      (right.received utils codec session data) := by
  cases enabled : right.secioEnabled
  · rw [IdentifyProtocol.received_disabled utils codec (view.secioEnabled.trans enabled),
      IdentifyProtocol.received_disabled utils codec enabled]
    exact .some ⟨view, rfl⟩
  · cases decoded : codec.decode data with
    | none =>
        rw [IdentifyProtocol.received_undecodable utils codec (view.secioEnabled.trans enabled) decoded,
          IdentifyProtocol.received_undecodable utils codec enabled decoded, view.entry]
        cases right.remoteInfos.lookup session.id with
        | none => exact .none
        | some info =>
            have agree := IdentifyProtocol.report_agrees steady view session.id info.peerId .invalidData
            exact .some ⟨agree.1, by simp only [agree.2]⟩
    | some message =>
        rw [IdentifyProtocol.received_decoded utils codec (view.secioEnabled.trans enabled) decoded,
          IdentifyProtocol.received_decoded utils codec enabled decoded]
        exact rel_map (IdentifyProtocol.processMessage_agrees utils steady view message)
          fun agree => ⟨agree.1, by simp only [agree.2]⟩

theorem IdentifyProtocol.identifyMessage_agrees (callbacks : Callback.Alike left.callback right.callback)
    (global : left.globalIpOnly = right.globalIpOnly) :
    (left.identifyMessage utils session).2 = (right.identifyMessage utils session).2 := by
  rw [IdentifyProtocol.identifyMessage_snd, IdentifyProtocol.identifyMessage_snd, global,
    callbacks.localListenAddrs, (callbacks.across (steady.localListenAddrs _) (steady.localListenAddrs _)).identify]

theorem IdentifyProtocol.connected_agrees (view : SameView session.id left right) (now : Instant) :
    Option.Rel (Agrees session.id) (left.connected utils codec session now)
      (right.connected utils codec session now) := by
  obtain ⟨⟨_, _⟩, leftConnected⟩ :=
    Option.isSome_iff_exists.mp
    (IdentifyProtocol.connected_isSome utils codec now : (left.connected utils codec session now).isSome)
  obtain ⟨⟨_, _⟩, rightConnected⟩ :=
    Option.isSome_iff_exists.mp
    (IdentifyProtocol.connected_isSome utils codec now : (right.connected utils codec session now).isSome)
  rw [leftConnected, rightConnected]
  refine .some ?_
  rcases IdentifyProtocol.connected_cases utils codec leftConnected with ⟨keyless, rfl, rfl⟩ | ⟨key, keyed, rfl, rfl⟩ <;>
    rcases IdentifyProtocol.connected_cases utils codec rightConnected with ⟨keyless', rfl, rfl⟩ | ⟨key', keyed', rfl, rfl⟩
  · exact ⟨⟨rfl, view.globalIpOnly, view.entry, view.callback⟩, rfl⟩
  · exact absurd (keyless.symm.trans keyed') (by simp)
  · exact absurd (keyless'.symm.trans keyed) (by simp)
  · cases keyed.symm.trans keyed'
    exact ⟨⟨view.secioEnabled, view.globalIpOnly, by simp,
      view.callback.across
        (IdentifyProtocol.identifyMessage_preserves utils (steady.preserves _) left session (.refl _))
        (IdentifyProtocol.identifyMessage_preserves utils (steady.preserves _) right session (.refl _))⟩,
      by rw [IdentifyProtocol.identifyMessage_agrees utils steady view.callback view.globalIpOnly]⟩

end Own

/-! ## The timeout loop -/

/-- What the timeout loop does for a session with entry `entry`, where the
callback answers a report as `callback` does: a `Timeout` report once the entry
has timed out, and the `disconnect` the answer asks for. -/
def timeoutActions {T : Type} [Callback T] (callback : T) (sessionId : SessionId) (now : Instant)
    (entry : Option RemoteInfo) : List Action :=
  match entry.filter (·.timedOut now) with
  | some info =>
      .misbehave sessionId info.peerId .timeout ::
        disconnectIf (Callback.misbehave callback info.peerId .timeout).2 sessionId
  | none => []

theorem actionsFor_report (sessionId key : SessionId) (peer : PeerId) (kind : Misbehavior)
    (result : MisbehaveResult) :
    actionsFor sessionId (.misbehave key peer kind :: disconnectIf result key) =
      if key = sessionId then .misbehave key peer kind :: disconnectIf result key else [] := by
  unfold disconnectIf
  by_cases same : key = sessionId <;> split <;> simp [actionsFor, Action.session, same]

section Timeouts

variable {T : Type} [Callback T] (steady : Callback.Steady T)

include steady

/-- The loop's actions for one session: those of its own entry, with the
callback's answer as at the start. -/
theorem IdentifyProtocol.checkTimeouts_actionsFor (now : Instant) (sessionId : SessionId) {reference : T} :
    ∀ (self : IdentifyProtocol T) (entries : List (Sigma fun _ : SessionId => RemoteInfo)),
      entries.NodupKeys → Callback.Alike self.callback reference →
      actionsFor sessionId (self.checkTimeouts now entries).2 =
        timeoutActions reference sessionId now (entries.dlookup sessionId)
  | self, [], _, _ => rfl
  | self, ⟨key, info⟩ :: rest, nodup, alike => by
      obtain ⟨absent, nodupRest⟩ := List.nodupKeys_cons.mp nodup
      cases timedOut : info.timedOut now
      · rw [IdentifyProtocol.checkTimeouts_waiting timedOut,
          IdentifyProtocol.checkTimeouts_actionsFor now sessionId self rest nodupRest alike]
        by_cases same : key = sessionId
        · subst same
          rw [List.dlookup_cons_eq, List.dlookup_eq_none.mpr absent]
          simp [timeoutActions, Option.filter, timedOut]
        · rw [List.dlookup_cons_ne _ _ (Ne.symm same)]
      · have later := IdentifyProtocol.checkTimeouts_actionsFor now sessionId
          (self.report key info.peerId .timeout).1 rest nodupRest
          ((steady.misbehave self.callback info.peerId .timeout).trans alike)
        rw [IdentifyProtocol.checkTimeouts_timedOut timedOut, ← List.cons_append, actionsFor_append,
          actionsFor_report, later]
        by_cases same : key = sessionId
        · subst same
          rw [List.dlookup_cons_eq, List.dlookup_eq_none.mpr absent]
          simp [timeoutActions, Option.filter, timedOut, alike.misbehave]
        · rw [List.dlookup_cons_ne _ _ (Ne.symm same), if_neg same, List.nil_append]

theorem IdentifyProtocol.notify_agrees {sessionId : SessionId} {left right : IdentifyProtocol T}
    (view : SameView sessionId left right) (now : Instant) :
    SameView sessionId (left.notify now).1 (right.notify now).1 ∧
      actionsFor sessionId (left.notify now).2 = actionsFor sessionId (right.notify now).2 := by
  unfold IdentifyProtocol.notify
  rw [← view.secioEnabled]
  split
  · exact ⟨view, rfl⟩
  · refine ⟨?_, ?_⟩
    · rw [IdentifyProtocol.checkTimeouts_eq_callback now left,
        IdentifyProtocol.checkTimeouts_eq_callback now right]
      exact view.withCallback
        (IdentifyProtocol.checkTimeouts_preserves (steady.preserves _) now _ _ (.refl _))
        (IdentifyProtocol.checkTimeouts_preserves (steady.preserves _) now _ _ (.refl _))
    · rw [IdentifyProtocol.checkTimeouts_actionsFor steady now sessionId left _ left.remoteInfos.nodupKeys
          (.refl _),
        IdentifyProtocol.checkTimeouts_actionsFor steady now sessionId right _ right.remoteInfos.nodupKeys
          view.callback.symm]
      exact congrArg _ view.entry

end Timeouts

/-! ## Events of other sessions -/

section Foreign

variable {T : Type} [Callback T] (utils : P2pUtils) (codec : MessageCodec)
variable {self self' : IdentifyProtocol T} {session : SessionContext} {actions : List Action}

variable (steady : Callback.Steady T)

include steady

/-- An event of another session, which has a key if it connects, keeps the
session's view and takes no action for it. -/
theorem IdentifyProtocol.step_foreign {event : Event} {sessionId : SessionId}
    (stepped : self.step utils codec event = some (self', actions))
    (foreign : event.concerns sessionId = false) (keyed : OthersKeyed sessionId [event]) :
    SameView sessionId self' self ∧ actionsFor sessionId actions = [] := by
  cases event with
  | connected session now =>
      have differs : session.id ≠ sessionId := by simpa [Event.concerns] using foreign
      rcases IdentifyProtocol.connected_cases utils codec stepped with ⟨keyless, -, -⟩ | ⟨key, -, rfl, rfl⟩
      · exact absurd (keyed session now (List.mem_singleton_self _) differs) (by simp [keyless])
      · exact ⟨⟨rfl, rfl, AList.lookup_insert_ne (Ne.symm differs),
          IdentifyProtocol.identifyMessage_preserves utils (steady.preserves _) self session (.refl _)⟩,
          actionsFor_foreign (by simp [Action.session, differs])⟩
  | received session data =>
      have differs : session.id ≠ sessionId := by simpa [Event.concerns] using foreign
      have confined := IdentifyProtocol.received_confined utils codec stepped
      exact ⟨⟨confined.secioEnabled, confined.globalIpOnly, confined.others _ (Ne.symm differs),
          IdentifyProtocol.received_preserves utils codec (steady.preserves _) stepped (.refl _)⟩,
        actionsFor_foreign fun action mem =>
          (IdentifyProtocol.received_own utils codec stepped action mem).1.trans_ne differs⟩
  | notify now => cases foreign
  | disconnected session =>
      have differs : session.id ≠ sessionId := by simpa [Event.concerns] using foreign
      obtain ⟨disconnected, rfl⟩ := IdentifyProtocol.step_disconnected_eq utils codec self stepped
      rcases IdentifyProtocol.disconnected_cases disconnected with ⟨-, -, rfl⟩ | ⟨-, rfl⟩
      · exact ⟨⟨rfl, rfl, AList.lookup_erase_ne (Ne.symm differs), .refl _⟩, rfl⟩
      · exact ⟨.refl _ _, rfl⟩

end Foreign

/-! ## Runs -/

section Runs

variable {T : Type} [Callback T] (utils : P2pUtils) (codec : MessageCodec) (steady : Callback.Steady T)

include steady

/-- An event of the session, or a tick, on two states with the same view of it
does the same for it. -/
theorem IdentifyProtocol.step_agrees {left right : IdentifyProtocol T} {event : Event} {sessionId : SessionId}
    (view : SameView sessionId left right) (own : event.concerns sessionId = true) :
    Option.Rel (fun result other => SameView sessionId result.1 other.1 ∧
        actionsFor sessionId result.2 = actionsFor sessionId other.2)
      (left.step utils codec event) (right.step utils codec event) := by
  cases event with
  | connected session now =>
      obtain rfl : session.id = sessionId := by simpa [Event.concerns] using own
      exact rel_mono (IdentifyProtocol.connected_agrees utils codec steady view now)
        fun agree => ⟨agree.1, by rw [agree.2]⟩
  | received session data =>
      obtain rfl : session.id = sessionId := by simpa [Event.concerns] using own
      exact rel_mono (IdentifyProtocol.received_agrees utils codec steady view data)
        fun agree => ⟨agree.1, by rw [agree.2]⟩
  | notify now => exact .some (IdentifyProtocol.notify_agrees steady view now)
  | disconnected session =>
      obtain rfl : session.id = sessionId := by simpa [Event.concerns] using own
      exact rel_map (IdentifyProtocol.disconnected_agrees view) fun view => ⟨view, rfl⟩

/-- A run, and the run of the session's own events and the ticks alone from a
state with the same view of it: the second goes through, leaves the session the
same view and takes the same actions for it. -/
theorem IdentifyProtocol.Runs.restrict {init self : IdentifyProtocol T} {events : List Event}
    {actions : List Action} (ran : IdentifyProtocol.Runs utils codec init events self actions)
    {sessionId : SessionId} (keyed : OthersKeyed sessionId events) {init' : IdentifyProtocol T}
    (view : SameView sessionId init init') :
    ∃ self' actions', init'.run utils codec (events.filter (Event.concerns sessionId)) = some (self', actions') ∧
      SameView sessionId self self' ∧ actionsFor sessionId actions = actionsFor sessionId actions' := by
  induction ran with
  | nil => exact ⟨init', [], rfl, view, rfl⟩
  | @snoc events middle after actions later event _ stepped ih =>
      obtain ⟨middle', actions', ran', view', same⟩ := ih (keyed.mono (List.subset_append_left _ _))
      have keyedEvent := keyed.mono (List.subset_append_right events [event])
      cases own : event.concerns sessionId
      · obtain ⟨kept, quiet⟩ := IdentifyProtocol.step_foreign utils codec steady stepped own keyedEvent
        refine ⟨middle', actions', ?_, kept.trans view', ?_⟩
        · simpa [List.filter_append, own] using ran'
        · rw [actionsFor_append, quiet, List.append_nil, same]
      · obtain ⟨⟨after', later'⟩, stepped', view'', same'⟩ :=
          rel_some (IdentifyProtocol.step_agrees utils codec steady view' own) stepped
        refine ⟨after', actions' ++ later', ?_, view'', ?_⟩
        · rw [List.filter_append, List.filter_singleton, own, cond_true, IdentifyProtocol.run_append, ran']
          simp [stepped']
        · rw [actionsFor_append, actionsFor_append, same, same']

/-- Session isolation. Take two runs from states with the same view of a
session, under a callback whose answers do not depend on the calls made before,
whose events of the session and ticks are the same and in the same order, and
in which every other session that connects has a public key. They take the same
actions for the session and leave it the same entry. A session without a key
breaks this: its `connected` turns the protocol off, and from then on only
`connected` events do anything, for every session. -/
theorem session_isolation {sessionId : SessionId} {init init' : IdentifyProtocol T}
    (view : SameView sessionId init init') {events events' : List Event}
    (sameOwn : events.filter (Event.concerns sessionId) = events'.filter (Event.concerns sessionId))
    (keyed : OthersKeyed sessionId events) (keyed' : OthersKeyed sessionId events')
    {self self' : IdentifyProtocol T} {actions actions' : List Action}
    (ran : init.run utils codec events = some (self, actions))
    (ran' : init'.run utils codec events' = some (self', actions')) :
    actionsFor sessionId actions = actionsFor sessionId actions' ∧
      self.remoteInfos.lookup sessionId = self'.remoteInfos.lookup sessionId ∧
      ∀ (state : IdentifyProtocol T) (session : SessionContext) now, session.remotePubkey = none →
        ∃ off, state.step utils codec (.connected session now) = some (off, [.disconnect session.id]) ∧
          off.secioEnabled = false ∧
          ∀ later, off.run utils codec later = off.run utils codec (later.filter Event.isConnected) := by
  obtain ⟨reduced, reducedActions, reducedRan, reducedView, reducedSame⟩ :=
    ((IdentifyProtocol.run_eq_some_iff utils codec).mp ran).restrict utils codec steady keyed
      (SameView.refl _ init)
  obtain ⟨reduced', reducedActions', reducedRan', reducedView', reducedSame'⟩ :=
    ((IdentifyProtocol.run_eq_some_iff utils codec).mp ran').restrict utils codec steady keyed' view.symm
  rw [sameOwn, reducedRan'] at reducedRan
  cases reducedRan
  refine ⟨reducedSame.trans reducedSame'.symm, reducedView.entry.trans reducedView'.entry.symm,
    fun state session now keyless => ⟨{ state with secioEnabled := false }, ?_, rfl,
      fun later => IdentifyProtocol.run_of_disabled utils codec later rfl⟩⟩
  simp [IdentifyProtocol.connected, keyless]

end Runs

/-- A keyed session connects and sends the empty message of `overflowTable`. -/
def soloEvents : List Event := [.connected keyedSession 0, .received keyedSession [1]]

/-- The same, with a second keyed session connecting and sending its message in
between. -/
def neighbourEvents : List Event :=
  [.connected keyedSession 0, .connected keyedSession2 0, .received keyedSession2 [1], .received keyedSession [1]]

/-- The same, with a session without a key connecting in between. -/
def keylessNeighbourEvents : List Event :=
  [.connected keyedSession 0, .connected keylessSession 0, .received keyedSession [1]]

/-- The keyed session alone, and with a keyed neighbour. -/
theorem session_isolation_keyedNeighbour :
    ∃ self actions self' actions',
      (IdentifyProtocol.new FixedAnswers.permissive).run P2pUtils.unresolved (MessageCodec.table overflowTable)
        soloEvents = some (self, actions) ∧
      (IdentifyProtocol.new FixedAnswers.permissive).run P2pUtils.unresolved (MessageCodec.table overflowTable)
        neighbourEvents = some (self', actions') ∧
      soloEvents.filter (Event.concerns keyedSession.id) = neighbourEvents.filter (Event.concerns keyedSession.id) ∧
      OthersKeyed keyedSession.id soloEvents ∧ OthersKeyed keyedSession.id neighbourEvents ∧
      actionsFor keyedSession.id actions = actionsFor keyedSession.id actions' ∧
      self.remoteInfos.lookup keyedSession.id = self'.remoteInfos.lookup keyedSession.id :=
  have solo : OthersKeyed keyedSession.id soloEvents := fun session now mem differs => by
    simp only [soloEvents, List.mem_cons, Event.connected.injEq, reduceCtorEq, List.mem_nil_iff, or_false] at mem
    exact absurd (congrArg SessionContext.id mem.1) differs
  have neighbour : OthersKeyed keyedSession.id neighbourEvents := fun session now mem _ => by
    simp only [neighbourEvents, List.mem_cons, Event.connected.injEq, reduceCtorEq, List.mem_nil_iff,
      or_false] at mem
    rcases mem with ⟨rfl, -⟩ | ⟨rfl, -⟩ <;> rfl
  have isolated := @session_isolation _ _ P2pUtils.unresolved (MessageCodec.table overflowTable)
    FixedAnswers.steady keyedSession.id _ _ (SameView.refl _ (IdentifyProtocol.new FixedAnswers.permissive))
    soloEvents neighbourEvents rfl solo neighbour _ _ _ _ rfl rfl
  ⟨_, _, _, _, rfl, rfl, rfl, solo, neighbour, isolated.1, isolated.2.1⟩

/-- A session without a key connects between a keyed session's `connected` and
its message. The message is then dropped, where without the other session it is
processed. -/
theorem session_isolation_keylessNeighbour :
    soloEvents.filter (Event.concerns keyedSession.id) =
      keylessNeighbourEvents.filter (Event.concerns keyedSession.id) ∧
    ((IdentifyProtocol.new FixedAnswers.permissive).run P2pUtils.unresolved (MessageCodec.table overflowTable)
        soloEvents).map (fun ran => actionsFor keyedSession.id ran.2) =
      some [.quickSendMessage keyedSession.id [1], .receivedIdentify keyedSession.id [],
        .addRemoteListenAddrs keyedSession.id ⟨[]⟩ []] ∧
    ((IdentifyProtocol.new FixedAnswers.permissive).run P2pUtils.unresolved (MessageCodec.table overflowTable)
        keylessNeighbourEvents).map (fun ran => actionsFor keyedSession.id ran.2) =
      some [.quickSendMessage keyedSession.id [1]] :=
  ⟨rfl, rfl, rfl⟩

end Ckb.Network
