import Ckb.Network.Protocol

/-!
# What each handler does

One lemma per handler that says everything it can do to the registry and the
flags, and which actions it can take. Later results case on these and never
unfold a handler again.
-/

set_option autoImplicit false

namespace Ckb.Network

open Ckb.Packed

/-! ## Updating an entry in place -/

section Replace

variable (session : SessionId) (info : RemoteInfo)

private theorem kreplace_cons (key : SessionId) (value : RemoteInfo)
    (rest : List (Sigma fun _ : SessionId => RemoteInfo)) :
    (⟨key, value⟩ :: rest).kreplace session info =
      if session = key then ⟨session, info⟩ :: rest else ⟨key, value⟩ :: rest.kreplace session info := by
  unfold List.kreplace
  split_ifs with same
  · refine List.lookmap_cons_some _ _ ?_
    simp [same]
  · refine List.lookmap_cons_none _ _ ?_
    simp [same]

private theorem dlookup_kreplace_self :
    ∀ entries : List (Sigma fun _ : SessionId => RemoteInfo),
      (entries.kreplace session info).dlookup session = (entries.dlookup session).map fun _ => info
  | [] => rfl
  | ⟨key, value⟩ :: rest => by
      rw [kreplace_cons]
      by_cases same : session = key
      · subst same; simp [List.dlookup_cons_eq]
      · rw [if_neg same, List.dlookup_cons_ne _ _ same, List.dlookup_cons_ne _ _ same]
        exact dlookup_kreplace_self rest

private theorem dlookup_kreplace_ne {other : SessionId} (differs : other ≠ session) :
    ∀ entries : List (Sigma fun _ : SessionId => RemoteInfo),
      (entries.kreplace session info).dlookup other = entries.dlookup other
  | [] => rfl
  | ⟨key, value⟩ :: rest => by
      rw [kreplace_cons]
      by_cases same : session = key
      · subst same
        rw [if_pos rfl, List.dlookup_cons_ne _ _ differs, List.dlookup_cons_ne _ _ differs]
      · rw [if_neg same]
        by_cases found : other = key
        · subst found; simp [List.dlookup_cons_eq]
        · rw [List.dlookup_cons_ne _ _ found, List.dlookup_cons_ne _ _ found]
          exact dlookup_kreplace_ne differs rest

@[simp] theorem lookup_replace_self (infos : RemoteInfos) :
    (infos.replace session info).lookup session = (infos.lookup session).map fun _ => info :=
  dlookup_kreplace_self session info infos.entries

@[simp] theorem lookup_replace_ne {other : SessionId} (differs : other ≠ session)
    (infos : RemoteInfos) : (infos.replace session info).lookup other = infos.lookup other :=
  dlookup_kreplace_ne session info differs infos.entries

end Replace

theorem filter_entries_key (infos : RemoteInfos) (session : SessionId) (p : RemoteInfo → Bool) :
    infos.entries.filter (fun entry => entry.1 = session ∧ p entry.2) =
      ((infos.lookup session).filter p).toList.map (⟨session, ·⟩) := by
  obtain ⟨entries, nodup⟩ := infos
  show entries.filter _ = ((entries.dlookup session).filter p).toList.map _
  induction entries with
  | nil => rfl
  | cons entry rest ih =>
      obtain ⟨absent, nodupRest⟩ := List.nodupKeys_cons.mp nodup
      obtain ⟨key, info⟩ := entry
      by_cases same : key = session
      · subst same
        have none : rest.filter (fun entry => entry.1 = key ∧ p entry.2) = [] :=
          List.filter_eq_nil_iff.mpr fun entry member matched =>
            absent (by simpa [(of_decide_eq_true matched).1] using List.mem_keys_of_mem member)
        rw [List.filter_cons, none, List.dlookup_cons_eq]
        cases matched : p info <;> simp [Option.filter, matched]
      · rw [List.filter_cons, List.dlookup_cons_ne _ _ (Ne.symm same)]
        simpa [same] using ih nodupRest

/-! ## Write-once entries -/

/-- `new` is `old` with at most its missing addresses filled in. -/
structure RemoteInfo.Grows (old new : RemoteInfo) : Prop where
  peerId : new.peerId = old.peerId
  session : new.session = old.session
  connectedAt : new.connectedAt = old.connectedAt
  timeout : new.timeout = old.timeout
  listenAddrs : old.listenAddrs.isSome → new.listenAddrs = old.listenAddrs
  observedAddr : old.observedAddr.isSome → new.observedAddr = old.observedAddr

theorem RemoteInfo.Grows.refl (info : RemoteInfo) : info.Grows info :=
  ⟨rfl, rfl, rfl, rfl, fun _ => rfl, fun _ => rfl⟩

theorem RemoteInfo.Grows.trans {first second third : RemoteInfo} (early : first.Grows second)
    (late : second.Grows third) : first.Grows third where
  peerId := late.peerId.trans early.peerId
  session := late.session.trans early.session
  connectedAt := late.connectedAt.trans early.connectedAt
  timeout := late.timeout.trans early.timeout
  listenAddrs filled := by
    rw [late.listenAddrs (by rw [early.listenAddrs filled]; exact filled), early.listenAddrs filled]
  observedAddr filled := by
    rw [late.observedAddr (by rw [early.observedAddr filled]; exact filled),
      early.observedAddr filled]

/-- The registry entry of a session either stays absent or grows. -/
def EntryGrows (before after : Option RemoteInfo) : Prop :=
  Option.Rel RemoteInfo.Grows before after

theorem EntryGrows.refl (entry : Option RemoteInfo) : EntryGrows entry entry := by
  cases entry
  · exact .none
  · exact .some (RemoteInfo.Grows.refl _)

theorem EntryGrows.trans {first second third : Option RemoteInfo} (early : EntryGrows first second)
    (late : EntryGrows second third) : EntryGrows first third := by
  cases early with
  | none => exact late
  | some grew => cases late with
    | some grew' => exact .some (grew.trans grew')

section Confined

variable {T : Type}

/-- A handler acting for `session` changed nothing but the callback and that
session's entry, which only grew. -/
structure Confined (session : SessionId) (before after : IdentifyProtocol T) : Prop where
  secioEnabled : after.secioEnabled = before.secioEnabled
  globalIpOnly : after.globalIpOnly = before.globalIpOnly
  others : ∀ other, other ≠ session → after.remoteInfos.lookup other = before.remoteInfos.lookup other
  entry : EntryGrows (before.remoteInfos.lookup session) (after.remoteInfos.lookup session)

theorem Confined.refl (session : SessionId) (self : IdentifyProtocol T) : Confined session self self :=
  ⟨rfl, rfl, fun _ _ => rfl, EntryGrows.refl _⟩

theorem Confined.trans {session : SessionId} {first second third : IdentifyProtocol T}
    (early : Confined session first second) (late : Confined session second third) :
    Confined session first third :=
  ⟨late.secioEnabled.trans early.secioEnabled, late.globalIpOnly.trans early.globalIpOnly,
    fun other differs => (late.others other differs).trans (early.others other differs),
    early.entry.trans late.entry⟩

theorem Confined.of_remoteInfos {session : SessionId} {before after : IdentifyProtocol T}
    (secio : after.secioEnabled = before.secioEnabled) (global : after.globalIpOnly = before.globalIpOnly)
    (same : after.remoteInfos = before.remoteInfos) : Confined session before after :=
  ⟨secio, global, fun _ _ => by rw [same], by rw [same]; exact EntryGrows.refl _⟩

/-- Filling in a missing part of an entry is confined to its session. -/
theorem Confined.of_replace {session : SessionId} {before after : IdentifyProtocol T} {info new : RemoteInfo}
    (found : before.remoteInfos.lookup session = some info) (grows : info.Grows new)
    (secio : after.secioEnabled = before.secioEnabled) (global : after.globalIpOnly = before.globalIpOnly)
    (stored : after.remoteInfos = before.remoteInfos.replace session new) :
    Confined session before after :=
  ⟨secio, global, fun other differs => by rw [stored, lookup_replace_ne _ _ differs],
    by rw [stored, lookup_replace_self, found]; exact .some grows⟩

theorem Confined.entryGrows {session : SessionId} {before after : IdentifyProtocol T}
    (confined : Confined session before after) (other : SessionId) :
    EntryGrows (before.remoteInfos.lookup other) (after.remoteInfos.lookup other) := by
  by_cases same : other = session
  · subst same; exact confined.entry
  · rw [confined.others other same]; exact EntryGrows.refl _

end Confined

theorem EntryGrows.isSome {before after : Option RemoteInfo} (grows : EntryGrows before after) :
    after.isSome = before.isSome := by
  cases grows <;> rfl

theorem EntryGrows.map_session {before after : Option RemoteInfo} (grows : EntryGrows before after) :
    after.map (·.session) = before.map (·.session) := by
  cases grows with
  | none => rfl
  | some grew => simp [grew.session]

/-! ## Reports and stages -/

section Stages

variable {T : Type} [Callback T] (utils : P2pUtils)
variable {self : IdentifyProtocol T} {session : SessionContext}

@[simp] theorem IdentifyProtocol.report_remoteInfos (sessionId : SessionId) (peer : PeerId)
    (kind : Misbehavior) : (self.report sessionId peer kind).1.remoteInfos = self.remoteInfos := rfl

@[simp] theorem IdentifyProtocol.report_secioEnabled (sessionId : SessionId) (peer : PeerId)
    (kind : Misbehavior) : (self.report sessionId peer kind).1.secioEnabled = self.secioEnabled := rfl

@[simp] theorem IdentifyProtocol.report_globalIpOnly (sessionId : SessionId) (peer : PeerId)
    (kind : Misbehavior) : (self.report sessionId peer kind).1.globalIpOnly = self.globalIpOnly := rfl

@[simp] theorem IdentifyProtocol.report_actions (sessionId : SessionId) (peer : PeerId)
    (kind : Misbehavior) : (self.report sessionId peer kind).2.1 = [.misbehave sessionId peer kind] :=
  rfl

@[simp] theorem IdentifyProtocol.report_result (sessionId : SessionId) (peer : PeerId)
    (kind : Misbehavior) :
    (self.report sessionId peer kind).2.2 = (Callback.misbehave self.callback peer kind).2 := rfl

theorem IdentifyProtocol.report_confined (sessionId other : SessionId) (peer : PeerId)
    (kind : Misbehavior) : Confined other self (self.report sessionId peer kind).1 :=
  Confined.of_remoteInfos rfl rfl rfl

theorem IdentifyProtocol.processListens_cases {listens : List Multiaddr} {stage : Stage T}
    (processed : self.processListens utils session listens = some stage) :
    ∃ info, self.remoteInfos.lookup session.id = some info ∧
      ((info.listenAddrs.isSome ∧ stage = self.report session.id info.peerId .duplicateListenAddrs) ∨
        (info.listenAddrs = none ∧ maxAddrs < listens.length ∧
          stage = self.report session.id info.peerId (.tooManyAddresses listens.length)) ∨
        (info.listenAddrs = none ∧ listens.length ≤ maxAddrs ∧
          stage = ({ self with
              callback := Callback.addRemoteListenAddrs self.callback info.peerId
                (listens.filter (utils.reachableAddr self.globalIpOnly))
              remoteInfos := self.remoteInfos.replace session.id
                { info with listenAddrs := some (listens.filter (utils.reachableAddr self.globalIpOnly)) } },
            [.addRemoteListenAddrs session.id info.peerId
              (listens.filter (utils.reachableAddr self.globalIpOnly))], .continue))) := by
  unfold IdentifyProtocol.processListens at processed
  cases found : self.remoteInfos.lookup session.id with
  | none => simp [found] at processed
  | some info =>
      simp only [found, Option.bind_eq_bind, Option.some_bind] at processed
      refine ⟨info, rfl, ?_⟩
      split_ifs at processed with listened long
      · exact .inl ⟨listened, (Option.some.inj processed).symm⟩
      · exact .inr (.inl ⟨Option.not_isSome_iff_eq_none.mp listened, long, (Option.some.inj processed).symm⟩)
      · exact .inr (.inr ⟨Option.not_isSome_iff_eq_none.mp listened, Nat.le_of_not_lt long,
          (Option.some.inj processed).symm⟩)

/-- The test of `process_observed` is the address filter of `process_listens`. -/
theorem P2pUtils.observed_filter_isSome (globalIpOnly : Bool) (observed : Multiaddr) :
    ((utils.multiaddrToSocketaddr observed).map (·.ip) |>.filter
      fun ip => !globalIpOnly || utils.isReachable ip).isSome =
      utils.reachableAddr globalIpOnly observed := by
  unfold P2pUtils.reachableAddr
  cases utils.multiaddrToSocketaddr observed with
  | none => rfl
  | some socketAddr =>
      simp only [Option.map_some', Option.filter, Option.getD_some]
      split <;> simp_all

theorem IdentifyProtocol.processObserved_cases {observed : Multiaddr} {stage : Stage T}
    (processed : self.processObserved utils session observed = some stage) :
    ∃ info, self.remoteInfos.lookup session.id = some info ∧
      ((info.observedAddr.isSome ∧ stage = self.report session.id info.peerId .duplicateObservedAddr) ∨
        (info.observedAddr = none ∧ utils.reachableAddr self.globalIpOnly observed = false ∧
          stage = ({ self with
              remoteInfos := self.remoteInfos.replace session.id
                { info with observedAddr := some observed } }, [], .continue)) ∨
        (info.observedAddr = none ∧ utils.reachableAddr self.globalIpOnly observed = true ∧
          (Callback.addObservedAddr self.callback info.peerId observed info.session.ty).2 =
            .disconnect ∧
          stage = ({ self with
              callback := (Callback.addObservedAddr self.callback info.peerId observed info.session.ty).1 },
            [.addObservedAddr session.id info.peerId observed info.session.ty], .disconnect)) ∨
        (info.observedAddr = none ∧ utils.reachableAddr self.globalIpOnly observed = true ∧
          (Callback.addObservedAddr self.callback info.peerId observed info.session.ty).2 =
            .continue ∧
          stage = ({ self with
              callback := (Callback.addObservedAddr self.callback info.peerId observed info.session.ty).1
              remoteInfos := self.remoteInfos.replace session.id
                { info with observedAddr := some observed } },
            [.addObservedAddr session.id info.peerId observed info.session.ty], .continue))) := by
  unfold IdentifyProtocol.processObserved at processed
  cases found : self.remoteInfos.lookup session.id with
  | none => simp [found] at processed
  | some info =>
      simp only [found, Option.bind_eq_bind, Option.some_bind, P2pUtils.observed_filter_isSome]
        at processed
      refine ⟨info, rfl, ?_⟩
      have fresh : ¬ info.observedAddr.isSome → info.observedAddr = none :=
        Option.not_isSome_iff_eq_none.mp
      split_ifs at processed with observedBefore reachable hook
      · exact .inl ⟨observedBefore, (Option.some.inj processed).symm⟩
      · exact .inr (.inr (.inl ⟨fresh observedBefore, reachable, (MisbehaveResult.isDisconnect_iff _).mp hook,
          (Option.some.inj processed).symm⟩))
      · exact .inr (.inr (.inr ⟨fresh observedBefore, reachable, MisbehaveResult.eq_continue_of_not_isDisconnect hook,
          (Option.some.inj processed).symm⟩))
      · exact .inr (.inl ⟨fresh observedBefore, by simpa using reachable, (Option.some.inj processed).symm⟩)

/-- A fresh entry takes a list of at most `MAX_ADDRS` listen addresses: those
that pass the filter are stored and handed to the callback. -/
theorem IdentifyProtocol.processListens_fresh {listens : List Multiaddr} {info : RemoteInfo}
    (found : self.remoteInfos.lookup session.id = some info) (waiting : info.listenAddrs = none)
    (few : listens.length ≤ maxAddrs) :
    ∃ next, self.processListens utils session listens = some (next,
        [.addRemoteListenAddrs session.id info.peerId (listens.filter (utils.reachableAddr self.globalIpOnly))],
        .continue) ∧
      next.secioEnabled = self.secioEnabled ∧ next.globalIpOnly = self.globalIpOnly ∧
      next.remoteInfos = self.remoteInfos.replace session.id
        { info with listenAddrs := some (listens.filter (utils.reachableAddr self.globalIpOnly)) } := by
  simp [IdentifyProtocol.processListens, found, waiting, not_lt.mpr few]

/-- A fresh entry stores the observed address when the callback's hook, if it
runs, continues. -/
theorem IdentifyProtocol.processObserved_fresh {observed : Multiaddr} {info : RemoteInfo}
    (found : self.remoteInfos.lookup session.id = some info) (waiting : info.observedAddr = none)
    (continues : (Callback.addObservedAddr self.callback info.peerId observed info.session.ty).2 = .continue) :
    ∃ next actions, self.processObserved utils session observed = some (next, actions, .continue) ∧
      next.secioEnabled = self.secioEnabled ∧ next.globalIpOnly = self.globalIpOnly ∧
      next.remoteInfos = self.remoteInfos.replace session.id { info with observedAddr := some observed } ∧
      actions ⊆ [.addObservedAddr session.id info.peerId observed info.session.ty] := by
  simp only [IdentifyProtocol.processObserved, found, waiting, Option.bind_eq_bind, Option.some_bind,
    Option.isSome_none, Bool.false_eq_true, if_false]
  split
  · rw [if_neg (by rw [continues]; decide)]
    exact ⟨_, _, rfl, rfl, rfl, rfl, List.Subset.refl _⟩
  · exact ⟨_, _, rfl, rfl, rfl, rfl, List.nil_subset _⟩

@[simp] theorem IdentifyProtocol.receivedIdentify_remoteInfos (identify : Bytes) :
    (self.receivedIdentify session identify).1.remoteInfos = self.remoteInfos := rfl

@[simp] theorem IdentifyProtocol.receivedIdentify_secioEnabled (identify : Bytes) :
    (self.receivedIdentify session identify).1.secioEnabled = self.secioEnabled := rfl

@[simp] theorem IdentifyProtocol.receivedIdentify_globalIpOnly (identify : Bytes) :
    (self.receivedIdentify session identify).1.globalIpOnly = self.globalIpOnly := rfl

@[simp] theorem IdentifyProtocol.receivedIdentify_actions (identify : Bytes) :
    (self.receivedIdentify session identify).2.1 = [.receivedIdentify session.id identify] := rfl

@[simp] theorem IdentifyProtocol.receivedIdentify_result (identify : Bytes) :
    (self.receivedIdentify session identify).2.2 =
      (Callback.receivedIdentify self.callback session identify).2 := rfl

theorem IdentifyProtocol.receivedIdentify_confined (identify : Bytes) (other : SessionId) :
    Confined other self (self.receivedIdentify session identify).1 :=
  Confined.of_remoteInfos rfl rfl rfl

omit [Callback T] in
/-- A chain of stages stops at a `Disconnect`, or runs the next stage after a
`Continue` and appends its actions. -/
theorem Stage.andThen_eq_some {first : Option (Stage T)} {next : IdentifyProtocol T → Option (Stage T)}
    {stage : Stage T} (chained : Stage.andThen first next = some stage) :
    (first = some stage ∧ stage.2.2 = .disconnect) ∨
      ∃ middle actions later, first = some (middle, actions, .continue) ∧ next middle = some later ∧
        stage = (later.1, actions ++ later.2.1, later.2.2) := by
  match first, chained with
  | some (self, actions, .disconnect), chained =>
      cases chained; exact .inl ⟨rfl, rfl⟩
  | some (self, actions, .continue), chained =>
      simp only [Stage.andThen, Option.map_eq_some'] at chained
      obtain ⟨later, nextOk, rfl⟩ := chained
      exact .inr ⟨self, actions, later, rfl, nextOk, rfl⟩

theorem IdentifyProtocol.processListens_confined {listens : List Multiaddr} {stage : Stage T}
    (processed : self.processListens utils session listens = some stage) :
    Confined session.id self stage.1 := by
  obtain ⟨info, found, ⟨-, rfl⟩ | ⟨-, -, rfl⟩ | ⟨fresh, -, rfl⟩⟩ :=
    IdentifyProtocol.processListens_cases utils processed
  · exact IdentifyProtocol.report_confined _ _ _ _
  · exact IdentifyProtocol.report_confined _ _ _ _
  · refine Confined.of_replace found ?_ rfl rfl rfl
    exact ⟨rfl, rfl, rfl, rfl, by simp [fresh], fun _ => rfl⟩

theorem IdentifyProtocol.processObserved_confined {observed : Multiaddr} {stage : Stage T}
    (processed : self.processObserved utils session observed = some stage) :
    Confined session.id self stage.1 := by
  obtain ⟨info, found, ⟨-, rfl⟩ | ⟨fresh, -, rfl⟩ | ⟨-, -, -, rfl⟩ | ⟨fresh, -, -, rfl⟩⟩ :=
    IdentifyProtocol.processObserved_cases utils processed
  · exact IdentifyProtocol.report_confined _ _ _ _
  · refine Confined.of_replace found ?_ rfl rfl rfl
    exact ⟨rfl, rfl, rfl, rfl, fun _ => rfl, by simp [fresh]⟩
  · exact Confined.of_remoteInfos rfl rfl rfl
  · refine Confined.of_replace found ?_ rfl rfl rfl
    exact ⟨rfl, rfl, rfl, rfl, fun _ => rfl, by simp [fresh]⟩

omit [Callback T] in
/-- A property of a state and the actions so far that every first stage has and
every next stage keeps holds after the chain. -/
theorem Stage.andThen_preserves (P : IdentifyProtocol T → List Action → Prop) {first : Option (Stage T)}
    {next : IdentifyProtocol T → Option (Stage T)} {stage : Stage T}
    (chained : Stage.andThen first next = some stage)
    (firstOk : ∀ stage, first = some stage → P stage.1 stage.2.1)
    (nextOk : ∀ middle actions later, P middle actions → next middle = some later →
      P later.1 (actions ++ later.2.1)) : P stage.1 stage.2.1 := by
  rcases Stage.andThen_eq_some chained with ⟨stopped, _⟩ | ⟨middle, _, later, continued, nextRan, rfl⟩
  · exact firstOk stage stopped
  · exact nextOk middle _ later (firstOk _ continued) nextRan

omit [Callback T] in
/-- A chain runs to its end when its next stage does, from every state its first
stage can leave. -/
theorem Stage.andThen_isSome (P : IdentifyProtocol T → Prop) {first : Option (Stage T)}
    {next : IdentifyProtocol T → Option (Stage T)} (firstOk : ∃ stage, first = some stage ∧ P stage.1)
    (nextOk : ∀ middle, P middle → (next middle).isSome) : (Stage.andThen first next).isSome := by
  obtain ⟨⟨middle, actions, result⟩, rfl, holds⟩ := firstOk
  cases result
  · simpa [Stage.andThen] using nextOk middle holds
  · rfl

/-- `received_identify` and then `process_listens`, the first two stages of a message. -/
theorem IdentifyProtocol.listened_confined {identify : Bytes} {listens : List Multiaddr}
    {stage : Stage T}
    (listened : Stage.andThen (some (self.receivedIdentify session identify))
      (·.processListens utils session listens) = some stage) :
    Confined session.id self stage.1 :=
  Stage.andThen_preserves (fun middle _ => Confined session.id self middle) listened
    (fun _ identified => Option.some.inj identified ▸ IdentifyProtocol.receivedIdentify_confined _ _)
    (fun _ _ _ confined processed => confined.trans (IdentifyProtocol.processListens_confined utils processed))

/-- Processing a message touches only its own session's entry, and only grows it. -/
theorem IdentifyProtocol.processMessage_confined {message : IdentifyMessage} {stage : Stage T}
    (processed : self.processMessage utils session message = some stage) :
    Confined session.id self stage.1 :=
  Stage.andThen_preserves (fun middle _ => Confined session.id self middle) processed
    (fun _ listened => IdentifyProtocol.listened_confined utils listened)
    (fun _ _ _ confined observed => confined.trans (IdentifyProtocol.processObserved_confined utils observed))

/-- A `process_listens` that stops the message is a report and writes nothing. -/
theorem IdentifyProtocol.processListens_disconnect {listens : List Multiaddr} {stage : Stage T}
    (processed : self.processListens utils session listens = some stage)
    (stopped : stage.2.2 = .disconnect) :
    stage.1.remoteInfos = self.remoteInfos ∧ ∃ info kind,
      self.remoteInfos.lookup session.id = some info ∧ stage.2.1 = [.misbehave session.id info.peerId kind] := by
  obtain ⟨info, found, ⟨-, rfl⟩ | ⟨-, -, rfl⟩ | ⟨-, -, rfl⟩⟩ :=
    IdentifyProtocol.processListens_cases utils processed
  · exact ⟨rfl, info, _, found, rfl⟩
  · exact ⟨rfl, info, _, found, rfl⟩
  · cases stopped

theorem IdentifyProtocol.processObserved_disconnect {observed : Multiaddr} {stage : Stage T}
    (processed : self.processObserved utils session observed = some stage)
    (stopped : stage.2.2 = .disconnect) : stage.1.remoteInfos = self.remoteInfos := by
  obtain ⟨info, -, ⟨-, rfl⟩ | ⟨-, -, rfl⟩ | ⟨-, -, -, rfl⟩ | ⟨-, -, -, rfl⟩⟩ :=
    IdentifyProtocol.processObserved_cases utils processed
  · rfl
  · cases stopped
  · rfl
  · cases stopped

/-- The stages report and call hooks; only `received` disconnects. -/
theorem IdentifyProtocol.processListens_quiet {listens : List Multiaddr} {stage : Stage T}
    (processed : self.processListens utils session listens = some stage) (sessionId : SessionId) :
    Action.disconnect sessionId ∉ stage.2.1 := by
  obtain ⟨info, -, ⟨-, rfl⟩ | ⟨-, -, rfl⟩ | ⟨-, -, rfl⟩⟩ :=
    IdentifyProtocol.processListens_cases utils processed <;> simp

theorem IdentifyProtocol.processObserved_quiet {observed : Multiaddr} {stage : Stage T}
    (processed : self.processObserved utils session observed = some stage) (sessionId : SessionId) :
    Action.disconnect sessionId ∉ stage.2.1 := by
  obtain ⟨info, -, ⟨-, rfl⟩ | ⟨-, -, rfl⟩ | ⟨-, -, -, rfl⟩ | ⟨-, -, -, rfl⟩⟩ :=
    IdentifyProtocol.processObserved_cases utils processed <;> simp

/-- Every action of a decoded message: its `received_identify` call, or an action
of `process_listens` or of `process_observed`, each run on a state confined to
the session. -/
theorem IdentifyProtocol.processMessage_mem {message : IdentifyMessage} {stage : Stage T}
    {action : Action} (processed : self.processMessage utils session message = some stage)
    (mem : action ∈ stage.2.1) :
    action = .receivedIdentify session.id message.identify ∨
      (∃ middle listened, Confined session.id self middle ∧
        middle.processListens utils session message.listenAddrs = some listened ∧ action ∈ listened.2.1) ∨
      (∃ middle observed, Confined session.id self middle ∧
        middle.processObserved utils session message.observedAddr = some observed ∧ action ∈ observed.2.1) := by
  have listenedMem : ∀ listened : Stage T, Stage.andThen (some (self.receivedIdentify session message.identify))
      (·.processListens utils session message.listenAddrs) = some listened → action ∈ listened.2.1 →
      action = .receivedIdentify session.id message.identify ∨
        ∃ middle listened, Confined session.id self middle ∧
          middle.processListens utils session message.listenAddrs = some listened ∧ action ∈ listened.2.1 := by
    intro listened chained mem
    rcases Stage.andThen_eq_some chained with ⟨identified, _⟩ | ⟨first, actions, second, identified, listens, rfl⟩
    · rw [← Option.some.inj identified] at mem
      exact .inl (List.mem_singleton.mp mem)
    · obtain rfl : (self.receivedIdentify session message.identify).1 = first :=
        congrArg (·.1) (Option.some.inj identified)
      obtain rfl : [Action.receivedIdentify session.id message.identify] = actions :=
        congrArg (·.2.1) (Option.some.inj identified)
      rcases List.mem_append.mp mem with mem | mem
      · exact .inl (List.mem_singleton.mp mem)
      · exact .inr ⟨_, second, IdentifyProtocol.receivedIdentify_confined _ _, listens, mem⟩
  rcases Stage.andThen_eq_some processed with ⟨listened, _⟩ | ⟨middle, _, later, listened, observed, rfl⟩
  · exact (listenedMem stage listened mem).imp_right .inl
  · rcases List.mem_append.mp mem with mem | mem
    · exact (listenedMem _ listened mem).imp_right .inl
    · exact .inr (.inr ⟨middle, later, IdentifyProtocol.listened_confined utils listened, observed, mem⟩)

theorem IdentifyProtocol.processListens_isSome {listens : List Multiaddr}
    (found : (self.remoteInfos.lookup session.id).isSome) :
    (self.processListens utils session listens).isSome := by
  obtain ⟨info, found⟩ := Option.isSome_iff_exists.mp found
  unfold IdentifyProtocol.processListens
  simp only [found, Option.bind_eq_bind, Option.some_bind]
  split_ifs <;> rfl

theorem IdentifyProtocol.processObserved_isSome {observed : Multiaddr}
    (found : (self.remoteInfos.lookup session.id).isSome) :
    (self.processObserved utils session observed).isSome := by
  obtain ⟨info, found⟩ := Option.isSome_iff_exists.mp found
  unfold IdentifyProtocol.processObserved
  simp only [found, Option.bind_eq_bind, Option.some_bind]
  split_ifs <;> simp only [Option.isSome_some]

theorem IdentifyProtocol.processMessage_isSome {message : IdentifyMessage}
    (found : (self.remoteInfos.lookup session.id).isSome) :
    (self.processMessage utils session message).isSome := by
  have stillFound : ∀ middle, Confined session.id self middle →
      (middle.remoteInfos.lookup session.id).isSome := fun _ confined =>
    confined.entry.isSome.trans found
  obtain ⟨listened, chained⟩ := Option.isSome_iff_exists.mp <|
    Stage.andThen_isSome (Confined session.id self)
      ⟨_, rfl, IdentifyProtocol.receivedIdentify_confined _ _⟩
      (fun middle confined => IdentifyProtocol.processListens_isSome utils (stillFound middle confined))
  exact Stage.andThen_isSome (Confined session.id self)
    ⟨listened, chained, IdentifyProtocol.listened_confined utils chained⟩
    (fun middle confined => IdentifyProtocol.processObserved_isSome utils (stillFound middle confined))

end Stages

/-! ## Handlers -/

section Step

variable {T : Type} [Callback T] (utils : P2pUtils) (codec : MessageCodec) (self : IdentifyProtocol T)

@[simp] theorem IdentifyProtocol.step_connected (session : SessionContext) (now : Instant) :
    self.step utils codec (.connected session now) = self.connected utils codec session now := rfl

@[simp] theorem IdentifyProtocol.step_received (session : SessionContext) (data : Bytes) :
    self.step utils codec (.received session data) = self.received utils codec session data := rfl

@[simp] theorem IdentifyProtocol.step_notify (now : Instant) :
    self.step utils codec (.notify now) = some (self.notify now) := rfl

@[simp] theorem IdentifyProtocol.step_disconnected (session : SessionContext) :
    self.step utils codec (.disconnected session) =
      (self.disconnected session).map fun self => (self, []) := rfl

theorem IdentifyProtocol.step_notify_eq {now : Instant} {self' : IdentifyProtocol T} {actions : List Action}
    (stepped : self.step utils codec (.notify now) = some (self', actions)) :
    self' = (self.notify now).1 ∧ actions = (self.notify now).2 :=
  ⟨(congrArg Prod.fst (Option.some.inj stepped)).symm, (congrArg Prod.snd (Option.some.inj stepped)).symm⟩

theorem IdentifyProtocol.step_disconnected_eq {session : SessionContext} {self' : IdentifyProtocol T}
    {actions : List Action} (stepped : self.step utils codec (.disconnected session) = some (self', actions)) :
    self.disconnected session = some self' ∧ actions = [] := by
  obtain ⟨after, disconnected, finished⟩ := Option.map_eq_some'.mp stepped
  cases finished
  exact ⟨disconnected, rfl⟩

end Step

/-- A `Timeout` report for `session`. -/
def Action.isTimeoutOf (session : SessionId) : Action → Bool
  | .misbehave other _ .timeout => other == session
  | _ => false

section Events

variable {T : Type} [Callback T] (utils : P2pUtils) (codec : MessageCodec)
variable {self self' : IdentifyProtocol T} {session : SessionContext} {actions : List Action}

/-- Everything `connected` can do: a session without a key turns the protocol
off; any other is registered with a fresh entry and sent the local message. -/
theorem IdentifyProtocol.connected_cases {now : Instant}
    (connected : self.connected utils codec session now = some (self', actions)) :
    (session.remotePubkey = none ∧ self' = { self with secioEnabled := false } ∧
        actions = [.disconnect session.id]) ∨
      ∃ key, session.remotePubkey = some key ∧
        self' = { self with
          callback := (self.identifyMessage utils session).1
          remoteInfos := self.remoteInfos.insert session.id
            ⟨PeerId.fromPublicKey key, session, now, Duration.fromSecs defaultTimeout, none, none⟩ } ∧
        actions = [.quickSendMessage session.id (codec.encode (self.identifyMessage utils session).2)] := by
  unfold IdentifyProtocol.connected at connected
  cases keyed : session.remotePubkey with
  | none =>
      simp only [keyed, Option.isNone_none, if_true, Option.some.injEq, Prod.mk.injEq] at connected
      exact .inl ⟨rfl, connected.1.symm, connected.2.symm⟩
  | some key =>
      simp only [keyed, Option.isNone_some, Bool.false_eq_true, if_false, RemoteInfo.new,
        Option.map_some', Option.bind_eq_bind, Option.some_bind, Option.some.injEq,
        Prod.mk.injEq] at connected
      exact .inr ⟨key, rfl, connected.1.symm, connected.2.symm⟩

theorem IdentifyProtocol.received_disabled {data : Bytes} (off : self.secioEnabled = false) :
    self.received utils codec session data = some (self, []) := by
  simp [IdentifyProtocol.received, off]

theorem IdentifyProtocol.received_decoded {data : Bytes} {message : IdentifyMessage}
    (enabled : self.secioEnabled = true) (decoded : codec.decode data = some message) :
    self.received utils codec session data =
      (self.processMessage utils session message).map fun stage =>
        (stage.1, stage.2.1 ++ disconnectIf stage.2.2 session.id) := by
  simp [IdentifyProtocol.received, enabled, decoded]

theorem IdentifyProtocol.received_undecodable {data : Bytes} (enabled : self.secioEnabled = true)
    (undecodable : codec.decode data = none) :
    self.received utils codec session data =
      (self.remoteInfos.lookup session.id).map fun info =>
        ((self.report session.id info.peerId .invalidData).1,
          (self.report session.id info.peerId .invalidData).2.1 ++
            disconnectIf (self.report session.id info.peerId .invalidData).2.2 session.id) := by
  simp [IdentifyProtocol.received, enabled, undecodable]

theorem IdentifyProtocol.received_confined {data : Bytes}
    (received : self.received utils codec session data = some (self', actions)) :
    Confined session.id self self' := by
  cases enabled : self.secioEnabled
  · rw [IdentifyProtocol.received_disabled utils codec enabled] at received
    cases received
    exact Confined.refl _ _
  · cases decoded : codec.decode data with
    | none =>
        rw [IdentifyProtocol.received_undecodable utils codec enabled decoded] at received
        obtain ⟨info, -, reported⟩ := Option.map_eq_some'.mp received
        cases reported
        exact IdentifyProtocol.report_confined _ _ _ _
    | some message =>
        rw [IdentifyProtocol.received_decoded utils codec enabled decoded] at received
        obtain ⟨stage, processed, finished⟩ := Option.map_eq_some'.mp received
        cases finished
        exact IdentifyProtocol.processMessage_confined utils processed

theorem mem_disconnectIf {result : MisbehaveResult} {sessionId : SessionId} {action : Action}
    (mem : action ∈ disconnectIf result sessionId) : action = .disconnect sessionId := by
  unfold disconnectIf at mem
  split at mem
  · exact List.mem_singleton.mp mem
  · cases mem

/-- Every action of `received`: its `disconnect`, an `InvalidData` report, or an
action of the decoded message's stages. -/
theorem IdentifyProtocol.received_mem {data : Bytes} {action : Action}
    (received : self.received utils codec session data = some (self', actions)) (mem : action ∈ actions) :
    action = .disconnect session.id ∨
      (∃ info, self.remoteInfos.lookup session.id = some info ∧
        action = .misbehave session.id info.peerId .invalidData) ∨
      ∃ message stage, codec.decode data = some message ∧
        self.processMessage utils session message = some stage ∧ action ∈ stage.2.1 := by
  cases enabled : self.secioEnabled
  · rw [IdentifyProtocol.received_disabled utils codec enabled] at received
    cases received
    cases mem
  · cases decoded : codec.decode data with
    | none =>
        rw [IdentifyProtocol.received_undecodable utils codec enabled decoded] at received
        obtain ⟨info, found, reported⟩ := Option.map_eq_some'.mp received
        cases reported
        rcases List.mem_append.mp mem with mem | mem
        · exact .inr (.inl ⟨info, found, List.mem_singleton.mp mem⟩)
        · exact .inl (mem_disconnectIf mem)
    | some message =>
        rw [IdentifyProtocol.received_decoded utils codec enabled decoded] at received
        obtain ⟨stage, processed, finished⟩ := Option.map_eq_some'.mp received
        cases finished
        rcases List.mem_append.mp mem with mem | mem
        · exact .inr (.inr ⟨message, stage, rfl, processed, mem⟩)
        · exact .inl (mem_disconnectIf mem)

/-- The actions of `received`: its body, with no `disconnect` in it, then the
`disconnect` its result asks for. -/
theorem IdentifyProtocol.received_shape {data : Bytes}
    (received : self.received utils codec session data = some (self', actions)) :
    ∃ body result, actions = body ++ disconnectIf result session.id ∧
      ∀ sessionId, Action.disconnect sessionId ∉ body := by
  cases enabled : self.secioEnabled
  · rw [IdentifyProtocol.received_disabled utils codec enabled] at received
    cases received
    exact ⟨[], .continue, rfl, fun _ => List.not_mem_nil _⟩
  · cases decoded : codec.decode data with
    | none =>
        rw [IdentifyProtocol.received_undecodable utils codec enabled decoded] at received
        obtain ⟨info, -, reported⟩ := Option.map_eq_some'.mp received
        cases reported
        exact ⟨_, _, rfl, fun _ => by simp⟩
    | some message =>
        rw [IdentifyProtocol.received_decoded utils codec enabled decoded] at received
        obtain ⟨stage, processed, finished⟩ := Option.map_eq_some'.mp received
        cases finished
        refine ⟨stage.2.1, stage.2.2, rfl, fun sessionId mem => ?_⟩
        rcases IdentifyProtocol.processMessage_mem utils processed mem with hit |
          ⟨_, _, -, listens, mem⟩ | ⟨_, _, -, observes, mem⟩
        · cases hit
        · exact IdentifyProtocol.processListens_quiet utils listens sessionId mem
        · exact IdentifyProtocol.processObserved_quiet utils observes sessionId mem

/-- `connected` never panics: `RemoteInfo::new` is reached only with a key. -/
theorem IdentifyProtocol.connected_isSome (now : Instant) :
    (self.connected utils codec session now).isSome := by
  unfold IdentifyProtocol.connected
  split
  · rfl
  · rename_i keyed
    obtain ⟨key, keyed⟩ := Option.ne_none_iff_exists'.mp (by simpa using keyed)
    simp [keyed, RemoteInfo.new]

/-- `received` panics only on a session without an entry while the protocol is on. -/
theorem IdentifyProtocol.received_isSome (data : Bytes)
    (found : self.secioEnabled = true → (self.remoteInfos.lookup session.id).isSome) :
    (self.received utils codec session data).isSome := by
  cases enabled : self.secioEnabled
  · simp [IdentifyProtocol.received_disabled utils codec enabled]
  · cases decoded : codec.decode data with
    | none =>
        simpa [IdentifyProtocol.received_undecodable utils codec enabled decoded] using found enabled
    | some message =>
        simpa [IdentifyProtocol.received_decoded utils codec enabled decoded] using
          IdentifyProtocol.processMessage_isSome utils (found enabled)

omit [Callback T] in
/-- `disconnected` panics only on a session without an entry while the protocol is on. -/
theorem IdentifyProtocol.disconnected_isSome
    (found : self.secioEnabled = true → (self.remoteInfos.lookup session.id).isSome) :
    (self.disconnected session).isSome := by
  unfold IdentifyProtocol.disconnected
  split
  · rename_i enabled
    obtain ⟨info, found⟩ := Option.isSome_iff_exists.mp (found enabled)
    simp [found]
  · rfl

omit [Callback T] in
theorem IdentifyProtocol.disconnected_cases (disconnected : self.disconnected session = some self') :
    (self.secioEnabled = true ∧ (self.remoteInfos.lookup session.id).isSome ∧
        self' = { self with remoteInfos := self.remoteInfos.erase session.id }) ∨
      (self.secioEnabled = false ∧ self' = self) := by
  unfold IdentifyProtocol.disconnected at disconnected
  split at disconnected
  · rename_i enabled
    simp only [Option.bind_eq_bind, Option.bind_eq_some, Option.some.injEq] at disconnected
    obtain ⟨info, found, rfl⟩ := disconnected
    exact .inl ⟨enabled, by simp [found], rfl⟩
  · rename_i disabled
    exact .inr ⟨by simpa using disabled, (Option.some.inj disconnected).symm⟩

theorem IdentifyProtocol.checkTimeouts_eq_callback (now : Instant) :
    ∀ (self : IdentifyProtocol T) (entries : List (Sigma fun _ : SessionId => RemoteInfo)),
      (self.checkTimeouts now entries).1 = { self with callback := (self.checkTimeouts now entries).1.callback }
  | self, [] => rfl
  | self, ⟨sessionId, info⟩ :: rest => by
      unfold IdentifyProtocol.checkTimeouts
      split
      · exact IdentifyProtocol.checkTimeouts_eq_callback now _ rest
      · exact IdentifyProtocol.checkTimeouts_eq_callback now self rest

@[simp] theorem IdentifyProtocol.notify_remoteInfos (now : Instant) :
    (self.notify now).1.remoteInfos = self.remoteInfos := by
  unfold IdentifyProtocol.notify
  split
  · rfl
  · rw [IdentifyProtocol.checkTimeouts_eq_callback]

theorem IdentifyProtocol.notify_confined (now : Instant) (other : SessionId) :
    Confined other self (self.notify now).1 := by
  unfold IdentifyProtocol.notify
  split
  · exact Confined.refl _ _
  · rw [IdentifyProtocol.checkTimeouts_eq_callback]
    exact Confined.of_remoteInfos rfl rfl rfl

theorem IdentifyProtocol.checkTimeouts_timedOut {now : Instant} {info : RemoteInfo}
    (timedOut : info.timedOut now = true) (sessionId : SessionId)
    (rest : List (Sigma fun _ : SessionId => RemoteInfo)) :
    self.checkTimeouts now (⟨sessionId, info⟩ :: rest) =
      (((self.report sessionId info.peerId .timeout).1.checkTimeouts now rest).1,
        .misbehave sessionId info.peerId .timeout ::
          (disconnectIf (Callback.misbehave self.callback info.peerId .timeout).2 sessionId ++
            ((self.report sessionId info.peerId .timeout).1.checkTimeouts now rest).2)) := by
  rw [IdentifyProtocol.checkTimeouts, if_pos timedOut]
  rfl

theorem IdentifyProtocol.checkTimeouts_waiting {now : Instant} {info : RemoteInfo}
    (waiting : info.timedOut now = false) (sessionId : SessionId)
    (rest : List (Sigma fun _ : SessionId => RemoteInfo)) :
    self.checkTimeouts now (⟨sessionId, info⟩ :: rest) = self.checkTimeouts now rest := by
  rw [IdentifyProtocol.checkTimeouts, if_neg (by simp [waiting])]

/-- The timeout reports of the loop: one for each timed-out entry, in order. -/
theorem IdentifyProtocol.checkTimeouts_reports (now : Instant) (session : SessionId) :
    ∀ (self : IdentifyProtocol T) (entries : List (Sigma fun _ : SessionId => RemoteInfo)),
      (self.checkTimeouts now entries).2.filter (Action.isTimeoutOf session) =
        ((entries.filter fun entry => entry.1 = session ∧ entry.2.timedOut now).map
          fun entry => .misbehave entry.1 entry.2.peerId .timeout)
  | self, [] => rfl
  | self, ⟨sessionId, info⟩ :: rest => by
      cases timedOut : info.timedOut now
      · rw [IdentifyProtocol.checkTimeouts_waiting timedOut,
          IdentifyProtocol.checkTimeouts_reports now session self rest]
        simp [timedOut]
      · have quiet : ∀ result, (disconnectIf result sessionId).filter (Action.isTimeoutOf session) = [] := by
          intro result; unfold disconnectIf; split <;> rfl
        rw [IdentifyProtocol.checkTimeouts_timedOut timedOut, List.filter_cons, List.filter_append, quiet,
          IdentifyProtocol.checkTimeouts_reports now session _ rest]
        by_cases same : sessionId = session <;> simp [same, timedOut, Action.isTimeoutOf]

/-- Every action of the timeout loop is for one of the entries it visits. -/
theorem IdentifyProtocol.checkTimeouts_session (now : Instant) :
    ∀ (self : IdentifyProtocol T) (entries : List (Sigma fun _ : SessionId => RemoteInfo)),
      ∀ action ∈ (self.checkTimeouts now entries).2, action.session ∈ entries.keys
  | self, [], action, mem => by cases mem
  | self, ⟨sessionId, info⟩ :: rest, action, mem => by
      cases timedOut : info.timedOut now
      · rw [IdentifyProtocol.checkTimeouts_waiting timedOut] at mem
        exact List.mem_cons_of_mem _ (IdentifyProtocol.checkTimeouts_session now self rest action mem)
      · rw [IdentifyProtocol.checkTimeouts_timedOut timedOut] at mem
        rcases List.mem_cons.mp mem with rfl | mem
        · exact List.mem_cons_self _ _
        rcases List.mem_append.mp mem with mem | mem
        · rw [mem_disconnectIf mem]; exact List.mem_cons_self _ _
        · exact List.mem_cons_of_mem _ (IdentifyProtocol.checkTimeouts_session now _ rest action mem)

theorem IdentifyProtocol.checkTimeouts_kinds (now : Instant) :
    ∀ (self : IdentifyProtocol T) (entries : List (Sigma fun _ : SessionId => RemoteInfo)),
      ∀ action ∈ (self.checkTimeouts now entries).2,
        (∃ sessionId peer, action = .misbehave sessionId peer .timeout) ∨ ∃ sessionId, action = .disconnect sessionId
  | self, [], action, mem => by cases mem
  | self, ⟨sessionId, info⟩ :: rest, action, mem => by
      cases timedOut : info.timedOut now
      · rw [IdentifyProtocol.checkTimeouts_waiting timedOut] at mem
        exact IdentifyProtocol.checkTimeouts_kinds now self rest action mem
      · rw [IdentifyProtocol.checkTimeouts_timedOut timedOut] at mem
        rcases List.mem_cons.mp mem with rfl | mem
        · exact .inl ⟨_, _, rfl⟩
        rcases List.mem_append.mp mem with mem | mem
        · exact .inr ⟨_, mem_disconnectIf mem⟩
        · exact IdentifyProtocol.checkTimeouts_kinds now _ rest action mem

/-- A tick reports `Timeout` for a session exactly when its entry has timed out. -/
theorem IdentifyProtocol.notify_reports (enabled : self.secioEnabled = true) (now : Instant)
    (session : SessionId) :
    (self.notify now).2.filter (Action.isTimeoutOf session) =
      ((self.remoteInfos.lookup session).filter (·.timedOut now)).toList.map
        fun info => .misbehave session info.peerId .timeout := by
  rw [IdentifyProtocol.notify, if_neg (by simp [enabled]), IdentifyProtocol.checkTimeouts_reports,
    filter_entries_key self.remoteInfos session (·.timedOut now), List.map_map]
  rfl

theorem IdentifyProtocol.checkTimeouts_of_waiting (now : Instant) :
    ∀ (self : IdentifyProtocol T) (entries : List (Sigma fun _ : SessionId => RemoteInfo)),
      (∀ entry ∈ entries, entry.2.timedOut now = false) → self.checkTimeouts now entries = (self, [])
  | self, [], _ => rfl
  | self, ⟨sessionId, info⟩ :: rest, waiting => by
      rw [IdentifyProtocol.checkTimeouts_waiting (waiting _ (List.mem_cons_self _ _))]
      exact IdentifyProtocol.checkTimeouts_of_waiting now self rest fun entry mem =>
        waiting entry (List.mem_cons_of_mem _ mem)

theorem IdentifyProtocol.notify_of_waiting {now : Instant}
    (waiting : ∀ sessionId info, self.remoteInfos.lookup sessionId = some info → info.timedOut now = false) :
    self.notify now = (self, []) := by
  unfold IdentifyProtocol.notify
  split
  · rfl
  · exact IdentifyProtocol.checkTimeouts_of_waiting now self _ fun ⟨sessionId, info⟩ mem =>
      waiting sessionId info (AList.mem_lookup_iff.mpr mem)

end Events

end Ckb.Network
