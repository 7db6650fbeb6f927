import Ckb.Network.Handlers

/-!
# Runs

A run of the protocol: the events the transport delivers, in order, with the
state after them and every action taken. The transport's discipline on
sessions is a machine of its own, `Lifecycle`: a session connects once, gets
messages and ticks while it is open, and disconnects at most once, and an id is
used again only after its disconnect.

The last section fixes the parameters of the concrete runs that later modules
exhibit: a callback that answers every call the same way, address utilities
that resolve nothing, and a codec for a table of messages.
-/

set_option autoImplicit false

namespace Ckb.Network

open Ckb.Packed

/-! ## Runs of the protocol -/

section Runs

variable {T : Type} [Callback T] (utils : P2pUtils) (codec : MessageCodec)

/-- The runs of the protocol from `init`: after `events` it is in `self` and has
taken `actions`. -/
inductive IdentifyProtocol.Runs (init : IdentifyProtocol T) :
    List Event → IdentifyProtocol T → List Action → Prop
  | nil : IdentifyProtocol.Runs init [] init []
  | snoc {events : List Event} {self self' : IdentifyProtocol T} {actions actions' : List Action}
      {event : Event} :
      IdentifyProtocol.Runs init events self actions →
      self.step utils codec event = some (self', actions') →
      IdentifyProtocol.Runs init (events ++ [event]) self' (actions ++ actions')

theorem IdentifyProtocol.run_cons (self : IdentifyProtocol T) (event : Event) (rest : List Event) :
    self.run utils codec (event :: rest) =
      (self.step utils codec event).bind fun stepped =>
        (stepped.1.run utils codec rest).bind fun later => some (later.1, stepped.2 ++ later.2) := rfl

theorem IdentifyProtocol.run_cons_eq_some {self self' : IdentifyProtocol T} {event : Event}
    {rest : List Event} {actions : List Action}
    (ran : self.run utils codec (event :: rest) = some (self', actions)) :
    ∃ middle first later, self.step utils codec event = some (middle, first) ∧
      middle.run utils codec rest = some (self', later) ∧ actions = first ++ later := by
  rw [IdentifyProtocol.run_cons] at ran
  obtain ⟨⟨middle, first⟩, stepped, ran⟩ := Option.bind_eq_some.mp ran
  obtain ⟨⟨after, later⟩, rest, finished⟩ := Option.bind_eq_some.mp ran
  cases finished
  exact ⟨middle, first, later, stepped, rest, rfl⟩

theorem IdentifyProtocol.run_append (self : IdentifyProtocol T) (events : List Event) (event : Event) :
    self.run utils codec (events ++ [event]) =
      (self.run utils codec events).bind fun reached =>
        (reached.1.step utils codec event).map fun after => (after.1, reached.2 ++ after.2) := by
  induction events generalizing self with
  | nil =>
      rw [List.nil_append, IdentifyProtocol.run_cons]
      show _ = Option.map _ (self.step utils codec event)
      cases self.step utils codec event <;> simp [IdentifyProtocol.run]
  | cons first rest ih =>
      rw [List.cons_append, IdentifyProtocol.run_cons, IdentifyProtocol.run_cons]
      cases self.step utils codec first with
      | none => rfl
      | some stepped =>
          simp only [Option.some_bind, ih]
          cases stepped.1.run utils codec rest with
          | none => rfl
          | some later =>
              simp only [Option.some_bind]
              cases later.1.step utils codec event <;> simp

/-- `run` computes exactly the runs. -/
theorem IdentifyProtocol.run_eq_some_iff {init self : IdentifyProtocol T} {events : List Event}
    {actions : List Action} :
    init.run utils codec events = some (self, actions) ↔
      IdentifyProtocol.Runs utils codec init events self actions := by
  constructor
  · induction events using List.reverseRecOn generalizing self actions with
    | nil =>
        simp only [IdentifyProtocol.run, Option.some.injEq, Prod.mk.injEq]
        rintro ⟨rfl, rfl⟩
        exact .nil
    | append_singleton events event ih =>
        rw [IdentifyProtocol.run_append]
        intro ran
        obtain ⟨⟨reached, before⟩, earlier, ran⟩ := Option.bind_eq_some.mp ran
        obtain ⟨⟨after, actions'⟩, stepped, finished⟩ := Option.map_eq_some'.mp ran
        cases finished
        exact .snoc (ih earlier) stepped
  · intro reached
    induction reached with
    | nil => rfl
    | snoc _ stepped ih => simp [IdentifyProtocol.run_append, ih, stepped]

/-- An invariant that holds initially and that every step keeps holds after
every run. -/
theorem IdentifyProtocol.Runs.invariant {init : IdentifyProtocol T}
    (Inv : List Event → IdentifyProtocol T → List Action → Prop) (initially : Inv [] init [])
    (preserved : ∀ {events self actions event self' actions'}, Inv events self actions →
      self.step utils codec event = some (self', actions') →
      Inv (events ++ [event]) self' (actions ++ actions'))
    {events : List Event} {self : IdentifyProtocol T} {actions : List Action}
    (reached : IdentifyProtocol.Runs utils codec init events self actions) : Inv events self actions := by
  induction reached with
  | nil => exact initially
  | snoc _ stepped ih => exact preserved ih stepped

end Runs

/-! ## The transport's lifecycle of a session -/

/-- The sessions the transport has open, by id. -/
structure Lifecycle where
  live : SessionId → Option SessionContext

/-- No session open. -/
def Lifecycle.closed : Lifecycle := ⟨fun _ => none⟩

/-- The transport's discipline, one event at a time: `none` for an event it
never delivers. A session connects under an id that is not in use, and gets
messages and its disconnect only while it is open. -/
def Lifecycle.advance (lifecycle : Lifecycle) : Event → Option Lifecycle
  | .connected session _ =>
      if lifecycle.live session.id = none then
        some ⟨Function.update lifecycle.live session.id (some session)⟩
      else none
  | .received session _ =>
      if lifecycle.live session.id = some session then some lifecycle else none
  | .notify _ => some lifecycle
  | .disconnected session =>
      if lifecycle.live session.id = some session then
        some ⟨Function.update lifecycle.live session.id none⟩
      else none

/-- A sequence of events the transport can deliver, from `lifecycle` on. -/
def Lifecycle.run (lifecycle : Lifecycle) : List Event → Option Lifecycle
  | [] => some lifecycle
  | event :: rest => (lifecycle.advance event).bind (·.run rest)

theorem Lifecycle.run_append (lifecycle : Lifecycle) (events : List Event) (event : Event) :
    lifecycle.run (events ++ [event]) = (lifecycle.run events).bind (·.advance event) := by
  induction events generalizing lifecycle with
  | nil => simp [Lifecycle.run]
  | cons first rest ih =>
      simp only [List.cons_append, Lifecycle.run]
      cases lifecycle.advance first <;> simp [ih]

/-- Everything one delivery does to the open sessions. -/
theorem Lifecycle.advance_cases {lifecycle lifecycle' : Lifecycle} {event : Event}
    (advanced : lifecycle.advance event = some lifecycle') :
    (∃ session now, event = .connected session now ∧ lifecycle.live session.id = none ∧
        lifecycle'.live = Function.update lifecycle.live session.id (some session)) ∨
      (∃ session data, event = .received session data ∧ lifecycle.live session.id = some session ∧
        lifecycle' = lifecycle) ∨
      (∃ now, event = .notify now ∧ lifecycle' = lifecycle) ∨
      (∃ session, event = .disconnected session ∧ lifecycle.live session.id = some session ∧
        lifecycle'.live = Function.update lifecycle.live session.id none) := by
  cases event with
  | connected session now =>
      simp only [Lifecycle.advance] at advanced
      split_ifs at advanced with fresh
      cases advanced
      exact .inl ⟨session, now, rfl, fresh, rfl⟩
  | received session data =>
      simp only [Lifecycle.advance] at advanced
      split_ifs at advanced with open_
      cases advanced
      exact .inr (.inl ⟨session, data, rfl, open_, rfl⟩)
  | notify now =>
      cases advanced
      exact .inr (.inr (.inl ⟨now, rfl, rfl⟩))
  | disconnected session =>
      simp only [Lifecycle.advance] at advanced
      split_ifs at advanced with open_
      cases advanced
      exact .inr (.inr (.inr ⟨session, rfl, open_, rfl⟩))

/-! ## Parameters of concrete runs -/

/-- A callback that keeps no state and gives every call the same answer. -/
structure FixedAnswers where
  receivedIdentify : MisbehaveResult
  identify : Bytes
  localListenAddrs : List Multiaddr
  addObservedAddr : MisbehaveResult
  misbehave : MisbehaveResult
deriving DecidableEq, Repr

instance : Callback FixedAnswers where
  receivedIdentify answers _ _ := (answers, answers.receivedIdentify)
  identify answers := (answers, answers.identify)
  localListenAddrs answers := (answers, answers.localListenAddrs)
  addRemoteListenAddrs answers _ _ := answers
  addObservedAddr answers _ _ _ := (answers, answers.addObservedAddr)
  misbehave answers _ _ := (answers, answers.misbehave)

/-- Every answer `Continue`. -/
def FixedAnswers.permissive : FixedAnswers := ⟨.continue, [], [], .continue, .continue⟩

/-- The answers of `IdentifyCallback` to an inbound session whose payload
verifies: every report disconnects, every other call continues. -/
def FixedAnswers.strict : FixedAnswers := ⟨.continue, [], [], .continue, .disconnect⟩

/-- An inbound session without a public key. -/
def keylessSession : SessionContext := ⟨0, [], .inbound, none⟩

/-- An inbound session with a public key. -/
def keyedSession : SessionContext := ⟨1, [], .inbound, some ⟨⟨[]⟩⟩⟩

/-- A second inbound session with a public key. -/
def keyedSession2 : SessionContext := ⟨2, [], .inbound, some ⟨⟨[2]⟩⟩⟩

/-- Both keyed sessions connected at time zero, with every report answered
`Disconnect`. -/
def twoKeyed : IdentifyProtocol FixedAnswers :=
  { IdentifyProtocol.new FixedAnswers.strict with
    remoteInfos := ((∅ : RemoteInfos).insert keyedSession.id
      ⟨⟨[]⟩, keyedSession, 0, Duration.fromSecs defaultTimeout, none, none⟩).insert keyedSession2.id
      ⟨⟨[2]⟩, keyedSession2, 0, Duration.fromSecs defaultTimeout, none, none⟩ }

/-- Address utilities under which no address has a socket address. -/
def P2pUtils.unresolved : P2pUtils := ⟨fun _ => none, fun _ => false⟩

/-- An envelope codec for a table of messages: a message travels as its index. -/
def MessageCodec.table (messages : List IdentifyMessage) : MessageCodec where
  encode message := [UInt8.ofNat (messages.indexOf message)]
  decode data := data.head?.bind fun index => messages.get? index.toNat

/-- A table of at most 256 messages delivers each of them unchanged. -/
theorem MessageCodec.table_decode_encode {messages : List IdentifyMessage} {message : IdentifyMessage}
    (listed : message ∈ messages) (small : messages.length ≤ 256) :
    (MessageCodec.table messages).decode ((MessageCodec.table messages).encode message) = some message := by
  have below := List.indexOf_lt_length.mpr listed
  have index : (UInt8.ofNat (messages.indexOf message)).toNat = messages.indexOf message := by
    rw [toNat_uint8_ofNat]; omega
  simp only [MessageCodec.table, List.head?_cons, Option.some_bind, index]
  exact List.indexOf_get? listed

end Ckb.Network
