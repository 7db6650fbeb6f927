import Ckb.TxPool.Message

/-!
# The tx-pool service

The service `TxPoolServiceBuilder::start` starts, as a machine whose steps are
what can happen next, in any order: a controller call's `try_send` on the
bounded channel, the service loop receiving a message and spawning `process`
for it, the stop signal, the loop's exit, and one step of a spawned task.

A task steps from one `.await` or guard release to the next. The pool sits
behind `tokio::sync::RwLock`, whose state is the guards the tasks hold: a read
guard is granted while no write guard is out, the write guard while no guard is
out. No cap on readers is modelled, so these runs include every run the
runtime's own cap allows. The service methods outside this repository
(`get_block_template`, `process_txs`, `update_tx_pool_for_reorg`) may take and
release either guard any number of times, write any pool while they hold the
write guard, and end with any result of their type.

Once the loop has exited the runtime shuts down: a task may go on, or be
dropped at an `.await`, which drops its guard and its responder unsent.
-/

set_option autoImplicit false

namespace Ckb.TxPool

/-- A guard on `tx_pool`. -/
inductive Access where
  | read
  | write
  deriving DecidableEq, Repr

/-- Where a task spawned for a message is. -/
inductive Stage (api : TxPoolApi) where
  /-- at its first `.await`, on `tx_pool` or on the assembler's `candidate_uncles` -/
  | waiting
  /-- holding a read guard, in a read-lock arm of `process` -/
  | reading
  /-- holding the write guard in `PlugEntry`'s loop, with the entries left -/
  | plugging (rest : List api.TxEntry)
  /-- `NewUncle` between the insert and the store of `last_uncles_updated_at` -/
  | storing
  /-- inside an external service method, holding the guard it took, if any -/
  | external (hold : Option Access)
  | finished

/-- A task `handle.spawn(process(service, message))` started. -/
structure Task (api : TxPoolApi) where
  envelope : Envelope api
  stage : Stage api

/-- `BlockAssembler`, of what `NewUncle` touches. -/
structure BlockAssembler (api : TxPoolApi) where
  candidateUncles : api.CandidateUncles
  lastUnclesUpdatedAt : Nat

/-- The service and its channel. `sent` is history, not program state: the
messages `try_send` accepted, in order. -/
structure Service (api : TxPoolApi) where
  pool : api.TxPool
  blockAssembler : Option (BlockAssembler api)
  /-- the buffer of `mpsc::channel(DEFAULT_CHANNEL_SIZE)` -/
  queue : List (Envelope api)
  /-- the loop runs and holds the receiver -/
  receiving : Bool
  /-- the stop signal has been sent -/
  signalled : Bool
  /-- the spawned tasks, in spawn order -/
  tasks : List (Task api)
  /-- what the responders have received, in order -/
  replies : List (Responder × Reply api)
  nextResponder : Responder
  /-- `unix_time_as_millis()` -/
  clock : Nat
  sent : List (Envelope api)

/-- `tokio::sync::mpsc::error::TrySendError`, without the message it hands back. -/
inductive TrySendError where
  | full
  | closed
  deriving DecidableEq, Repr

/-- What an external service method can do next. -/
inductive ExternalAction (api : TxPoolApi) where
  | acquire (access : Access)
  | write (pool : api.TxPool)
  | release
  | finish (result : Option (Reply api))

/-- What can happen next. -/
inductive Event (api : TxPoolApi) where
  /-- a `TxPoolController` method's `try_send` -/
  | call (message : Message api)
  /-- the loop's `receiver.recv()` branch -/
  | receive
  /-- a controller is dropped: `stop.try_send()` -/
  | signal
  /-- the loop's signal branch: `break`, which drops the receiver -/
  | exit
  /-- a task of an arm in this repository runs to its next `.await` or release -/
  | advance (task : Nat)
  | external (task : Nat) (action : ExternalAction api)
  /-- the shutting-down runtime drops a task at an `.await` -/
  | cancel (task : Nat)
  | tick (now : Nat)

variable {api : TxPoolApi}

/-- The task a step drops, if it is the runtime's cancel. -/
def Event.cancelled : Event api → Option Nat
  | .cancel index => some index
  | _ => none

/-! ## Guards -/

def Stage.holdsRead : Stage api → Bool
  | .reading | .external (some .read) => true
  | _ => false

def Stage.holdsWrite : Stage api → Bool
  | .plugging _ | .external (some .write) => true
  | _ => false

/-- Whether a task at `stage` can be in the arm of `handler`. -/
def Stage.fits : Stage api → Handler → Bool
  | .waiting, handler => handler != .external
  | .reading, handler => handler == .read
  | .plugging _, handler => handler == .plug
  | .storing, handler => handler == .uncle
  | .external _, handler => handler == .external
  | .finished, _ => true

/-- Whether a task has yet to finish. -/
def Stage.active : Stage api → Bool
  | .finished => false
  | _ => true

theorem Stage.not_holdsWrite_of_holdsRead {stage : Stage api} (reads : stage.holdsRead = true) :
    stage.holdsWrite = false := by
  rcases stage with _ | _ | _ | _ | (_ | _ | _) | _ <;> first | rfl | cases reads

/-- The task `process` starts in: external methods are entered at once. -/
def Task.spawn (envelope : Envelope api) : Task api :=
  ⟨envelope, if envelope.message.handler = .external then .external none else .waiting⟩

theorem Task.spawn_fits (envelope : Envelope api) :
    (Task.spawn envelope).stage.fits envelope.message.handler = true := by
  unfold Task.spawn
  split <;> simp_all [Stage.fits]

@[simp] theorem Task.spawn_envelope (envelope : Envelope api) :
    (Task.spawn envelope).envelope = envelope := rfl

@[simp] theorem Task.spawn_active (envelope : Envelope api) :
    (Task.spawn envelope).stage.active = true := by
  unfold Task.spawn; split <;> rfl

@[simp] theorem Task.spawn_holdsRead (envelope : Envelope api) :
    (Task.spawn envelope).stage.holdsRead = false := by
  unfold Task.spawn; split <;> rfl

@[simp] theorem Task.spawn_holdsWrite (envelope : Envelope api) :
    (Task.spawn envelope).stage.holdsWrite = false := by
  unfold Task.spawn; split <;> rfl

namespace Service

/-- The read guards out. -/
def readers (s : Service api) : Nat := s.tasks.countP fun task => task.stage.holdsRead

/-- The write guards out. -/
def writers (s : Service api) : Nat := s.tasks.countP fun task => task.stage.holdsWrite

/-! ## Steps -/

/-- `TxPoolServiceBuilder::new(..).start()`: an empty channel, a running loop, no task. -/
def start (pool : api.TxPool) (blockAssembler : Option (BlockAssembler api)) : Service api :=
  ⟨pool, blockAssembler, [], true, false, [], [], 0, 0, []⟩

/-- `sender.try_send(message)`, with the responder the controller made for it. -/
def trySend (s : Service api) (message : Message api) : Except TrySendError (Service api) :=
  if s.receiving then
    if s.queue.length < defaultChannelSize then
      let envelope : Envelope api :=
        ⟨message, if message.hasResponder then some s.nextResponder else none⟩
      .ok { s with queue := s.queue ++ [envelope], sent := s.sent ++ [envelope],
                   nextResponder := s.nextResponder + 1 }
    else .error .full
  else .error .closed

/-- Task `index`, which is `task`, moves to `stage`. -/
def setStage (s : Service api) (index : Nat) (task : Task api) (stage : Stage api) : Service api :=
  { s with tasks := s.tasks.set index { task with stage } }

/-- The next step of task `index`, which is `task`, in an arm of `process` in
this repository. -/
def advance (s : Service api) (index : Nat) (task : Task api) : Option (Service api) :=
  match task.envelope.message, task.stage with
  | .plugEntry entries _, .waiting =>
      if s.readers = 0 ∧ s.writers = 0 then some (s.setStage index task (.plugging entries)) else none
  | .plugEntry _ target, .plugging (entry :: rest) =>
      some ({ s with pool := target.add api s.pool entry }.setStage index task (.plugging rest))
  | .plugEntry .., .plugging [] =>
      some ({ s with replies := s.replies ++ task.envelope.answer (some .plugEntry) }.setStage
        index task .finished)
  | .newUncle uncle, .waiting =>
      match s.blockAssembler with
      | some assembler =>
          some ({ s with blockAssembler := some { assembler with
            candidateUncles := api.insertUncle assembler.candidateUncles uncle } }.setStage
              index task .storing)
      | none => some (s.setStage index task .finished)
  | .newUncle _, .storing =>
      some ({ s with blockAssembler := s.blockAssembler.map fun (assembler : BlockAssembler api) =>
        { assembler with lastUnclesUpdatedAt := s.clock } }.setStage index task .finished)
  | message, .waiting =>
      if message.handler = .read ∧ s.writers = 0 then some (s.setStage index task .reading) else none
  | message, .reading =>
      (readReply s.pool message).map fun reply =>
        { s with replies := s.replies ++ task.envelope.answer (some reply) }.setStage
          index task .finished
  | _, _ => none

/-- The next step of task `index`, which is `task`, inside an external method. -/
def externalStep (s : Service api) (index : Nat) (task : Task api) :
    ExternalAction api → Option (Service api)
  | .acquire access =>
      match task.stage with
      | .external none =>
          if s.writers = 0 ∧ (access = .read ∨ s.readers = 0) then
            some (s.setStage index task (.external (some access)))
          else none
      | _ => none
  | .write pool =>
      match task.stage with
      | .external (some .write) => some { s with pool }
      | _ => none
  | .release =>
      match task.stage with
      | .external (some _) => some (s.setStage index task (.external none))
      | _ => none
  | .finish result =>
      match task.stage with
      | .external none =>
          if task.envelope.message.endsWith result then
            some ({ s with replies := s.replies ++ task.envelope.answer result }.setStage
              index task .finished)
          else none
      | _ => none

/-- The runtime, shut down after the loop's exit, drops task `index` at an `.await`. -/
def cancel (s : Service api) (index : Nat) (task : Task api) : Option (Service api) :=
  if s.receiving then none
  else
    match task.stage with
    | .waiting | .external _ => some (s.setStage index task .finished)
    | _ => none

def step (s : Service api) : Event api → Option (Service api)
  | .call message =>
      match s.trySend message with
      | .ok sent => some sent
      | .error _ => some s
  | .receive =>
      match s.receiving, s.queue with
      | true, envelope :: rest => some { s with queue := rest, tasks := s.tasks ++ [Task.spawn envelope] }
      | _, _ => none
  | .signal => some { s with signalled := true }
  | .exit => if s.receiving ∧ s.signalled then some { s with receiving := false } else none
  | .advance index => s.tasks[index]?.bind (s.advance index)
  | .external index action => s.tasks[index]?.bind fun task => s.externalStep index task action
  | .cancel index => s.tasks[index]?.bind (s.cancel index)
  | .tick now => some { s with clock := now }

/-- The states the service can be in after some steps from `init`. -/
inductive Reachable (init : Service api) : Service api → Prop
  | start : Reachable init init
  | step {s s' : Service api} (event : Event api) :
      Reachable init s → s.step event = some s' → Reachable init s'

theorem Reachable.trans {init s s' : Service api} (first : Reachable init s)
    (second : Reachable s s') : Reachable init s' := by
  induction second with
  | start => exact first
  | step event _ stepped reached => exact .step event reached stepped

/-- The events run in order; `none` if one cannot happen. -/
def run (s : Service api) : List (Event api) → Option (Service api)
  | [] => some s
  | event :: rest => (s.step event).bind fun next => next.run rest

theorem Reachable.of_run {init s : Service api} {events : List (Event api)}
    (ran : init.run events = some s) : Reachable init s := by
  induction events generalizing init with
  | nil => cases ran; exact .start
  | cons event rest ih =>
    obtain ⟨next, stepped, ran⟩ := Option.bind_eq_some.mp ran
    exact (Reachable.step event .start stepped).trans (ih ran)

/-! ## What one step does -/

section Lemmas

variable {s s' : Service api} {index : Nat} {task : Task api} {stage : Stage api}

@[simp] theorem setStage_pool : (s.setStage index task stage).pool = s.pool := rfl
@[simp] theorem setStage_replies : (s.setStage index task stage).replies = s.replies := rfl
@[simp] theorem setStage_queue : (s.setStage index task stage).queue = s.queue := rfl
@[simp] theorem setStage_sent : (s.setStage index task stage).sent = s.sent := rfl
@[simp] theorem setStage_receiving : (s.setStage index task stage).receiving = s.receiving := rfl
@[simp] theorem setStage_nextResponder :
    (s.setStage index task stage).nextResponder = s.nextResponder := rfl

theorem getElem?_setStage (found : s.tasks[index]? = some task) (other : Nat) :
    (s.setStage index task stage).tasks[other]? =
      if index = other then some { task with stage } else s.tasks[other]? := by
  have bound : index < s.tasks.length := (List.getElem?_eq_some_iff.mp found).1
  simp only [setStage, List.getElem?_set, bound, if_true]

theorem envelopes_setStage (found : s.tasks[index]? = some task) :
    (s.setStage index task stage).tasks.map Task.envelope = s.tasks.map Task.envelope := by
  apply List.ext_getElem?
  intro other
  simp only [List.getElem?_map, getElem?_setStage found]
  split
  · subst_vars; simp [found]
  · rfl

theorem countP_setStage (found : s.tasks[index]? = some task) (p : Task api → Bool) :
    (s.setStage index task stage).tasks.countP p =
      s.tasks.countP p - (if p task then 1 else 0) + (if p { task with stage } then 1 else 0) := by
  obtain ⟨bound, rfl⟩ := List.getElem?_eq_some_iff.mp found
  exact List.countP_set p s.tasks index _ bound

theorem readers_setStage (found : s.tasks[index]? = some task) :
    (s.setStage index task stage).readers =
      s.readers - (if task.stage.holdsRead then 1 else 0) + (if stage.holdsRead then 1 else 0) :=
  countP_setStage found _

theorem writers_setStage (found : s.tasks[index]? = some task) :
    (s.setStage index task stage).writers =
      s.writers - (if task.stage.holdsWrite then 1 else 0) + (if stage.holdsWrite then 1 else 0) :=
  countP_setStage found _

theorem mem_setStage {other : Task api} (mem : other ∈ (s.setStage index task stage).tasks) :
    other ∈ s.tasks ∨ other = { task with stage } :=
  List.mem_or_eq_of_mem_set mem

/-- How a task step moves a task: the guard it may newly take is granted. -/
structure Grants (s : Service api) (task : Task api) (stage : Stage api) : Prop where
  read : stage.holdsRead = true → task.stage.holdsRead = true ∨ s.writers = 0
  write : stage.holdsWrite = true → task.stage.holdsWrite = true ∨ (s.readers = 0 ∧ s.writers = 0)

/-- A step of an arm of `process` in this repository. -/
theorem advance_cases (advanced : s.advance index task = some s') :
    (∃ entries target, task.envelope.message = .plugEntry entries target ∧ task.stage = .waiting ∧
        s.readers = 0 ∧ s.writers = 0 ∧ s' = s.setStage index task (.plugging entries)) ∨
    (∃ entries target entry rest, task.envelope.message = .plugEntry entries target ∧
        task.stage = .plugging (entry :: rest) ∧
        s' = { s with pool := target.add api s.pool entry }.setStage index task (.plugging rest)) ∨
    (∃ entries target, task.envelope.message = .plugEntry entries target ∧ task.stage = .plugging [] ∧
        s' = { s with replies := s.replies ++ task.envelope.answer (some .plugEntry) }.setStage
          index task .finished) ∨
    (∃ uncle, task.envelope.message = .newUncle uncle ∧
        (task.stage = .waiting ∨ task.stage = .storing) ∧ s'.pool = s.pool ∧ s'.replies = s.replies ∧
        ∃ stage, (stage = .storing ∨ stage = .finished) ∧
          s'.tasks = (s.setStage index task stage).tasks ∧ s'.queue = s.queue ∧ s'.sent = s.sent ∧
          s'.receiving = s.receiving ∧ s'.nextResponder = s.nextResponder ∧
          ((task.stage = .waiting ∧ stage = .storing ∧ ∃ assembler, s.blockAssembler = some assembler ∧
              s'.blockAssembler.map (·.candidateUncles) = some (api.insertUncle assembler.candidateUncles uncle)) ∨
            (stage = .finished ∧ (task.stage = .storing ∨ s.blockAssembler = none) ∧
              s'.blockAssembler.map (·.candidateUncles) = s.blockAssembler.map (·.candidateUncles)))) ∨
    (task.envelope.message.handler = .read ∧ task.stage = .waiting ∧ s.writers = 0 ∧
        s' = s.setStage index task .reading) ∨
    (∃ reply, readReply s.pool task.envelope.message = some reply ∧ task.stage = .reading ∧
        s' = { s with replies := s.replies ++ task.envelope.answer (some reply) }.setStage
          index task .finished) := by
  unfold advance at advanced
  split at advanced
  · split at advanced
    · rename_i free
      cases advanced; exact .inl ⟨_, _, ‹_›, ‹_›, free.1, free.2, rfl⟩
    · cases advanced
  · cases advanced; exact .inr <| .inl ⟨_, _, _, _, ‹_›, ‹_›, rfl⟩
  · cases advanced; exact .inr <| .inr <| .inl ⟨_, _, ‹_›, ‹_›, rfl⟩
  · split at advanced <;> cases advanced
    · exact .inr <| .inr <| .inr <| .inl ⟨_, ‹_›, .inl ‹_›, rfl, rfl, _, .inl rfl, rfl, rfl, rfl, rfl, rfl,
        .inl ⟨‹_›, rfl, _, ‹_›, rfl⟩⟩
    · exact .inr <| .inr <| .inr <| .inl ⟨_, ‹_›, .inl ‹_›, rfl, rfl, _, .inr rfl, rfl, rfl, rfl, rfl, rfl,
        .inr ⟨rfl, .inr ‹_›, rfl⟩⟩
  · cases advanced
    exact .inr <| .inr <| .inr <| .inl ⟨_, ‹_›, .inr ‹_›, rfl, rfl, _, .inr rfl, rfl, rfl, rfl, rfl, rfl,
      .inr ⟨rfl, .inl ‹_›, by cases s.blockAssembler <;> rfl⟩⟩
  · split at advanced
    · rename_i free
      cases advanced; exact .inr <| .inr <| .inr <| .inr <| .inl ⟨free.1, ‹_›, free.2, rfl⟩
    · cases advanced
  · obtain ⟨reply, replied, rfl⟩ := Option.map_eq_some'.mp advanced
    exact .inr <| .inr <| .inr <| .inr <| .inr ⟨reply, replied, ‹_›, rfl⟩
  · cases advanced

/-- A step inside an external method. -/
theorem externalStep_cases {action : ExternalAction api}
    (stepped : s.externalStep index task action = some s') :
    (∃ access, task.stage = .external none ∧ s.writers = 0 ∧ (access = .read ∨ s.readers = 0) ∧
        s' = s.setStage index task (.external (some access))) ∨
    (∃ pool, task.stage = .external (some .write) ∧ s' = { s with pool }) ∨
    (∃ access, task.stage = .external (some access) ∧ s' = s.setStage index task (.external none)) ∨
    (∃ result, task.stage = .external none ∧ task.envelope.message.endsWith result = true ∧
        s' = { s with replies := s.replies ++ task.envelope.answer result }.setStage
          index task .finished) := by
  unfold externalStep at stepped
  split at stepped <;> split at stepped <;> try cases stepped
  · split at stepped
    · rename_i free
      cases stepped; exact .inl ⟨_, ‹_›, free.1, free.2, rfl⟩
    · cases stepped
  · exact .inr <| .inl ⟨_, ‹_›, rfl⟩
  · exact .inr <| .inr <| .inl ⟨_, ‹_›, rfl⟩
  · split at stepped
    · cases stepped; exact .inr <| .inr <| .inr ⟨_, ‹_›, ‹_›, rfl⟩
    · cases stepped

theorem cancel_cases (cancelled : s.cancel index task = some s') :
    s.receiving = false ∧ (task.stage = .waiting ∨ ∃ hold, task.stage = .external hold) ∧
      s' = s.setStage index task .finished := by
  unfold cancel at cancelled
  split at cancelled
  · cases cancelled
  · split at cancelled <;> cases cancelled <;> simp_all

theorem trySend_ok {message : Message api} (sent : s.trySend message = .ok s') :
    s.receiving = true ∧ s.queue.length < defaultChannelSize ∧
      s' = { s with queue := s.queue ++ [⟨message, if message.hasResponder then some s.nextResponder else none⟩],
                    sent := s.sent ++ [⟨message, if message.hasResponder then some s.nextResponder else none⟩],
                    nextResponder := s.nextResponder + 1 } := by
  unfold trySend at sent
  split at sent
  · split at sent
    · cases sent; exact ⟨‹_›, ‹_›, rfl⟩
    · cases sent
  · cases sent

theorem setStage_self (found : s.tasks[index]? = some task) :
    (s.setStage index task task.stage).tasks = s.tasks := by
  apply List.ext_getElem?
  intro other
  rw [getElem?_setStage found]
  split
  · subst_vars; exact found.symm
  · rfl

/-- What a step of task `index`, which is `task`, changes: the task moves on to
`stage`, taking only a guard that is free, and when it finishes its responder
may be sent the handler's result; the channel is left alone, and only a task
holding the write guard changes the pool. No task goes back to waiting, and
only `NewUncle`'s insert changes the candidate uncles. -/
structure Moves (s s' : Service api) (index : Nat) (task : Task api) (stage : Stage api) : Prop where
  tasks : s'.tasks = (s.setStage index task stage).tasks
  queue : s'.queue = s.queue
  sent : s'.sent = s.sent
  receiving : s'.receiving = s.receiving
  nextResponder : s'.nextResponder = s.nextResponder
  pool : s'.pool = s.pool ∨ task.stage.holdsWrite = true
  active : task.stage.active = true
  grants : Grants s task stage
  fits : task.stage.fits task.envelope.message.handler = true →
    stage.fits task.envelope.message.handler = true
  replies : s'.replies = s.replies ∨
    (stage = .finished ∧ ∃ result, s'.replies = s.replies ++ task.envelope.answer result)
  started : stage ≠ .waiting
  uncles : (stage ≠ .storing ∧
      s'.blockAssembler.map (·.candidateUncles) = s.blockAssembler.map (·.candidateUncles)) ∨
    (task.stage = .waiting ∧ stage = .storing ∧ ∃ uncle assembler, task.envelope.message = .newUncle uncle ∧
      s.blockAssembler = some assembler ∧
      s'.blockAssembler.map (·.candidateUncles) = some (api.insertUncle assembler.candidateUncles uncle))

theorem Grants.of_free (read : stage.holdsRead = false) (write : stage.holdsWrite = false) :
    Grants s task stage :=
  ⟨fun held => absurd held (by simp [read]), fun held => absurd held (by simp [write])⟩

theorem Grants.of_kept (read : stage.holdsRead = true → task.stage.holdsRead = true)
    (write : stage.holdsWrite = true → task.stage.holdsWrite = true) : Grants s task stage :=
  ⟨fun held => .inl (read held), fun held => .inl (write held)⟩

/-- A `NewUncle` at its first `.await` under a configured assembler moves on
only by its insert. -/
def Inserts (s : Service api) (task : Task api) (stage : Stage api) : Prop :=
  task.stage = .waiting → task.envelope.message.handler = .uncle → s.blockAssembler.isSome → stage = .storing

theorem advance_moves (advanced : s.advance index task = some s') :
    ∃ stage, Moves s s' index task stage ∧ Inserts s task stage := by
  rcases advance_cases advanced with
    ⟨entries, target, message, waiting, noReaders, noWriters, rfl⟩ |
    ⟨entries, target, entry, rest, message, plugging, rfl⟩ |
    ⟨entries, target, message, plugging, rfl⟩ |
    ⟨uncle, message, before, pool, replies, stage, after, tasks, queue, sent, receiving, next, uncles⟩ |
    ⟨reads, waiting, noWriters, rfl⟩ |
    ⟨reply, replied, reading, rfl⟩
  · refine ⟨_, ⟨rfl, rfl, rfl, rfl, rfl, .inl rfl, by rw [waiting]; rfl,
      ⟨(fun held => by cases held), fun _ => .inr ⟨noReaders, noWriters⟩⟩,
      fun _ => by rw [message]; rfl, .inl rfl, nofun, .inl ⟨nofun, rfl⟩⟩, fun _ uncle => ?_⟩
    rw [message] at uncle; cases uncle
  · exact ⟨_, ⟨rfl, rfl, rfl, rfl, rfl, .inr (by rw [plugging]; rfl), by rw [plugging]; rfl,
      .of_kept (fun held => by cases held) (fun _ => by rw [plugging]; rfl),
      fun _ => by rw [message]; rfl, .inl rfl, nofun, .inl ⟨nofun, rfl⟩⟩,
      fun waiting => by rw [plugging] at waiting; cases waiting⟩
  · exact ⟨_, ⟨rfl, rfl, rfl, rfl, rfl, .inl rfl, by rw [plugging]; rfl, .of_free rfl rfl, fun _ => rfl,
      .inr ⟨rfl, _, rfl⟩, nofun, .inl ⟨nofun, rfl⟩⟩, fun waiting => by rw [plugging] at waiting; cases waiting⟩
  · refine ⟨stage, ⟨tasks, queue, sent, receiving, next, .inl pool, ?_, .of_free ?_ ?_, fun _ => ?_, .inl replies, ?_,
      ?assembler⟩, ?inserts⟩
    case assembler =>
      rcases uncles with ⟨waiting, rfl, assembler, found, inserted⟩ | ⟨rfl, -, same⟩
      · exact .inr ⟨waiting, rfl, uncle, assembler, message, found, inserted⟩
      · exact .inl ⟨nofun, same⟩
    case inserts =>
      intro waiting _ configured
      rcases uncles with ⟨-, rfl, -⟩ | ⟨-, storing | none, -⟩
      · rfl
      · rw [waiting] at storing; cases storing
      · rw [none] at configured; cases configured
    all_goals rcases before with before | before <;> rcases after with rfl | rfl <;>
      simp [before, message, Stage.active, Stage.holdsRead, Stage.holdsWrite, Stage.fits, Message.handler]
  · refine ⟨_, ⟨rfl, rfl, rfl, rfl, rfl, .inl rfl, by rw [waiting]; rfl,
      ⟨fun _ => .inr noWriters, (fun held => by cases held)⟩,
      fun _ => by simp [Stage.fits, reads], .inl rfl, nofun, .inl ⟨nofun, rfl⟩⟩, fun _ uncle => ?_⟩
    rw [reads] at uncle; cases uncle
  · exact ⟨_, ⟨rfl, rfl, rfl, rfl, rfl, .inl rfl, by rw [reading]; rfl, .of_free rfl rfl, fun _ => rfl,
      .inr ⟨rfl, _, rfl⟩, nofun, .inl ⟨nofun, rfl⟩⟩, fun waiting => by rw [reading] at waiting; cases waiting⟩

theorem externalStep_moves {action : ExternalAction api} (found : s.tasks[index]? = some task)
    (stepped : s.externalStep index task action = some s') :
    ∃ stage, Moves s s' index task stage ∧ Inserts s task stage := by
  have outside : ∃ hold, task.stage = .external hold := by
    rcases externalStep_cases stepped with ⟨_, outside, -⟩ | ⟨_, outside, -⟩ | ⟨_, outside, -⟩ | ⟨_, outside, -⟩ <;>
      exact ⟨_, outside⟩
  have inserts : ∀ stage, Inserts s task stage := fun _ waiting => by
    obtain ⟨hold, outside⟩ := outside
    rw [outside] at waiting; cases waiting
  rcases externalStep_cases stepped with
    ⟨access, outside, noWriters, free, rfl⟩ | ⟨pool, writing, rfl⟩ | ⟨access, holding, rfl⟩ |
    ⟨result, outside, ends, rfl⟩
  · refine ⟨_, ⟨rfl, rfl, rfl, rfl, rfl, .inl rfl, by rw [outside]; rfl, ⟨fun _ => .inr noWriters, ?_⟩,
      by simp [outside, Stage.fits], .inl rfl, nofun, .inl ⟨nofun, rfl⟩⟩, inserts _⟩
    cases access
    · exact fun held => by cases held
    · exact fun _ => .inr ⟨free.resolve_left (by decide), noWriters⟩
  · exact ⟨_, ⟨(setStage_self found).symm, rfl, rfl, rfl, rfl, .inr (by rw [writing]; rfl), by rw [writing]; rfl,
      .of_kept id id, id, .inl rfl, by rw [writing]; nofun,
      .inl ⟨by rw [writing]; nofun, rfl⟩⟩, inserts _⟩
  · exact ⟨_, ⟨rfl, rfl, rfl, rfl, rfl, .inl rfl, by rw [holding]; rfl, .of_free rfl rfl,
      by simp [holding, Stage.fits], .inl rfl, nofun, .inl ⟨nofun, rfl⟩⟩, inserts _⟩
  · exact ⟨_, ⟨rfl, rfl, rfl, rfl, rfl, .inl rfl, by rw [outside]; rfl, .of_free rfl rfl, fun _ => rfl,
      .inr ⟨rfl, _, rfl⟩, nofun, .inl ⟨nofun, rfl⟩⟩, inserts _⟩

theorem cancel_moves (cancelled : s.cancel index task = some s') :
    ∃ stage, Moves s s' index task stage := by
  obtain ⟨-, waiting, rfl⟩ := cancel_cases cancelled
  refine ⟨_, rfl, rfl, rfl, rfl, rfl, .inl rfl, ?_, .of_free rfl rfl, fun _ => rfl, .inl rfl, nofun,
    .inl ⟨nofun, rfl⟩⟩
  rcases waiting with waiting | ⟨hold, waiting⟩ <;> rw [waiting] <;> rfl

/-- What one step of the service can do: leave the tasks and the channel alone,
accept a message, spawn a task for the next one, or move one task on, where a
`NewUncle` at its first `.await` under an assembler is moved on only by its
insert or by being dropped. -/
theorem step_cases {event : Event api} (stepped : s.step event = some s') :
    (s'.tasks = s.tasks ∧ s'.pool = s.pool ∧ s'.replies = s.replies ∧ s'.queue = s.queue ∧
        s'.sent = s.sent ∧ s'.nextResponder = s.nextResponder ∧
        (s'.receiving = true → s.receiving = true) ∧ s'.blockAssembler = s.blockAssembler) ∨
    (∃ message, s.trySend message = .ok s') ∨
    (∃ envelope rest, s.receiving = true ∧ s.queue = envelope :: rest ∧
        s' = { s with queue := rest, tasks := s.tasks ++ [Task.spawn envelope] }) ∨
    (∃ index task stage, s.tasks[index]? = some task ∧ Moves s s' index task stage ∧
      (event = .cancel index ∨ Inserts s task stage)) := by
  cases event with
  | call message =>
    simp only [step] at stepped
    split at stepped
    · cases stepped; exact .inr <| .inl ⟨message, ‹_›⟩
    · cases stepped; exact .inl ⟨rfl, rfl, rfl, rfl, rfl, rfl, id, rfl⟩
  | receive =>
    simp only [step] at stepped
    split at stepped
    · cases stepped; exact .inr <| .inr <| .inl ⟨_, _, ‹_›, ‹_›, rfl⟩
    · cases stepped
  | signal => cases stepped; exact .inl ⟨rfl, rfl, rfl, rfl, rfl, rfl, id, rfl⟩
  | exit =>
    simp only [step] at stepped
    split at stepped
    · cases stepped; exact .inl ⟨rfl, rfl, rfl, rfl, rfl, rfl, (fun h => by cases h), rfl⟩
    · cases stepped
  | tick now => cases stepped; exact .inl ⟨rfl, rfl, rfl, rfl, rfl, rfl, id, rfl⟩
  | advance index =>
    obtain ⟨task, found, advanced⟩ := Option.bind_eq_some.mp stepped
    obtain ⟨stage, moves, inserts⟩ := advance_moves advanced
    exact .inr <| .inr <| .inr ⟨index, task, stage, found, moves, .inr inserts⟩
  | external index action =>
    obtain ⟨task, found, advanced⟩ := Option.bind_eq_some.mp stepped
    obtain ⟨stage, moves, inserts⟩ := externalStep_moves found advanced
    exact .inr <| .inr <| .inr ⟨index, task, stage, found, moves, .inr inserts⟩
  | cancel index =>
    obtain ⟨task, found, cancelled⟩ := Option.bind_eq_some.mp stepped
    obtain ⟨stage, moves⟩ := cancel_moves cancelled
    exact .inr <| .inr <| .inr ⟨index, task, stage, found, moves, .inl rfl⟩

end Lemmas

end Service

end Ckb.TxPool
