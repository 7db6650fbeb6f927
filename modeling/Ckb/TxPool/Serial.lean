import Ckb.TxPool.Invariants

/-!
# The service is serializable

What the tx-pool service is for, stated as a machine of its own, `Serial`:
every dispatched message is handled in one step on the pool, as if alone. An
arm of `process` in this repository reads the pool and answers, or, for
`PlugEntry`, adds its whole batch and answers. An external method commits
whole write sections and ends with a result; the runtime may drop a message.

The service refines it: every state the service reaches, under any
interleaving of the tasks, is matched by a run of `Serial` with the same jobs
and the same replies, whose pool is the one the service has committed, its own
when no write guard is out. So no reply is computed from a pool that a
`PlugEntry` batch or an external write section has half changed: the read and
write guards of `process` make each arm atomic.
-/

set_option autoImplicit false

namespace Ckb.TxPool

/-- A dispatched message and whether it is still being handled. -/
structure Job (api : TxPoolApi) where
  envelope : Envelope api
  pending : Bool

/-- The service with atomic handlers: its pool, the messages dispatched to it,
in order, and what the responders have received. -/
structure Serial (api : TxPoolApi) where
  pool : api.TxPool
  jobs : List (Job api)
  replies : List (Responder × Reply api)

/-- What can happen next in `Serial`. -/
inductive SerialEvent (api : TxPoolApi) where
  | dispatch (envelope : Envelope api)
  /-- an arm of `process` in this repository, start to end -/
  | handle (job : Nat)
  /-- a whole write section of an external method -/
  | commit (job : Nat) (pool : api.TxPool)
  | finish (job : Nat) (result : Option (Reply api))
  | drop (job : Nat)

variable {api : TxPoolApi}

namespace Serial

/-- Job `index`, for `envelope`, is done, and its responder is sent `result`. -/
def close (a : Serial api) (index : Nat) (envelope : Envelope api) (result : Option (Reply api)) :
    Serial api :=
  { a with jobs := a.jobs.set index ⟨envelope, false⟩, replies := a.replies ++ envelope.answer result }

def step (a : Serial api) : SerialEvent api → Option (Serial api)
  | .dispatch envelope => some { a with jobs := a.jobs ++ [⟨envelope, true⟩] }
  | .handle index =>
      match a.jobs[index]? with
      | some ⟨envelope, true⟩ =>
          (serve a.pool envelope.message).map fun served =>
            { a.close index envelope served.2 with pool := served.1 }
      | _ => none
  | .commit index pool =>
      match a.jobs[index]? with
      | some ⟨envelope, true⟩ =>
          if envelope.message.handler = .external then some { a with pool } else none
      | _ => none
  | .finish index result =>
      match a.jobs[index]? with
      | some ⟨envelope, true⟩ =>
          if envelope.message.endsWith result then some (a.close index envelope result) else none
      | _ => none
  | .drop index =>
      match a.jobs[index]? with
      | some ⟨envelope, true⟩ => some (a.close index envelope none)
      | _ => none

/-- The states `Serial` reaches from `init`. -/
inductive Reachable (init : Serial api) : Serial api → Prop
  | start : Reachable init init
  | step {a a' : Serial api} (event : SerialEvent api) :
      Reachable init a → a.step event = some a' → Reachable init a'

theorem Reachable.trans {init a a' : Serial api} (first : Reachable init a)
    (second : Reachable a a') : Reachable init a' := by
  induction second with
  | start => exact first
  | step event _ stepped reached => exact .step event reached stepped

theorem Reachable.single {a a' : Serial api} {event : SerialEvent api}
    (stepped : a.step event = some a') : Reachable a a' :=
  .step event .start stepped

end Serial

theorem serve_of_readReply {pool : api.TxPool} {message : Message api} {reply : Reply api}
    (replied : readReply pool message = some reply) : serve pool message = some (pool, some reply) := by
  cases message <;> cases replied <;> rfl

@[simp] theorem Envelope.answer_none (envelope : Envelope api) : envelope.answer none = [] := by
  unfold Envelope.answer; split <;> simp_all

/-! ## Matching the service with `Serial` -/

/-- The job a task is working on. -/
def Task.job (task : Task api) : Job api := ⟨task.envelope, task.stage.active⟩

/-- How far a `PlugEntry` batch in progress has got: the entries it has added
have taken `committed` to `pool`. Other tasks have nothing in progress. -/
def Task.Batch (task : Task api) (pool committed : api.TxPool) : Prop :=
  match task.envelope.message, task.stage with
  | .plugEntry entries target, .plugging rest =>
      ∃ done, entries = done ++ rest ∧ pool = plugEntry committed done target
  | _, _ => True

theorem Task.batch_of_not_plugging {task : Task api} (other : ∀ rest, task.stage ≠ .plugging rest)
    (pool committed : api.TxPool) : task.Batch pool committed := by
  unfold Task.Batch
  split
  · exact absurd ‹_› (other _)
  · trivial

theorem Task.batch_of_not_holdsWrite {task : Task api} (free : task.stage.holdsWrite = false)
    (pool committed : api.TxPool) : task.Batch pool committed :=
  Task.batch_of_not_plugging (fun rest plugging => by rw [plugging] at free; cases free) pool committed

theorem Task.batch_plugging {task : Task api} {entries : List api.TxEntry} {target : PlugTarget}
    {rest : List api.TxEntry} (message : task.envelope.message = .plugEntry entries target)
    (plugging : task.stage = .plugging rest) {pool committed : api.TxPool} :
    task.Batch pool committed ↔ ∃ done, entries = done ++ rest ∧ pool = plugEntry committed done target := by
  unfold Task.Batch; rw [message, plugging]

theorem Task.batch_with_plugging {task : Task api} {entries : List api.TxEntry} {target : PlugTarget}
    (message : task.envelope.message = .plugEntry entries target) {rest : List api.TxEntry}
    {pool committed : api.TxPool} :
    ({ task with stage := .plugging rest } : Task api).Batch pool committed ↔
      ∃ done, entries = done ++ rest ∧ pool = plugEntry committed done target :=
  @Task.batch_plugging api { task with stage := .plugging rest } entries target rest message rfl
    pool committed

namespace Service

variable {s s' : Service api} {a : Serial api}

/-- `a` is what `s` has committed: the same jobs and replies, and the pool as it
is when no write guard is out, or as a batch in progress found it. -/
structure Serializes (s : Service api) (a : Serial api) : Prop where
  jobs : a.jobs = s.tasks.map Task.job
  replies : a.replies = s.replies
  quiet : s.writers = 0 → s.pool = a.pool
  batch : ∀ (index : Nat) (task : Task api), s.tasks[index]? = some task → task.Batch s.pool a.pool

section Moves

variable {index : Nat} {task : Task api} {stage : Stage api}

theorem jobs_setStage :
    (s.setStage index task stage).tasks.map Task.job =
      (s.tasks.map Task.job).set index ⟨task.envelope, stage.active⟩ := by
  simp only [setStage, List.map_set]; rfl

theorem jobs_set_self (found : s.tasks[index]? = some task) (active : task.stage.active = true) :
    (s.tasks.map Task.job).set index ⟨task.envelope, true⟩ = s.tasks.map Task.job := by
  rw [← active, ← jobs_setStage, setStage_self found]

theorem Serializes.job (serializes : s.Serializes a) (found : s.tasks[index]? = some task)
    (active : task.stage.active = true) : a.jobs[index]? = some ⟨task.envelope, true⟩ := by
  rw [serializes.jobs, List.getElem?_map, found, Option.map_some', ← active]; rfl

/-- A step that moves task `index` on and leaves the rest as it was: the
service's pool and the committed one are read only through the new task and the
others' batches. -/
theorem serializes_of_move {a' : Serial api} (found : s.tasks[index]? = some task)
    (jobs : a.jobs = s.tasks.map Task.job)
    (tasks : s'.tasks = (s.setStage index task stage).tasks)
    (jobs' : a'.jobs = a.jobs.set index ⟨task.envelope, stage.active⟩)
    (replies : a'.replies = s'.replies) (quiet : s'.writers = 0 → s'.pool = a'.pool)
    (mine : ({ task with stage } : Task api).Batch s'.pool a'.pool)
    (others : ∀ other otherTask, s.tasks[other]? = some otherTask → index ≠ other →
      otherTask.Batch s'.pool a'.pool) :
    s'.Serializes a' := by
  refine ⟨by rw [jobs', tasks, jobs_setStage, jobs], replies, quiet, ?_⟩
  intro other otherTask foundOther
  rw [tasks, getElem?_setStage found] at foundOther
  split at foundOther
  · cases foundOther; exact mine
  · exact others other otherTask foundOther ‹_›

/-- A move that leaves the pool, the committed pool and the replies alone and
drops no write guard. -/
theorem Serializes.stay (serializes : s.Serializes a) (found : s.tasks[index]? = some task)
    (active : task.stage.active = true) (stays : stage.active = true)
    (tasks : s'.tasks = (s.setStage index task stage).tasks) (pool : s'.pool = s.pool)
    (replies : s'.replies = s.replies)
    (keeps : (s.setStage index task stage).writers = 0 → s.writers = 0)
    (mine : ({ task with stage } : Task api).Batch s.pool a.pool) : s'.Serializes a :=
  serializes_of_move found serializes.jobs tasks
    (by rw [stays, serializes.jobs, jobs_set_self found active])
    (by rw [replies]; exact serializes.replies)
    (fun free => pool ▸ serializes.quiet (keeps (by unfold writers at free ⊢; rwa [← tasks])))
    (pool ▸ mine) fun other otherTask foundOther _ => pool ▸ serializes.batch other otherTask foundOther

/-- A move that finishes task `index` without touching the pool or the write guard. -/
theorem Serializes.finish {result : Option (Reply api)} (serializes : s.Serializes a)
    (found : s.tasks[index]? = some task)
    (tasks : s'.tasks = (s.setStage index task .finished).tasks) (pool : s'.pool = s.pool)
    (replies : s'.replies = s.replies ++ task.envelope.answer result)
    (keeps : (s.setStage index task .finished).writers = 0 → s.writers = 0) :
    s'.Serializes (a.close index task.envelope result) :=
  serializes_of_move found serializes.jobs tasks rfl
    (by rw [replies, ← serializes.replies]; rfl)
    (fun free => pool ▸ serializes.quiet (keeps (by unfold writers at free ⊢; rwa [← tasks])))
    (Task.batch_of_not_holdsWrite (show ({ task with stage := .finished } : Task api).stage.holdsWrite
      = false from rfl) _ _)
    fun other otherTask foundOther _ => pool ▸ serializes.batch other otherTask foundOther

/-- While task `index` holds the write guard, every other task's batch holds of any pools. -/
theorem others_free (invariant : s.Invariant) (found : s.tasks[index]? = some task)
    (writes : task.stage.holdsWrite = true) (pool committed : api.TxPool) :
    ∀ other otherTask, s.tasks[other]? = some otherTask → index ≠ other →
      otherTask.Batch pool committed := by
  intro other otherTask foundOther apart
  refine Task.batch_of_not_holdsWrite ?_ _ _
  cases holds : otherTask.stage.holdsWrite
  · rfl
  · exact absurd (invariant.exclusive.index_eq found writes foundOther holds) apart

theorem writers_pos (found : s.tasks[index]? = some task) (writes : task.stage.holdsWrite = true) :
    s.writers ≠ 0 :=
  Nat.pos_iff_ne_zero.mp (one_le_countP found (p := fun task => task.stage.holdsWrite) writes)

theorem writers_setStage_keeps (found : s.tasks[index]? = some task)
    (keeps : task.stage.holdsWrite = true → stage.holdsWrite = true) :
    (s.setStage index task stage).writers = 0 → s.writers = 0 := by
  rw [writers_setStage found]
  have held : task.stage.holdsWrite = true → 1 ≤ s.writers :=
    one_le_countP found (p := fun task => task.stage.holdsWrite)
  revert keeps held
  cases task.stage.holdsWrite <;> cases stage.holdsWrite <;> simp

theorem keeps_of_free (found : s.tasks[index]? = some task) (free : task.stage.holdsWrite = false) :
    (s.setStage index task stage).writers = 0 → s.writers = 0 :=
  writers_setStage_keeps found fun held => absurd held (by rw [free]; decide)

theorem batch_finished (pool committed : api.TxPool) :
    ({ task with stage := .finished } : Task api).Batch pool committed :=
  Task.batch_of_not_holdsWrite (by rfl) pool committed

theorem Serializes.advance (invariant : s.Invariant) (serializes : s.Serializes a)
    (found : s.tasks[index]? = some task) (advanced : s.advance index task = some s') :
    ∃ a', Serial.Reachable a a' ∧ s'.Serializes a' := by
  rcases advance_cases advanced with
    ⟨entries, target, message, waiting, -, noWriters, rfl⟩ |
    ⟨entries, target, entry, rest, message, plugging, rfl⟩ |
    ⟨entries, target, message, plugging, rfl⟩ |
    ⟨uncle, message, before, pool, replies, stage, after, tasks, -⟩ |
    ⟨-, waiting, -, rfl⟩ |
    ⟨reply, replied, reading, rfl⟩
  case inl =>
    have mine : ({ task with stage := .plugging entries } : Task api).Batch s.pool a.pool :=
      (Task.batch_with_plugging message).mpr ⟨[], rfl, serializes.quiet noWriters⟩
    exact ⟨a, .start, serializes.stay found (by rw [waiting]; rfl) (by rfl) rfl rfl rfl
      (keeps_of_free found (by rw [waiting]; rfl)) mine⟩
  case inr.inl =>
    have active : task.stage.active = true := by rw [plugging]; rfl
    have writes : task.stage.holdsWrite = true := by rw [plugging]; rfl
    obtain ⟨done, split, pool⟩ := (Task.batch_plugging message plugging).mp
      (serializes.batch index task found)
    have holding : (s.setStage index task (.plugging rest)).tasks[index]? =
        some { task with stage := .plugging rest } := by
      rw [getElem?_setStage found, if_pos rfl]
    have mine : ({ task with stage := .plugging rest } : Task api).Batch
        (target.add api s.pool entry) a.pool :=
      (Task.batch_with_plugging message).mpr
        ⟨done ++ [entry], by simp [split], by rw [plugEntry_concat, ← pool]⟩
    exact ⟨a, .start, serializes_of_move found serializes.jobs rfl
      (by rw [serializes.jobs]; exact (jobs_set_self found active).symm) serializes.replies
      (fun free => absurd free (writers_pos holding (by rfl))) mine
      (others_free invariant found writes _ _)⟩
  case inr.inr.inl =>
    have active : task.stage.active = true := by rw [plugging]; rfl
    have writes : task.stage.holdsWrite = true := by rw [plugging]; rfl
    obtain ⟨done, split, pool⟩ := (Task.batch_plugging message plugging).mp
      (serializes.batch index task found)
    rw [List.append_nil] at split
    subst split
    have handled : a.step (.handle index) = some { a.close index task.envelope (some .plugEntry) with
        pool := plugEntry a.pool entries target } := by
      simp only [Serial.step, serializes.job found active, message, serve, Option.map_some']
    exact ⟨_, .single handled, serializes_of_move found serializes.jobs rfl rfl
      (by simp only [setStage_replies, Serial.close, serializes.replies]) (fun _ => pool)
      (batch_finished _ _) (others_free invariant found writes _ _)⟩
  case inr.inr.inr.inl =>
    have active : task.stage.active = true := by
      rcases before with before | before <;> rw [before] <;> rfl
    have free : task.stage.holdsWrite = false := by
      rcases before with before | before <;> rw [before] <;> rfl
    rcases after with rfl | rfl
    · exact ⟨a, .start, serializes.stay found active (by rfl) tasks pool replies
        (keeps_of_free found free) (Task.batch_of_not_holdsWrite (by rfl) _ _)⟩
    · have handled : a.step (.handle index) = some (a.close index task.envelope none) := by
        simp only [Serial.step, serializes.job found active, message, serve, Option.map_some']
        rfl
      exact ⟨_, .single handled, serializes.finish found tasks pool
        (by rw [replies, Envelope.answer_none, List.append_nil]) (keeps_of_free found free)⟩
  case inr.inr.inr.inr.inl =>
    exact ⟨a, .start, serializes.stay found (by rw [waiting]; rfl) (by rfl) rfl rfl rfl
      (keeps_of_free found (by rw [waiting]; rfl)) (Task.batch_of_not_holdsWrite (by rfl) _ _)⟩
  case inr.inr.inr.inr.inr =>
    have active : task.stage.active = true := by rw [reading]; rfl
    have quiet : s.pool = a.pool :=
      serializes.quiet (invariant.exclusive.writers_eq_zero found (by rw [reading]; rfl))
    rw [quiet] at replied
    have handled : a.step (.handle index) = some (a.close index task.envelope (some reply)) := by
      simp only [Serial.step, serializes.job found active, serve_of_readReply replied,
        Option.map_some']
      rfl
    exact ⟨_, .single handled, serializes.finish found rfl rfl rfl
      (keeps_of_free found (by rw [reading]; rfl))⟩

theorem Serializes.external {action : ExternalAction api} (invariant : s.Invariant)
    (serializes : s.Serializes a) (found : s.tasks[index]? = some task)
    (stepped : s.externalStep index task action = some s') :
    ∃ a', Serial.Reachable a a' ∧ s'.Serializes a' := by
  have handler : ∀ hold, task.stage = .external hold → task.envelope.message.handler = .external := by
    intro hold outside
    have fits := invariant.fits task (List.getElem?_mem found)
    rw [outside] at fits
    simpa [Stage.fits] using fits
  have active : ∀ hold, task.stage = .external hold → task.stage.active = true := by
    intro hold outside; rw [outside]; rfl
  rcases externalStep_cases stepped with
    ⟨access, outside, -, -, rfl⟩ | ⟨pool, writing, rfl⟩ | ⟨access, holding, rfl⟩ |
    ⟨result, outside, ends, rfl⟩
  · exact ⟨a, .start, serializes.stay found (active _ outside) (by rfl) rfl rfl rfl
      (keeps_of_free found (by rw [outside]; rfl))
      (Task.batch_of_not_plugging (fun _ plugging => by cases plugging) _ _)⟩
  · have writes : task.stage.holdsWrite = true := by rw [writing]; rfl
    refine ⟨a, .start, serializes.jobs, serializes.replies,
      fun free => absurd free (writers_pos found writes), fun other otherTask foundOther => ?_⟩
    by_cases same : index = other
    · subst same
      rw [found] at foundOther
      cases foundOther
      exact Task.batch_of_not_plugging (fun _ plugging => by rw [writing] at plugging; cases plugging) _ _
    · exact others_free invariant found writes _ _ other otherTask foundOther same
  · cases access
    · exact ⟨a, .start, serializes.stay found (active _ holding) (by rfl) rfl rfl rfl
        (keeps_of_free found (by rw [holding]; rfl))
        (Task.batch_of_not_plugging (fun _ plugging => by cases plugging) _ _)⟩
    · have writes : task.stage.holdsWrite = true := by rw [holding]; rfl
      have committed : a.step (.commit index s.pool) = some { a with pool := s.pool } := by
        simp [Serial.step, serializes.job found (active _ holding), handler _ holding]
      exact ⟨_, .single committed, serializes_of_move found serializes.jobs rfl
        (by rw [serializes.jobs]; exact (jobs_set_self found (active _ holding)).symm)
        serializes.replies (fun _ => rfl)
        (Task.batch_of_not_plugging (fun _ plugging => by cases plugging) _ _)
        (others_free invariant found writes _ _)⟩
  · have finished : a.step (.finish index result) = some (a.close index task.envelope result) := by
      simp [Serial.step, serializes.job found (active _ outside), ends]
    exact ⟨_, .single finished, serializes.finish found rfl rfl rfl
      (keeps_of_free found (by rw [outside]; rfl))⟩

theorem Serializes.cancel (invariant : s.Invariant) (serializes : s.Serializes a)
    (found : s.tasks[index]? = some task) (cancelled : s.cancel index task = some s') :
    ∃ a', Serial.Reachable a a' ∧ s'.Serializes a' := by
  obtain ⟨-, stage, rfl⟩ := cancel_cases cancelled
  have active : task.stage.active = true := by
    rcases stage with waiting | ⟨hold, outside⟩
    · rw [waiting]; rfl
    · rw [outside]; rfl
  have dropped : ∀ b : Serial api, b.jobs = a.jobs →
      b.step (.drop index) = some (b.close index task.envelope none) := by
    intro b jobs
    simp only [Serial.step, jobs, serializes.job found active]
  have unanswered : (s.setStage index task .finished).replies = s.replies ++ task.envelope.answer none := by
    rw [Envelope.answer_none, List.append_nil]; rfl
  have free : task.stage.holdsWrite = false → ∃ a', Serial.Reachable a a' ∧
      (s.setStage index task .finished).Serializes a' := fun free =>
    ⟨_, .single (dropped a rfl), serializes.finish found rfl rfl unanswered (keeps_of_free found free)⟩
  rcases stage with waiting | ⟨_ | _ | _, outside⟩
  · exact free (by rw [waiting]; rfl)
  · exact free (by rw [outside]; rfl)
  · exact free (by rw [outside]; rfl)
  · have writes : task.stage.holdsWrite = true := by rw [outside]; rfl
    have handler : task.envelope.message.handler = .external := by
      have fits := invariant.fits task (List.getElem?_mem found)
      rw [outside] at fits
      simpa [Stage.fits] using fits
    have committed : a.step (.commit index s.pool) = some { a with pool := s.pool } := by
      simp [Serial.step, serializes.job found active, handler]
    exact ⟨_, (Serial.Reachable.single committed).trans (.single (dropped _ rfl)),
      serializes_of_move found serializes.jobs rfl rfl
        (by rw [unanswered, ← serializes.replies]; rfl) (fun _ => rfl) (batch_finished _ _)
        (others_free invariant found writes _ _)⟩

end Moves

theorem Serializes.congr (serializes : s.Serializes a) (tasks : s'.tasks = s.tasks)
    (pool : s'.pool = s.pool) (replies : s'.replies = s.replies) : s'.Serializes a := by
  have writers : s'.writers = s.writers := by unfold writers; rw [tasks]
  refine ⟨by rw [tasks]; exact serializes.jobs, by rw [replies]; exact serializes.replies,
    fun free => by rw [pool]; exact serializes.quiet (writers ▸ free), fun index task found => ?_⟩
  rw [pool]; exact serializes.batch index task (tasks ▸ found)

theorem Serializes.dispatch {envelope : Envelope api} {rest : List (Envelope api)}
    (serializes : s.Serializes a) :
    Serializes { s with queue := rest, tasks := s.tasks ++ [Task.spawn envelope] }
      { a with jobs := a.jobs ++ [⟨envelope, true⟩] } := by
  refine ⟨?_, serializes.replies, fun free => serializes.quiet ?_, fun index task found => ?_⟩
  · simp [serializes.jobs, Task.job]
  · unfold writers at free ⊢
    simpa [List.countP_append] using free
  · rcases getElem?_spawn found with old | rfl
    · exact serializes.batch index task old
    · exact Task.batch_of_not_holdsWrite (Task.spawn_holdsWrite _) _ _

/-- One step of the service is matched by at most two steps of `Serial`. -/
theorem Serializes.step {event : Event api} (invariant : s.Invariant) (serializes : s.Serializes a)
    (stepped : s.step event = some s') : ∃ a', Serial.Reachable a a' ∧ s'.Serializes a' := by
  cases event with
  | call message =>
    simp only [Service.step] at stepped
    split at stepped <;> cases stepped
    · obtain ⟨-, -, rfl⟩ := trySend_ok ‹_›
      exact ⟨a, .start, serializes.congr rfl rfl rfl⟩
    · exact ⟨a, .start, serializes⟩
  | receive =>
    simp only [Service.step] at stepped
    split at stepped <;> cases stepped
    exact ⟨_, .single (show a.step (.dispatch _) = _ from rfl), serializes.dispatch⟩
  | signal => cases stepped; exact ⟨a, .start, serializes.congr rfl rfl rfl⟩
  | exit =>
    simp only [Service.step] at stepped
    split at stepped <;> cases stepped
    exact ⟨a, .start, serializes.congr rfl rfl rfl⟩
  | tick now => cases stepped; exact ⟨a, .start, serializes.congr rfl rfl rfl⟩
  | advance index =>
    obtain ⟨task, found, advanced⟩ := Option.bind_eq_some.mp stepped
    exact serializes.advance invariant found advanced
  | external index action =>
    obtain ⟨task, found, advanced⟩ := Option.bind_eq_some.mp stepped
    exact serializes.external invariant found advanced
  | cancel index =>
    obtain ⟨task, found, cancelled⟩ := Option.bind_eq_some.mp stepped
    exact serializes.cancel invariant found cancelled

/-- The service refines `Serial`: whatever the controllers call, the external
methods do and the runtime interleaves, every state the service reaches is
matched by a state `Serial` reaches from the same pool, with the same jobs, the
same replies and the pool the service has committed. -/
theorem reachable_serializes {pool : api.TxPool} {blockAssembler : Option (BlockAssembler api)}
    (reached : Reachable (start pool blockAssembler) s) :
    ∃ a, Serial.Reachable ⟨pool, [], []⟩ a ∧ s.Serializes a := by
  induction reached with
  | start => exact ⟨_, .start, rfl, rfl, fun _ => rfl, fun _ _ found => by simp [start] at found⟩
  | step event reached stepped matched =>
    obtain ⟨a, serial, serializes⟩ := matched
    obtain ⟨a', more, serializes'⟩ :=
      serializes.step (reached.invariant (invariant_start pool blockAssembler)) stepped
    exact ⟨a', serial.trans more, serializes'⟩

theorem plugHalfway_serializes :
    ∃ s, countingStart.run plugHalfway = some s ∧ s.pool = 1 ∧
      ∃ a, Serial.Reachable (⟨0, [], []⟩ : Serial countingApi) a ∧ s.Serializes a :=
  ⟨_, rfl, rfl, reachable_serializes
    (Reachable.of_run (show countingStart.run plugHalfway = some _ from rfl))⟩

end Service

end Ckb.TxPool
