import Mathlib.Data.List.Nodup
import Ckb.TxPool.Service

/-!
# Invariants of the tx-pool service

What holds in every state the service reaches from `start`, whatever the
controllers call, whatever the external methods do and however the runtime
interleaves the tasks:

* the pool's guards exclude each other: at most one write guard is out, and
  never beside a read guard, so no step changes the pool under a read guard;
* every task is at a point of its own arm of `process`;
* the channel loses, duplicates and reorders nothing, and never holds more than
  `DEFAULT_CHANNEL_SIZE` messages;
* no responder is sent two replies, a reply only goes to a dispatched message,
  and a message still in the channel has had none;
* the block assembler's candidate uncles are its own with the uncles of
  `NewUncle` messages inserted, each message's at most once.

Once the loop has exited nothing is accepted or dispatched any more, so the
requests left in the channel are never answered.
-/

set_option autoImplicit false

namespace Ckb.TxPool

/-- In a list with no responder twice, a responder is at one place only. -/
theorem index_eq_of_nodup_filterMap {α β : Type} {f : α → Option β} :
    ∀ {l : List α}, (l.filterMap f).Nodup → ∀ {i j : Nat} {a b : α} {r : β},
      l[i]? = some a → l[j]? = some b → f a = some r → f b = some r → i = j
  | [], _, _, _, _, _, _, found, _, _, _ => by simp at found
  | x :: l, nodup, i, j, a, b, r, foundA, foundB, mapsA, mapsB => by
    have tail : (l.filterMap f).Nodup := by
      rw [List.filterMap_cons] at nodup
      split at nodup
      exacts [nodup, (List.nodup_cons.mp nodup).2]
    have head : ∀ {c : α}, x = c → f c = some r → ∀ {k : Nat} {d : α}, l[k]? = some d → f d = some r →
        False := by
      rintro c rfl mapsC k d foundD mapsD
      rw [List.filterMap_cons, mapsC] at nodup
      exact (List.nodup_cons.mp nodup).1 (List.mem_filterMap.mpr ⟨d, List.getElem?_mem foundD, mapsD⟩)
    cases i <;> cases j <;>
      simp only [List.getElem?_cons_zero, List.getElem?_cons_succ, Option.some.injEq] at foundA foundB
    · rfl
    · exact (head foundA mapsA foundB mapsB).elim
    · exact (head foundB mapsB foundA mapsA).elim
    · exact congrArg (· + 1) (index_eq_of_nodup_filterMap tail foundA foundB mapsA mapsB)

variable {api : TxPoolApi}

namespace Service

variable {s s' : Service api}

theorem one_le_countP {index : Nat} {task : Task api} (found : s.tasks[index]? = some task)
    {p : Task api → Bool} (holds : p task = true) : 1 ≤ s.tasks.countP p :=
  List.countP_pos_iff.mpr ⟨task, List.getElem?_mem found, holds⟩

theorem getElem?_spawn {envelope : Envelope api} {index : Nat} {task : Task api}
    (found : (s.tasks ++ [Task.spawn envelope])[index]? = some task) :
    s.tasks[index]? = some task ∨ task = Task.spawn envelope := by
  rcases Nat.lt_or_ge index s.tasks.length with inside | outside
  · rw [List.getElem?_append_left inside] at found; exact .inl found
  · rw [List.getElem?_append_right outside] at found
    obtain ⟨bound, spawned⟩ := List.getElem?_eq_some_iff.mp found
    exact .inr (by simpa using spawned.symm)

/-! ## The guards -/

/-- At most one write guard is out, and never beside a read guard. -/
def Exclusive (s : Service api) : Prop :=
  s.writers ≤ 1 ∧ (s.writers = 0 ∨ s.readers = 0)

theorem Exclusive.setStage {index : Nat} {task : Task api} {stage : Stage api}
    (exclusive : s.Exclusive) (found : s.tasks[index]? = some task) (grants : Grants s task stage) :
    (s.setStage index task stage).Exclusive := by
  unfold Exclusive
  rw [readers_setStage found, writers_setStage found]
  have oldRead : task.stage.holdsRead = true → 1 ≤ s.readers :=
    one_le_countP found (p := fun task => task.stage.holdsRead)
  have oldWrite : task.stage.holdsWrite = true → 1 ≤ s.writers :=
    one_le_countP found (p := fun task => task.stage.holdsWrite)
  have oldOne : task.stage.holdsRead = true → task.stage.holdsWrite = false :=
    Stage.not_holdsWrite_of_holdsRead
  have newOne : stage.holdsRead = true → stage.holdsWrite = false := Stage.not_holdsWrite_of_holdsRead
  obtain ⟨read, write⟩ := grants
  revert oldRead oldWrite oldOne newOne read write exclusive
  unfold Exclusive
  cases task.stage.holdsRead <;> cases task.stage.holdsWrite <;> cases stage.holdsRead <;>
    cases stage.holdsWrite <;> simp <;> omega

theorem Exclusive.step {event : Event api} (exclusive : s.Exclusive)
    (stepped : s.step event = some s') : s'.Exclusive := by
  rcases step_cases stepped with ⟨tasks, -⟩ | ⟨message, ok⟩ | ⟨envelope, rest, -, -, rfl⟩ |
    ⟨index, task, stage, found, moves, -⟩
  · unfold Exclusive readers writers; rw [tasks]; exact exclusive
  · obtain ⟨-, -, rfl⟩ := trySend_ok ok; exact exclusive
  · unfold Exclusive readers writers at *
    simpa only [List.countP_append, List.countP_singleton, Task.spawn_holdsRead,
      Task.spawn_holdsWrite] using exclusive
  · have := exclusive.setStage found moves.grants
    unfold Exclusive readers writers at *; rw [moves.tasks]; exact this

theorem Exclusive.writers_eq_zero {index : Nat} {task : Task api} (exclusive : s.Exclusive)
    (found : s.tasks[index]? = some task) (reads : task.stage.holdsRead = true) : s.writers = 0 :=
  exclusive.2.resolve_right (by have := one_le_countP found (p := fun task => task.stage.holdsRead) reads; unfold readers; omega)

theorem Exclusive.index_eq {i j : Nat} {task other : Task api} (exclusive : s.Exclusive)
    (found : s.tasks[i]? = some task) (writes : task.stage.holdsWrite = true)
    (foundOther : s.tasks[j]? = some other) (holds : other.stage.holdsWrite = true) : i = j := by
  by_contra apart
  have two : 2 ≤ s.writers := by
    have : ((s.setStage j other .finished).tasks.countP fun task => task.stage.holdsWrite) ≥ 1 := by
      refine one_le_countP (show (s.setStage j other .finished).tasks[i]? = some task from ?_) writes
      rw [getElem?_setStage foundOther, if_neg (Ne.symm apart)]; exact found
    have finished : ({ other with stage := .finished } : Task api).stage.holdsWrite = false := rfl
    rw [countP_setStage foundOther] at this
    simp only [holds, finished, if_true, Bool.false_eq_true, if_false] at this
    unfold writers; omega
  exact absurd exclusive.1 (by omega)

/-! ## The tasks' stages -/

/-- Every task is at a point of its own arm of `process`. -/
def Fits (s : Service api) : Prop :=
  ∀ task ∈ s.tasks, task.stage.fits task.envelope.message.handler = true

theorem Fits.step {event : Event api} (fits : s.Fits) (stepped : s.step event = some s') :
    s'.Fits := by
  rcases step_cases stepped with ⟨tasks, -⟩ | ⟨message, ok⟩ | ⟨envelope, rest, -, -, rfl⟩ |
    ⟨index, task, stage, found, moves, -⟩
  · unfold Fits; rw [tasks]; exact fits
  · obtain ⟨-, -, rfl⟩ := trySend_ok ok; exact fits
  · intro task mem
    rcases List.mem_append.mp mem with old | spawned
    · exact fits task old
    · rw [List.mem_singleton.mp spawned]; exact Task.spawn_fits envelope
  · intro other mem
    rw [moves.tasks] at mem
    rcases mem_setStage mem with old | rfl
    · exact fits other old
    · exact moves.fits (fits task (List.getElem?_mem found))

/-! ## The channel -/

/-- The accepted messages are the dispatched ones, then the queued ones, and the
channel holds at most its capacity. -/
structure Channel (s : Service api) : Prop where
  fifo : s.sent = s.tasks.map Task.envelope ++ s.queue
  bounded : s.queue.length ≤ defaultChannelSize

theorem Channel.step {event : Event api} (channel : s.Channel) (stepped : s.step event = some s') :
    s'.Channel := by
  rcases step_cases stepped with ⟨tasks, -, -, queue, sent, -⟩ | ⟨message, ok⟩ |
    ⟨envelope, rest, -, queued, rfl⟩ | ⟨index, task, stage, found, moves, -⟩
  · exact ⟨by rw [tasks, queue, sent]; exact channel.fifo, queue ▸ channel.bounded⟩
  · obtain ⟨-, room, rfl⟩ := trySend_ok ok
    exact ⟨by simp [channel.fifo], by simp only [List.length_append, List.length_singleton]; omega⟩
  · refine ⟨by simp [channel.fifo, queued], ?_⟩
    have := channel.bounded; rw [queued, List.length_cons] at this; simp only; omega
  · exact ⟨by rw [moves.sent, moves.queue, moves.tasks, envelopes_setStage found]; exact channel.fifo,
      moves.queue ▸ channel.bounded⟩

/-! ## The replies -/

/-- The responders that have been sent a reply, in order. -/
def answered (s : Service api) : List Responder := s.replies.map Prod.fst

/-- The responders of the dispatched messages. -/
def dispatched (s : Service api) : List Responder :=
  (s.tasks.map Task.envelope).filterMap Envelope.responder

/-- Every responder is fresh when made, none is sent two replies, and only
dispatched messages have been answered: an unfinished task's and a queued
message's responders have had nothing. -/
structure Ledger (s : Service api) : Prop where
  fresh : ∀ r ∈ s.sent.filterMap Envelope.responder, r < s.nextResponder
  distinct : (s.sent.filterMap Envelope.responder).Nodup
  once : s.answered.Nodup
  answeredDispatched : ∀ r ∈ s.answered, r ∈ s.dispatched
  unanswered : ∀ (index : Nat) (task : Task api) (r : Responder), s.tasks[index]? = some task →
    task.stage.active = true →
    task.envelope.responder = some r → r ∉ s.answered
  queued : ∀ envelope ∈ s.queue, ∀ r, envelope.responder = some r → r ∉ s.answered

theorem dispatched_sublist (channel : s.Channel) :
    List.Sublist s.dispatched (s.sent.filterMap Envelope.responder) := by
  rw [channel.fifo, List.filterMap_append]; exact List.sublist_append_left _ _

theorem Ledger.index_eq (ledger : s.Ledger) (channel : s.Channel) {i j : Nat} {task other : Task api}
    {r : Responder} (found : s.tasks[i]? = some task) (foundOther : s.tasks[j]? = some other)
    (responds : task.envelope.responder = some r) (respondsOther : other.envelope.responder = some r) :
    i = j := by
  have nodup := ledger.distinct.sublist (dispatched_sublist channel)
  rw [dispatched, List.filterMap_map] at nodup
  exact index_eq_of_nodup_filterMap nodup found foundOther responds respondsOther

theorem Ledger.not_queued (ledger : s.Ledger) (channel : s.Channel) {r : Responder}
    (dispatchedR : r ∈ s.dispatched) {envelope : Envelope api} (queued : envelope ∈ s.queue)
    (responds : envelope.responder = some r) : False := by
  have nodup := ledger.distinct
  rw [channel.fifo, List.filterMap_append] at nodup
  exact List.disjoint_of_nodup_append nodup dispatchedR
    (List.mem_filterMap.mpr ⟨envelope, queued, responds⟩)

theorem Ledger.congr (ledger : s.Ledger) (tasks : s'.tasks = s.tasks) (replies : s'.replies = s.replies)
    (queue : s'.queue = s.queue) (sent : s'.sent = s.sent) (next : s'.nextResponder = s.nextResponder) :
    s'.Ledger := by
  have answered : s'.answered = s.answered := by rw [Service.answered, replies]; rfl
  have dispatched : s'.dispatched = s.dispatched := by rw [Service.dispatched, tasks]; rfl
  exact ⟨by rw [sent, next]; exact ledger.fresh, by rw [sent]; exact ledger.distinct,
    answered ▸ ledger.once, by rw [answered, dispatched]; exact ledger.answeredDispatched,
    by rw [answered, tasks]; exact ledger.unanswered, by rw [answered, queue]; exact ledger.queued⟩

theorem Ledger.trySend {message : Message api} (ledger : s.Ledger) (channel : s.Channel)
    (ok : s.trySend message = .ok s') : s'.Ledger := by
  obtain ⟨-, -, rfl⟩ := trySend_ok ok
  have below : ∀ r ∈ s.answered, r < s.nextResponder := fun r mem =>
    ledger.fresh r ((dispatched_sublist channel).subset (ledger.answeredDispatched r mem))
  refine ⟨?_, ?_, ledger.once, ledger.answeredDispatched, ledger.unanswered, ?_⟩
  · simp only [List.filterMap_append, List.mem_append]
    rintro r (old | new)
    · exact Nat.lt_succ_of_lt (ledger.fresh r old)
    · split at new <;> simp_all
  · simp only [List.filterMap_append]
    refine List.Nodup.append ledger.distinct (by split <;> simp) ?_
    intro r old new
    split at new <;> simp_all [(ledger.fresh r old).ne]
  · simp only [List.mem_append, List.mem_singleton]
    rintro envelope (old | rfl) r responds
    · exact ledger.queued envelope old r responds
    · intro mem
      have := below r mem
      split at responds <;> simp_all

theorem Ledger.receive {envelope : Envelope api} {rest : List (Envelope api)} (ledger : s.Ledger)
    (queued : s.queue = envelope :: rest) :
    Ledger { s with queue := rest, tasks := s.tasks ++ [Task.spawn envelope] } := by
  refine ⟨ledger.fresh, ledger.distinct, ledger.once, fun r mem => ?_, ?_, fun other mem =>
    ledger.queued other (by rw [queued]; exact List.mem_cons_of_mem _ mem)⟩
  · have := ledger.answeredDispatched r mem
    simp only [dispatched, List.map_append, List.filterMap_append, List.mem_append] at this ⊢
    exact .inl this
  · intro index task r found active responds
    rcases getElem?_spawn found with old | rfl
    · exact ledger.unanswered index task r old active responds
    · exact ledger.queued envelope (by rw [queued]; exact List.mem_cons_self _ _) r responds

theorem Ledger.moves {index : Nat} {task : Task api} {stage : Stage api} (ledger : s.Ledger)
    (channel : s.Channel) (found : s.tasks[index]? = some task) (moves : Moves s s' index task stage) :
    s'.Ledger := by
  have dispatchedEq : s'.dispatched = s.dispatched := by
    rw [dispatched, dispatched, moves.tasks, envelopes_setStage found]
  rcases moves.replies with same | ⟨rfl, result, replies⟩
  · have answeredEq : s'.answered = s.answered := by rw [answered, same]; rfl
    refine ⟨by rw [moves.sent, moves.nextResponder]; exact ledger.fresh,
      by rw [moves.sent]; exact ledger.distinct, answeredEq ▸ ledger.once,
      by rw [answeredEq, dispatchedEq]; exact ledger.answeredDispatched, ?_,
      by rw [answeredEq, moves.queue]; exact ledger.queued⟩
    intro other otherTask r foundOther active responds
    rw [moves.tasks, getElem?_setStage found] at foundOther
    rw [answeredEq]
    split at foundOther
    · cases foundOther
      exact ledger.unanswered index task r found moves.active responds
    · exact ledger.unanswered other otherTask r foundOther active responds
  · have answeredEq : s'.answered = s.answered ++ (task.envelope.answer result).map Prod.fst := by
      rw [answered, replies, List.map_append]; rfl
    have fresh : ∀ r ∈ (task.envelope.answer result).map Prod.fst,
        task.envelope.responder = some r := by
      intro r mem
      obtain ⟨answer, inAnswer, rfl⟩ := List.mem_map.mp mem
      exact Envelope.mem_answer inAnswer
    have mine : ∀ r, task.envelope.responder = some r → r ∈ s.dispatched := fun r responds =>
      List.mem_filterMap.mpr ⟨task.envelope, List.mem_map_of_mem _ (List.getElem?_mem found), responds⟩
    refine ⟨by rw [moves.sent, moves.nextResponder]; exact ledger.fresh,
      by rw [moves.sent]; exact ledger.distinct, ?_, ?_, ?_, ?_⟩
    · rw [answeredEq]
      refine List.Nodup.append ledger.once (Envelope.answer_nodup _ _) fun r old new => ?_
      exact ledger.unanswered index task r found moves.active (fresh r new) old
    · rw [answeredEq, dispatchedEq]
      intro r mem
      rcases List.mem_append.mp mem with old | new
      · exact ledger.answeredDispatched r old
      · exact mine r (fresh r new)
    · intro other otherTask r foundOther active responds
      rw [moves.tasks, getElem?_setStage found] at foundOther
      split at foundOther
      · cases foundOther; cases active
      · rw [answeredEq, List.mem_append, not_or]
        refine ⟨ledger.unanswered other otherTask r foundOther active responds, fun new => ?_⟩
        exact ‹¬index = other› (ledger.index_eq channel found foundOther (fresh r new) responds)
    · intro envelope queued r responds
      rw [moves.queue] at queued
      rw [answeredEq, List.mem_append, not_or]
      exact ⟨ledger.queued envelope queued r responds, fun new =>
        ledger.not_queued channel (mine r (fresh r new)) queued responds⟩

theorem Ledger.step {event : Event api} (ledger : s.Ledger) (channel : s.Channel)
    (stepped : s.step event = some s') : s'.Ledger := by
  rcases step_cases stepped with ⟨tasks, -, replies, queue, sent, next, -⟩ | ⟨message, ok⟩ |
    ⟨envelope, rest, -, queued, rfl⟩ | ⟨index, task, stage, found, moves, -⟩
  · exact ledger.congr tasks replies queue sent next
  · exact ledger.trySend channel ok
  · exact ledger.receive queued
  · exact ledger.moves channel found moves

/-! ## Every reachable state -/

/-- The invariants together. -/
structure Invariant (s : Service api) : Prop where
  exclusive : s.Exclusive
  fits : s.Fits
  channel : s.Channel
  ledger : s.Ledger

theorem Invariant.step {event : Event api} (invariant : s.Invariant)
    (stepped : s.step event = some s') : s'.Invariant :=
  ⟨invariant.exclusive.step stepped, invariant.fits.step stepped, invariant.channel.step stepped,
    invariant.ledger.step invariant.channel stepped⟩

theorem invariant_start (pool : api.TxPool) (blockAssembler : Option (BlockAssembler api)) :
    (start pool blockAssembler).Invariant :=
  ⟨⟨Nat.zero_le _, .inl rfl⟩, (fun _ mem => nomatch mem), ⟨rfl, Nat.zero_le _⟩,
    ⟨(fun _ mem => nomatch mem), .nil, .nil, (fun _ mem => nomatch mem),
      (fun _ _ _ found => nomatch found), (fun _ mem => nomatch mem)⟩⟩

theorem Reachable.invariant {init : Service api} (initial : init.Invariant)
    (reached : Reachable init s) : s.Invariant := by
  induction reached with
  | start => exact initial
  | step _ _ stepped invariant => exact invariant.step stepped

/-- After the loop has exited, nothing is accepted or dispatched any more. -/
theorem Reachable.frozen {s₀ : Service api} (later : Reachable s₀ s) (exited : s₀.receiving = false) :
    s.receiving = false ∧ s.queue = s₀.queue ∧ s.sent = s₀.sent ∧
      s.tasks.map Task.envelope = s₀.tasks.map Task.envelope := by
  induction later with
  | start => exact ⟨exited, rfl, rfl, rfl⟩
  | step _ _ stepped frozen =>
    obtain ⟨off, queue, sent, envelopes⟩ := frozen
    rcases step_cases stepped with ⟨tasks, -, -, queue', sent', -, wasOn, -⟩ | ⟨message, ok⟩ |
      ⟨envelope, rest, wasOn, -, -⟩ | ⟨index, task, stage, found, moves, -⟩
    · refine ⟨Bool.eq_false_iff.mpr fun h => ?_, queue' ▸ queue, sent' ▸ sent, by rw [tasks, envelopes]⟩
      rw [wasOn h] at off; cases off
    · rw [(trySend_ok ok).1] at off; cases off
    · rw [wasOn] at off; cases off
    · exact ⟨moves.receiving ▸ off, moves.queue ▸ queue, moves.sent ▸ sent,
        by rw [moves.tasks, envelopes_setStage found, envelopes]⟩

/-- Only a task holding the write guard changes the pool. -/
theorem step_pool {event : Event api} (stepped : s.step event = some s') :
    s'.pool = s.pool ∨ 0 < s.writers := by
  rcases step_cases stepped with ⟨-, pool, -⟩ | ⟨message, ok⟩ | ⟨envelope, rest, -, -, rfl⟩ |
    ⟨index, task, stage, found, moves, -⟩
  · exact .inl pool
  · obtain ⟨-, -, rfl⟩ := trySend_ok ok; exact .inl rfl
  · exact .inl rfl
  · exact moves.pool.imp_right (one_le_countP found)

/-- While a read guard is out, no step changes the pool. -/
theorem Exclusive.pool_step {event : Event api} (exclusive : s.Exclusive) (reading : 0 < s.readers)
    (stepped : s.step event = some s') : s'.pool = s.pool :=
  (step_pool stepped).resolve_right fun writing => by
    rcases exclusive with ⟨-, idle | idle⟩ <;> omega

/-! ## The candidate uncles -/

/-- Task `entry.1` is a `NewUncle` of the uncle `entry.2` that has got past its
first `.await`. -/
def Past (s : Service api) (entry : Nat × api.UncleBlockView) : Prop :=
  ∃ task, s.tasks[entry.1]? = some task ∧ task.envelope.message = .newUncle entry.2 ∧ task.stage ≠ .waiting

/-- The block assembler's candidate uncles are its uncles from `initial` with the
uncles of `inserted` inserted in turn, each by its own task, which is past its
first `.await`; every task between its insert and its store of the time is
among them; and under an assembler every `NewUncle` past its first `.await` has
inserted its uncle, unless it is among the tasks `dropped` at an `.await`. -/
structure Inserted (s : Service api) (initial : Option (BlockAssembler api))
    (inserted : List (Nat × api.UncleBlockView)) (dropped : List Nat) : Prop where
  uncles : s.blockAssembler.map (·.candidateUncles) =
    initial.map fun assembler => (inserted.map Prod.snd).foldl api.insertUncle assembler.candidateUncles
  once : (inserted.map Prod.fst).Nodup
  past : ∀ entry ∈ inserted, s.Past entry
  storing : ∀ index task, s.tasks[index]? = some task → task.stage = .storing →
    ∃ uncle, (index, uncle) ∈ inserted
  complete : initial.isSome → ∀ index task uncle, s.tasks[index]? = some task →
    task.envelope.message = .newUncle uncle → task.stage ≠ .waiting → (index, uncle) ∈ inserted ∨ index ∈ dropped

section Uncles

variable {initial : Option (BlockAssembler api)} {inserted : List (Nat × api.UncleBlockView)}
  {dropped : List Nat} {index : Nat} {task : Task api} {stage : Stage api}

theorem Past.receive {envelope : Envelope api} {rest : List (Envelope api)} {entry : Nat × api.UncleBlockView}
    (past : s.Past entry) : Past { s with queue := rest, tasks := s.tasks ++ [Task.spawn envelope] } entry := by
  obtain ⟨task, found, message, started⟩ := past
  exact ⟨task, by rw [List.getElem?_append_left (List.getElem?_eq_some_iff.mp found).1]; exact found,
    message, started⟩

theorem Past.moves {entry : Nat × api.UncleBlockView} (past : s.Past entry)
    (found : s.tasks[index]? = some task) (moves : Moves s s' index task stage) : s'.Past entry := by
  obtain ⟨other, otherFound, message, started⟩ := past
  rw [Past, moves.tasks, getElem?_setStage found]
  split
  · next same =>
    subst same
    obtain rfl : other = task := Option.some.inj (otherFound.symm.trans found)
    exact ⟨_, rfl, message, moves.started⟩
  · exact ⟨other, otherFound, message, started⟩

theorem Inserted.isSome (inv : s.Inserted initial inserted dropped) :
    s.blockAssembler.isSome = initial.isSome := by
  simpa using congrArg Option.isSome inv.uncles

theorem Inserted.grow {more : List Nat} (inv : s.Inserted initial inserted dropped) :
    s.Inserted initial inserted (dropped ++ more) :=
  { inv with complete := fun configured index task uncle found message started =>
      (inv.complete configured index task uncle found message started).imp_right (List.mem_append_left _) }

theorem Inserted.congr (inv : s.Inserted initial inserted dropped) (tasks : s'.tasks = s.tasks)
    (assembler : s'.blockAssembler = s.blockAssembler) : s'.Inserted initial inserted dropped :=
  ⟨assembler ▸ inv.uncles, inv.once, fun entry mem => by rw [Past, tasks]; exact inv.past entry mem,
    fun index task found => inv.storing index task (tasks ▸ found),
    fun configured index task uncle found => inv.complete configured index task uncle (tasks ▸ found)⟩

theorem Inserted.receive (envelope : Envelope api) (rest : List (Envelope api))
    (inv : s.Inserted initial inserted dropped) :
    Inserted { s with queue := rest, tasks := s.tasks ++ [Task.spawn envelope] } initial inserted dropped := by
  refine ⟨inv.uncles, inv.once, fun entry mem => (inv.past entry mem).receive, fun index task found storing => ?_,
    fun configured index task uncle found message started => ?_⟩
  · rcases getElem?_spawn found with old | rfl
    · exact inv.storing index task old storing
    · revert storing; unfold Task.spawn; split <;> nofun
  · rcases getElem?_spawn found with old | rfl
    · exact inv.complete configured index task uncle old message started
    · rw [Task.spawn_envelope] at message
      simp [Task.spawn, message, Message.handler] at started

theorem Moves.getElem?_cases (moves : Moves s s' index task stage) (found : s.tasks[index]? = some task)
    {other : Nat} {task' : Task api} (found' : s'.tasks[other]? = some task') :
    index = other ∧ task' = { task with stage } ∨ index ≠ other ∧ s.tasks[other]? = some task' := by
  rw [moves.tasks, getElem?_setStage found] at found'
  split at found'
  · next same => cases found'; exact .inl ⟨same, rfl⟩
  · next apart => exact .inr ⟨apart, found'⟩

/-- A task step that inserts no uncle keeps the inserts; a `NewUncle` moved on
from its first `.await` without its insert is dropped. -/
theorem Inserted.moves_keep {more : List Nat} (inv : s.Inserted initial inserted dropped)
    (found : s.tasks[index]? = some task) (moves : Moves s s' index task stage)
    (inserts : index ∈ more ∨ Inserts s task stage) (notStoring : stage ≠ .storing)
    (same : s'.blockAssembler.map (·.candidateUncles) = s.blockAssembler.map (·.candidateUncles)) :
    s'.Inserted initial inserted (dropped ++ more) := by
  refine ⟨same ▸ inv.uncles, inv.once, fun entry mem => (inv.past entry mem).moves found moves,
    fun other task' found' storing => ?_, fun configured other task' uncle found' message started => ?_⟩
  · rcases moves.getElem?_cases found found' with ⟨rfl, rfl⟩ | ⟨-, old⟩
    · exact absurd storing notStoring
    · exact inv.storing other task' old storing
  · rcases moves.getElem?_cases found found' with ⟨rfl, rfl⟩ | ⟨-, old⟩
    · by_cases waiting : task.stage = .waiting
      · refine .inr (List.mem_append_right _ (inserts.resolve_right fun inserts => notStoring ?_))
        exact inserts waiting (by rw [message]; rfl) (inv.isSome.trans configured)
      · exact (inv.complete configured index task uncle found message waiting).imp_right (List.mem_append_left _)
    · exact (inv.complete configured other task' uncle old message started).imp_right (List.mem_append_left _)

/-- `NewUncle`'s insert adds its own entry. -/
theorem Inserted.moves_insert {uncle : api.UncleBlockView} {assembler : BlockAssembler api}
    (inv : s.Inserted initial inserted dropped) (found : s.tasks[index]? = some task)
    (moves : Moves s s' index task .storing) (waiting : task.stage = .waiting)
    (message : task.envelope.message = .newUncle uncle) (before : s.blockAssembler = some assembler)
    (after : s'.blockAssembler.map (·.candidateUncles) = some (api.insertUncle assembler.candidateUncles uncle)) :
    s'.Inserted initial (inserted ++ [(index, uncle)]) dropped := by
  have fresh : index ∉ inserted.map Prod.fst := by
    intro mem
    obtain ⟨entry, mem, same⟩ := List.mem_map.mp mem
    obtain ⟨_, otherFound, -, started⟩ := inv.past entry mem
    rw [same, found] at otherFound
    cases otherFound
    exact started waiting
  refine ⟨?_, ?_, fun entry mem => ?_, fun other task' found' storing => ?_,
    fun configured other task' uncle' found' message' started => ?_⟩
  · have uncles := inv.uncles
    rw [before, Option.map_some'] at uncles
    cases initial with
    | none => cases uncles
    | some initial =>
      rw [after, Option.map_some', List.map_append, List.foldl_append,
        ← Option.some.inj (uncles.trans (Option.map_some' _ _))]
      rfl
  · rw [List.map_append]
    exact inv.once.append (List.nodup_singleton _) (List.disjoint_singleton.mpr fresh)
  · rcases List.mem_append.mp mem with old | new
    · exact (inv.past entry old).moves found moves
    · rw [List.mem_singleton.mp new]
      refine ⟨{ task with stage := .storing }, ?_, message, nofun⟩
      rw [moves.tasks, getElem?_setStage found, if_pos rfl]
  · rcases moves.getElem?_cases found found' with ⟨rfl, rfl⟩ | ⟨-, old⟩
    · exact ⟨uncle, List.mem_append_right _ (List.mem_singleton_self _)⟩
    · obtain ⟨uncle', mem⟩ := inv.storing other task' old storing
      exact ⟨uncle', List.mem_append_left _ mem⟩
  · rcases moves.getElem?_cases found found' with ⟨rfl, rfl⟩ | ⟨-, old⟩
    · rw [message] at message'; cases message'
      exact .inl (List.mem_append_right _ (List.mem_singleton_self _))
    · exact (inv.complete configured other task' uncle' old message' started).imp_left (List.mem_append_left _)

theorem Inserted.moves {more : List Nat} (inv : s.Inserted initial inserted dropped)
    (found : s.tasks[index]? = some task) (moves : Moves s s' index task stage)
    (inserts : index ∈ more ∨ Inserts s task stage) :
    ∃ inserted', s'.Inserted initial inserted' (dropped ++ more) := by
  rcases moves.uncles with ⟨notStoring, same⟩ | ⟨waiting, rfl, uncle, assembler, message, before, after⟩
  · exact ⟨inserted, inv.moves_keep found moves inserts notStoring same⟩
  · exact ⟨_, (inv.moves_insert found moves waiting message before after).grow⟩

theorem Inserted.step {event : Event api} (inv : s.Inserted initial inserted dropped)
    (stepped : s.step event = some s') :
    ∃ inserted', s'.Inserted initial inserted' (dropped ++ event.cancelled.toList) := by
  rcases step_cases stepped with ⟨tasks, -, -, -, -, -, -, assembler⟩ | ⟨message, ok⟩ |
    ⟨envelope, rest, -, -, rfl⟩ | ⟨index, task, stage, found, moves, dropping⟩
  · exact ⟨inserted, inv.grow.congr tasks assembler⟩
  · obtain ⟨-, -, rfl⟩ := trySend_ok ok
    exact ⟨inserted, inv.grow.congr rfl rfl⟩
  · exact ⟨inserted, inv.grow.receive envelope rest⟩
  · refine inv.moves found moves (dropping.imp_left fun cancel => ?_)
    rw [cancel]; exact List.mem_singleton_self _

/-- Every run keeps the inserts, the tasks it cancels being the dropped ones. -/
theorem Inserted.run {events : List (Event api)} (inv : s.Inserted initial inserted dropped)
    (ran : s.run events = some s') :
    ∃ inserted', s'.Inserted initial inserted' (dropped ++ events.filterMap Event.cancelled) := by
  induction events generalizing s inserted dropped with
  | nil => cases ran; exact ⟨inserted, by simpa using inv⟩
  | cons event rest ih =>
    obtain ⟨middle, stepped, ran⟩ := Option.bind_eq_some.mp ran
    obtain ⟨inserted', inv'⟩ := inv.step stepped
    obtain ⟨inserted'', inv''⟩ := ih inv' ran
    refine ⟨inserted'', ?_⟩
    cases dropping : event.cancelled <;>
      simpa [List.filterMap_cons, dropping] using inv''

end Uncles

/-- Collaborators for concrete runs: the pool counts the entries added to it,
and lookups find nothing. -/
abbrev countingApi : TxPoolApi where
  TxPool := Nat
  TransactionView := Nat
  TxEntry := Nat
  TxPoolInfo := Nat
  FeeRate := Nat
  UncleBlockView := Nat
  CandidateUncles := List Nat
  BlockTemplateResult := Unit
  SubmitTxsResult := Unit
  info pool := pool
  containsProposalId _ _ := false
  proposedGet _ _ := none
  transaction entry := entry
  getTxWithoutConflict _ _ := none
  getTxFromPoolOrStore _ _ := none
  getTxWithCycles _ _ := none
  addPending pool _ := pool + 1
  addProposed pool _ := pool + 1
  estimate pool _ := pool
  insertUncle uncles uncle := uncle :: uncles

/-- The service started on an empty pool, without a block assembler. -/
def countingStart : Service countingApi := start 0 none

/-- A `PlugEntry` of two entries and a `GetTxPoolInfo` sent and dispatched, the
batch half added under the write guard. -/
def plugHalfway : List (Event countingApi) :=
  [.call (.plugEntry [7, 8] .pending), .call .getTxPoolInfo, .receive, .receive, .advance 0, .advance 0]

/-- A `GetTxPoolInfo` sent, dispatched and answered. -/
def infoAnswered : List (Event countingApi) :=
  [.call .getTxPoolInfo, .receive, .advance 0, .advance 0]

/-- A `GetTxPoolInfo` sent, then the stop signal and the loop's exit before it is received. -/
def stoppedWithRequest : List (Event countingApi) :=
  [.call .getTxPoolInfo, .signal, .exit]

section Runs

variable {pool : api.TxPool} {blockAssembler : Option (BlockAssembler api)}

/-- The channel: the messages accepted so far are the dispatched ones and then
the queued ones, in order; it never holds more than `DEFAULT_CHANNEL_SIZE`; and
a call while it is full is refused as full and changes nothing. -/
theorem reachable_channel_fifo (reached : Reachable (start pool blockAssembler) s) :
    s.sent = s.tasks.map Task.envelope ++ s.queue ∧ s.queue.length ≤ defaultChannelSize ∧
      ∀ message, s.receiving = true → s.queue.length = defaultChannelSize →
        s.trySend message = .error .full ∧ s.step (.call message) = some s := by
  obtain ⟨fifo, bounded⟩ := (reached.invariant (invariant_start pool blockAssembler)).channel
  refine ⟨fifo, bounded, fun message receiving full => ?_⟩
  have refused : s.trySend message = .error .full := by
    simp only [trySend, receiving, full, Nat.lt_irrefl, if_false, if_true]
  exact ⟨refused, by simp only [step, refused]⟩

theorem plugHalfway_channel_fifo :
    ∃ s, countingStart.run plugHalfway = some s ∧ s.sent.length = 2 ∧
      (s.sent = s.tasks.map Task.envelope ++ s.queue ∧ s.queue.length ≤ defaultChannelSize ∧
        ∀ message, s.receiving = true → s.queue.length = defaultChannelSize →
          s.trySend message = .error .full ∧ s.step (.call message) = some s) :=
  ⟨_, rfl, rfl, reachable_channel_fifo
    (Reachable.of_run (show countingStart.run plugHalfway = some _ from rfl))⟩

/-- No responder is sent two replies, only dispatched messages are answered, and
a message still in the channel has had no reply. -/
theorem reachable_replies_once (reached : Reachable (start pool blockAssembler) s) :
    s.answered.Nodup ∧ (∀ r ∈ s.answered, r ∈ s.dispatched) ∧
      ∀ envelope ∈ s.queue, ∀ r, envelope.responder = some r → r ∉ s.answered :=
  let ledger := (reached.invariant (invariant_start pool blockAssembler)).ledger
  ⟨ledger.once, ledger.answeredDispatched, ledger.queued⟩

theorem infoAnswered_replies_once :
    ∃ s, countingStart.run infoAnswered = some s ∧ s.answered = [0] ∧
      (s.answered.Nodup ∧ (∀ r ∈ s.answered, r ∈ s.dispatched) ∧
        ∀ envelope ∈ s.queue, ∀ r, envelope.responder = some r → r ∉ s.answered) :=
  ⟨_, rfl, rfl, reachable_replies_once
    (Reachable.of_run (show countingStart.run infoAnswered = some _ from rfl))⟩

/-- Once the loop has exited, no message is accepted or dispatched any more, and
the requests still in the channel are never answered, whatever happens next. -/
theorem exited_requests_unanswered {s₀ : Service api}
    (reached : Reachable (start pool blockAssembler) s₀) (exited : s₀.receiving = false)
    (later : Reachable s₀ s) :
    s.queue = s₀.queue ∧ s.sent = s₀.sent ∧ s.tasks.map Task.envelope = s₀.tasks.map Task.envelope ∧
      ∀ envelope ∈ s₀.queue, ∀ r, envelope.responder = some r → r ∉ s.answered := by
  obtain ⟨-, queue, sent, envelopes⟩ := later.frozen exited
  have ledger := ((reached.trans later).invariant (invariant_start pool blockAssembler)).ledger
  exact ⟨queue, sent, envelopes, fun envelope queued => ledger.queued envelope (queue ▸ queued)⟩

theorem stoppedWithRequest_unanswered :
    ∃ s₀ s, countingStart.run stoppedWithRequest = some s₀ ∧
      s₀.run [.call .getTxPoolInfo, .tick 5] = some s ∧ s₀.receiving = false ∧ s₀.queue.length = 1 ∧
      (s.queue = s₀.queue ∧ s.sent = s₀.sent ∧ s.tasks.map Task.envelope = s₀.tasks.map Task.envelope ∧
        ∀ envelope ∈ s₀.queue, ∀ r, envelope.responder = some r → r ∉ s.answered) :=
  ⟨_, _, rfl, rfl, rfl, rfl, exited_requests_unanswered
    (Reachable.of_run (show countingStart.run stoppedWithRequest = some _ from rfl)) rfl
    (Reachable.of_run (show Service.run _ [.call .getTxPoolInfo, .tick 5] = some _ from rfl))⟩

/-- `NewUncle` loses and duplicates no insert: after every run the candidate
uncles are the configured assembler's with uncles inserted in turn, each by its
own `NewUncle` task, so no message's uncle goes in twice and none that was not
sent goes in; every task between its insert and its store of the time is among
them; under an assembler every `NewUncle` task past its first `.await` has
inserted its uncle, unless the run cancelled it at that `.await`; and with no
block assembler there is nothing to change. -/
theorem reachable_uncles_inserted_once {events : List (Event api)}
    (ran : (start pool blockAssembler).run events = some s) :
    ∃ inserted, s.Inserted blockAssembler inserted (events.filterMap Event.cancelled) := by
  have initial : (start pool blockAssembler).Inserted blockAssembler [] [] :=
    ⟨by cases blockAssembler <;> rfl, .nil, nofun, (fun _ _ found => nomatch found),
      fun _ _ _ _ found => nomatch found⟩
  simpa using initial.run ran

/-- Two `NewUncle`s sent to a service with a block assembler, the second
inserted first, then the first. -/
def unclesCrossed : List (Event countingApi) :=
  [.call (.newUncle 3), .call (.newUncle 4), .receive, .receive, .advance 1, .advance 0, .advance 1]

theorem unclesCrossed_inserted_once :
    ∃ s, (start 0 (some ⟨[], 0⟩) : Service countingApi).run unclesCrossed = some s ∧
      s.blockAssembler.map (·.candidateUncles) = some [3, 4] ∧
      ∃ inserted, s.Inserted (some ⟨[], 0⟩) inserted (unclesCrossed.filterMap Event.cancelled) :=
  ⟨_, rfl, rfl, reachable_uncles_inserted_once
    (show (start 0 (some ⟨[], 0⟩) : Service countingApi).run unclesCrossed = some _ from rfl)⟩

end Runs

end Service

end Ckb.TxPool
