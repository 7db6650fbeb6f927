import Ckb.TxPool.Fair

/-!
# The arms of `process` cannot block each other

No arm of `process` in this repository waits while it holds a guard: a read
arm reads and answers, `PlugEntry` adds its batch and answers, `NewUncle` holds
`candidate_uncles` only for its insert. So from every state the service with
its locks' queues reaches in which no external method holds or waits for a
guard, the arms' own steps and the locks' grants, in the order the locks give
them, finish every one of their tasks and send every such request its reply.
Once the loop has exited, the runtime can bring every task to its end.
-/

set_option autoImplicit false

namespace Ckb.TxPool

variable {api : TxPoolApi}

/-- The arms that send their responder a reply: the read arms and `PlugEntry`. -/
def Handler.answers : Handler → Bool
  | .read | .plug => true
  | _ => false

namespace Service

variable {s s' : Service api} {index : Nat} {task : Task api}

theorem run_append (s : Service api) (first second : List (Event api)) :
    s.run (first ++ second) = (s.run first).bind fun middle => middle.run second := by
  induction first generalizing s with
  | nil => rfl
  | cons event rest ih =>
    simp only [List.cons_append, run]
    cases s.step event with
    | none => rfl
    | some next => exact ih next

theorem run_cons_of_step {event : Event api} {rest : List (Event api)} (stepped : s.step event = some s') :
    s.run (event :: rest) = s'.run rest := by
  simp only [run, stepped, Option.some_bind]

theorem step_advance (found : s.tasks[index]? = some task) :
    s.step (.advance index) = s.advance index task := by
  simp only [step, found, Option.some_bind]

theorem advance_started (stepped : s.step (.advance index) = some s') :
    ∀ task, s'.tasks[index]? = some task → task.stage ≠ .waiting := by
  obtain ⟨task, found, advanced⟩ := Option.bind_eq_some.mp stepped
  obtain ⟨stage, moves, -⟩ := advance_moves advanced
  intro other moved
  rw [moves.tasks, getElem?_setStage found, if_pos rfl, Option.some.injEq] at moved
  rw [← moved]; exact moves.started

/-! ## The steps an arm can always take -/

theorem advance_reading (s : Service api) (index : Nat) (reading : task.stage = .reading) (reads : task.envelope.message.handler = .read) :
    ∃ reply, s.advance index task =
      some ({ s with replies := s.replies ++ task.envelope.answer (some reply) }.setStage index task .finished) := by
  obtain ⟨reply, replied⟩ := Option.isSome_iff_exists.mp ((readReply_isSome_iff s.pool _).mpr reads)
  refine ⟨reply, ?_⟩
  obtain ⟨⟨message, responder⟩, stage⟩ := task
  subst reading
  cases message <;> (simp only [advance] at replied ⊢; rw [replied]; rfl)

theorem advance_plugging (s : Service api) (index : Nat) {entries : List api.TxEntry} {target : PlugTarget} {entry : api.TxEntry}
    {rest : List api.TxEntry} (message : task.envelope.message = .plugEntry entries target)
    (plugging : task.stage = .plugging (entry :: rest)) :
    s.advance index task =
      some ({ s with pool := target.add api s.pool entry }.setStage index task (.plugging rest)) := by
  simp only [advance, message, plugging]

theorem advance_plugged (s : Service api) (index : Nat) {entries : List api.TxEntry} {target : PlugTarget}
    (message : task.envelope.message = .plugEntry entries target) (plugging : task.stage = .plugging []) :
    s.advance index task = some ({ s with replies := s.replies ++ task.envelope.answer (some .plugEntry) }.setStage
      index task .finished) := by
  simp only [advance, message, plugging]

theorem advance_storing (s : Service api) (index : Nat) {uncle : api.UncleBlockView} (message : task.envelope.message = .newUncle uncle)
    (storing : task.stage = .storing) :
    ∃ s', s.advance index task = some s' ∧ s'.tasks = (s.setStage index task .finished).tasks ∧
      s'.replies = s.replies := by
  simp only [advance, message, storing]
  exact ⟨_, rfl, rfl, rfl⟩

/-- A waiting arm of this repository takes its first step once no guard is out. -/
theorem advance_waiting (s : Service api) (index : Nat) (waiting : task.stage = .waiting) (internal : task.internal = true)
    (free : s.readers = 0 ∧ s.writers = 0) :
    (∃ s' stage, s.advance index task = some s' ∧ s'.tasks = (s.setStage index task stage).tasks ∧
      s'.replies = s.replies ∧ stage.active = true ∧
      ((stage = .reading ∧ task.envelope.message.handler = .read) ∨
        (∃ entries target, task.envelope.message = .plugEntry entries target ∧ stage = .plugging entries) ∨
        (∃ uncle, task.envelope.message = .newUncle uncle ∧ stage = .storing))) ∨
      (s.advance index task = some (s.setStage index task .finished) ∧
        ∃ uncle, task.envelope.message = .newUncle uncle) := by
  obtain ⟨⟨message, responder⟩, stage⟩ := task
  subst waiting
  cases message <;> simp [Task.internal, Message.handler] at internal <;>
    simp only [advance, Message.handler, free, and_self, if_true, true_and]
  case newUncle uncle =>
    cases s.blockAssembler with
    | none => exact .inr ⟨rfl, uncle, rfl⟩
    | some assembler => exact .inl ⟨_, _, rfl, rfl, rfl, rfl, .inr (.inr ⟨uncle, rfl, rfl⟩)⟩
  case plugEntry entries target =>
    exact .inl ⟨_, _, rfl, rfl, rfl, rfl, .inr (.inl ⟨entries, target, rfl, rfl⟩)⟩
  all_goals exact .inl ⟨_, _, rfl, rfl, rfl, rfl, .inl ⟨rfl, trivial⟩⟩

/-! ## An arm runs to its end -/

/-- `s'` is `s` after task `index`, which is `task`, has run to its end by its
own steps: the other tasks are as they were, replies have only been added, and
a request's responder has its reply. -/
structure Finishes (s s' : Service api) (index : Nat) (task : Task api) : Prop where
  tasks : s'.tasks = s.tasks.set index { task with stage := .finished }
  replies : ∃ more, s'.replies = s.replies ++ more
  answered : task.envelope.message.handler.answers = true →
    ∀ r, task.envelope.responder = some r → r ∈ s'.answered

theorem mem_answered_answer {reply : Reply api} {stage : Stage api} {r : Responder}
    (responds : task.envelope.responder = some r) :
    r ∈ answered ({ s with replies := s.replies ++ task.envelope.answer (some reply) }.setStage
      index task stage) := by
  simp [answered, Envelope.answer, responds]

/-- A step that moves the task on, then the rest of its run. -/
theorem Finishes.after {middle : Service api} {stage : Stage api}
    (second : Finishes middle s' index { task with stage })
    (first : middle.tasks = (s.setStage index task stage).tasks) (replies : middle.replies = s.replies) :
    Finishes s s' index task := by
  refine ⟨by rw [second.tasks, first]; exact List.set_set _ _ _ _, ?_, second.answered⟩
  obtain ⟨more, added⟩ := second.replies
  exact ⟨more, by rw [added, replies]⟩

theorem finishes_reading (found : s.tasks[index]? = some task) (reading : task.stage = .reading)
    (reads : task.envelope.message.handler = .read) :
    ∃ n s', s.run (List.replicate n (.advance index)) = some s' ∧ Finishes s s' index task := by
  obtain ⟨reply, advanced⟩ := advance_reading s index reading reads
  exact ⟨1, _, run_cons_of_step ((step_advance found).trans advanced), rfl, ⟨_, rfl⟩,
    fun _ _ responds => mem_answered_answer responds⟩

theorem finishes_plugging {entries : List api.TxEntry} {target : PlugTarget} :
    ∀ (rest : List api.TxEntry) {s : Service api} {task : Task api}, s.tasks[index]? = some task →
      task.envelope.message = .plugEntry entries target → task.stage = .plugging rest →
      ∃ n s', s.run (List.replicate n (.advance index)) = some s' ∧ Finishes s s' index task
  | [], s, task, found, message, plugging =>
    ⟨1, _, run_cons_of_step ((step_advance found).trans (advance_plugged s index message plugging)),
      rfl, ⟨_, rfl⟩, fun _ _ responds => mem_answered_answer responds⟩
  | entry :: rest, s, task, found, message, plugging => by
    have stepped := (step_advance found).trans (advance_plugging s index message plugging)
    have moved : ({ s with pool := target.add api s.pool entry }.setStage index task (.plugging rest)).tasks[index]? =
        some { task with stage := .plugging rest } := by
      rw [getElem?_setStage (s := { s with pool := target.add api s.pool entry }) found, if_pos rfl]
    obtain ⟨n, s', ran, finishes⟩ := finishes_plugging rest moved message rfl
    exact ⟨n + 1, s', by rw [List.replicate_succ, run_cons_of_step stepped]; exact ran,
      finishes.after rfl rfl⟩

theorem finishes_storing {uncle : api.UncleBlockView} (found : s.tasks[index]? = some task)
    (message : task.envelope.message = .newUncle uncle) (storing : task.stage = .storing) :
    ∃ n s', s.run (List.replicate n (.advance index)) = some s' ∧ Finishes s s' index task := by
  obtain ⟨s', advanced, tasks, replies⟩ := advance_storing s index message storing
  refine ⟨1, s', run_cons_of_step ((step_advance found).trans advanced), tasks,
    ⟨[], by rw [replies, List.append_nil]⟩, fun answers => ?_⟩
  rw [message] at answers; cases answers

theorem Message.plugEntry_of_handler {message : Message api} (plug : message.handler = .plug) :
    ∃ entries target, message = .plugEntry entries target := by
  cases message <;> first | exact ⟨_, _, rfl⟩ | cases plug

theorem Message.newUncle_of_handler {message : Message api} (uncle : message.handler = .uncle) :
    ∃ uncle, message = .newUncle uncle := by
  cases message <;> first | exact ⟨_, rfl⟩ | cases uncle

/-- A task of this repository's arms that is past its first `.await` runs to its end. -/
theorem finishes_started (fits : task.stage.fits task.envelope.message.handler = true)
    (found : s.tasks[index]? = some task) (internal : task.internal = true)
    (active : task.stage.active = true) (started : task.stage ≠ .waiting) :
    ∃ n s', s.run (List.replicate n (.advance index)) = some s' ∧ Finishes s s' index task := by
  rcases stage : task.stage with _ | _ | rest | _ | hold | _ <;> rw [stage] at fits active started
  · exact absurd rfl started
  · exact finishes_reading found stage (by simpa [Stage.fits] using fits)
  · obtain ⟨entries, target, message⟩ := Message.plugEntry_of_handler (by simpa [Stage.fits] using fits)
    exact finishes_plugging rest found message stage
  · obtain ⟨uncle, message⟩ := Message.newUncle_of_handler (by simpa [Stage.fits] using fits)
    exact finishes_storing found message stage
  · simp [Stage.fits, Task.internal] at fits internal
    exact absurd fits internal
  · cases active

/-- A waiting task of this repository's arms runs to its end once no guard is out. -/
theorem finishes_waiting (found : s.tasks[index]? = some task) (waiting : task.stage = .waiting)
    (internal : task.internal = true) (free : s.readers = 0 ∧ s.writers = 0) :
    ∃ n s', s.run (List.replicate (n + 1) (.advance index)) = some s' ∧ Finishes s s' index task := by
  rcases advance_waiting s index waiting internal free with
    ⟨middle, stage, advanced, tasks, replies, active, kind⟩ | ⟨advanced, uncle, message⟩
  · have moved : middle.tasks[index]? = some { task with stage } := by
      rw [tasks, getElem?_setStage found, if_pos rfl]
    have started : ∃ n s', middle.run (List.replicate n (.advance index)) = some s' ∧
        Finishes middle s' index { task with stage } := by
      rcases kind with ⟨rfl, reads⟩ | ⟨entries, target, message, rfl⟩ | ⟨uncle, message, rfl⟩
      · exact finishes_reading moved rfl reads
      · exact finishes_plugging entries moved message rfl
      · exact finishes_storing moved message rfl
    obtain ⟨n, s', ran, finishes⟩ := started
    exact ⟨n, s', by rw [List.replicate_succ, run_cons_of_step ((step_advance found).trans advanced)]; exact ran,
      finishes.after tasks replies⟩
  · refine ⟨0, _, run_cons_of_step ((step_advance found).trans advanced), rfl,
      ⟨[], (List.append_nil _).symm⟩, fun answers => ?_⟩
    rw [message] at answers; cases answers

/-! ## Every arm runs to its end -/

/-- The tasks of this repository's arms yet to finish. -/
def pending (s : Service api) : Nat := s.tasks.countP fun task => task.internal && task.stage.active

/-- Every request of `s` yet to be answered in `s'` is still being handled there. -/
def Covers (s s' : Service api) : Prop :=
  ∀ task ∈ s.tasks, task.stage.active = true → task.envelope.message.handler.answers = true →
    ∀ r, task.envelope.responder = some r →
      r ∈ s'.answered ∨ ∃ other ∈ s'.tasks, other.stage.active = true ∧ other.envelope = task.envelope

theorem Stage.active_of_holds {stage : Stage api} (holds : stage.holdsRead = true ∨ stage.holdsWrite = true) :
    stage.active = true := by
  rcases stage with _ | _ | _ | _ | (_ | _ | _) | _ <;> simp_all [Stage.holdsRead, Stage.holdsWrite] <;> rfl

theorem Stage.eq_finished {stage : Stage api} (inactive : stage.active = false) : stage = .finished := by
  cases stage <;> first | rfl | cases inactive

theorem internal_of_answers {task : Task api} (answers : task.envelope.message.handler.answers = true) :
    task.internal = true := by
  unfold Task.internal
  cases handler : task.envelope.message.handler <;> rw [handler] at answers <;> first | rfl | cases answers

/-- When every unfinished task of this repository's arms waits, no guard is out. -/
theorem free_of_waiting (idle : s.Idle)
    (waiting : ∀ task ∈ s.tasks, task.internal = true → task.stage.active = true → task.stage = .waiting) :
    s.readers = 0 ∧ s.writers = 0 := by
  have quiet : ∀ task ∈ s.tasks, task.stage.holdsRead = false ∧ task.stage.holdsWrite = false := by
    intro task mem
    cases internal : task.internal
    · exact idle task mem internal
    · by_contra holds
      have holds : task.stage.holdsRead = true ∨ task.stage.holdsWrite = true := by
        revert holds; cases task.stage.holdsRead <;> cases task.stage.holdsWrite <;> simp
      have stage := waiting task mem internal (Stage.active_of_holds holds)
      rw [stage] at holds
      simp [Stage.holdsRead, Stage.holdsWrite] at holds
  exact ⟨List.countP_eq_zero.mpr fun task mem => by simp [(quiet task mem).1],
    List.countP_eq_zero.mpr fun task mem => by simp [(quiet task mem).2]⟩

theorem mem_set_of_ne {α : Type} {l : List α} {i : Nat} {a b x : α} (mem : a ∈ l) (found : l[i]? = some b)
    (apart : a ≠ b) : a ∈ l.set i x := by
  obtain ⟨j, at_j⟩ := List.mem_iff_getElem?.mp mem
  have : i ≠ j := by rintro rfl; exact apart (Option.some.inj (at_j.symm.trans found))
  exact List.mem_iff_getElem?.mpr ⟨j, by rw [List.getElem?_set_ne this, at_j]⟩

theorem countP_finish {p : Task api → Bool} (found : s.tasks[index]? = some task) (holds : p task = true)
    (finished : p { task with stage := .finished } = false) :
    (s.tasks.set index { task with stage := .finished }).countP p + 1 = s.tasks.countP p := by
  have counted := one_le_countP found holds
  obtain ⟨bound, rfl⟩ := List.getElem?_eq_some_iff.mp found
  rw [List.countP_set _ _ _ _ bound]
  simp only [holds, finished, if_true, Bool.false_eq_true, if_false]
  omega

theorem Finishes.pending_succ (finishes : Finishes s s' index task) (found : s.tasks[index]? = some task)
    (internal : task.internal = true) (active : task.stage.active = true) : s'.pending + 1 = s.pending := by
  unfold Service.pending
  rw [finishes.tasks]
  exact countP_finish found (by simp [internal, active]) (by simp [Stage.active])

theorem Finishes.idle (finishes : Finishes s s' index task) (idle : s.Idle) : s'.Idle := by
  intro other mem
  rw [finishes.tasks] at mem
  rcases List.mem_or_eq_of_mem_set mem with old | rfl
  · exact idle other old
  · exact fun _ => ⟨rfl, rfl⟩

theorem Covers.refl (s : Service api) : Covers s s :=
  fun task mem active _ _ _ => .inr ⟨task, mem, active, rfl⟩

theorem Covers.finishes {s₀ : Service api} (covers : Covers s₀ s) (found : s.tasks[index]? = some task)
    (finishes : Finishes s s' index task) : Covers s₀ s' := by
  intro task₀ mem active answers r responds
  obtain ⟨more, added⟩ := finishes.replies
  rcases covers task₀ mem active answers r responds with old | ⟨other, otherMem, otherActive, same⟩
  · left; rw [answered, added, List.map_append]; exact List.mem_append_left _ old
  · by_cases mine : other = task
    · subst mine
      exact .inl (finishes.answered (by rw [same]; exact answers) r (by rw [same]; exact responds))
    · exact .inr ⟨other, by rw [finishes.tasks]; exact mem_set_of_ne otherMem found mine, otherActive, same⟩

/-- One more task of this repository's arms runs to its end. -/
theorem finishes_pending (invariant : s.Invariant) (idle : s.Idle) (waiting : 0 < s.pending) :
    ∃ events s' index task, s.run events = some s' ∧ s.tasks[index]? = some task ∧
      task.internal = true ∧ task.stage.active = true ∧ Finishes s s' index task := by
  by_cases started : ∃ (index : Nat) (task : Task api), s.tasks[index]? = some task ∧ task.internal = true ∧
      task.stage.active = true ∧ task.stage ≠ .waiting
  · obtain ⟨index, task, found, internal, active, started⟩ := started
    obtain ⟨n, s', ran, finishes⟩ :=
      finishes_started (invariant.fits task (List.getElem?_mem found)) found internal active started
    exact ⟨_, s', index, task, ran, found, internal, active, finishes⟩
  · simp only [not_exists, not_and, not_not] at started
    obtain ⟨task, mem, counted⟩ := List.countP_pos_iff.mp waiting
    obtain ⟨index, found⟩ := List.mem_iff_getElem?.mp mem
    simp only [Bool.and_eq_true] at counted
    have allWaiting : ∀ task ∈ s.tasks, task.internal = true → task.stage.active = true →
        task.stage = .waiting := by
      intro other otherMem
      obtain ⟨other_index, otherFound⟩ := List.mem_iff_getElem?.mp otherMem
      exact started other_index other otherFound
    obtain ⟨n, s', ran, finishes⟩ := finishes_waiting found
      (started index task found counted.1 counted.2) counted.1 (free_of_waiting idle allWaiting)
    exact ⟨_, s', index, task, ran, found, counted.1, counted.2, finishes⟩

/-- The running loop dispatches everything in the channel, in order. -/
theorem receive_all :
    ∀ (queue : List (Envelope api)) {s : Service api}, s.receiving = true → s.queue = queue →
      s.run (List.replicate queue.length .receive) =
        some { s with queue := [], tasks := s.tasks ++ queue.map Task.spawn }
  | [], s, _, queued => by
    cases s
    simp only at queued
    subst queued
    simp [run]
  | envelope :: rest, s, receiving, queued => by
    have stepped : s.step .receive =
        some { s with queue := rest, tasks := s.tasks ++ [Task.spawn envelope] } := by
      simp only [step, receiving, queued]
    rw [List.length_cons, List.replicate_succ, run_cons_of_step stepped,
      @receive_all rest { s with queue := rest, tasks := s.tasks ++ [Task.spawn envelope] } receiving rfl]
    simp

/-! ## Shutdown -/

/-- The tasks yet to finish. -/
def unfinished (s : Service api) : Nat := s.tasks.countP fun task => task.stage.active

/-- After the loop's exit, an external method still running is dropped at its `.await`. -/
theorem cancel_external (found : s.tasks[index]? = some task)
    (fits : task.stage.fits task.envelope.message.handler = true) (external : task.internal = false)
    (active : task.stage.active = true) (exited : s.receiving = false) :
    s.step (.cancel index) = some (s.setStage index task .finished) := by
  have handler : task.envelope.message.handler = .external := by simpa [Task.internal] using external
  rw [handler] at fits
  simp only [step, found, Option.some_bind, cancel, exited, Bool.false_eq_true, if_false]
  rcases stage : task.stage with _ | _ | _ | _ | _ | _ <;> rw [stage] at fits active <;>
    first | rfl | simp [Stage.fits, Stage.active] at fits active

theorem finishes_unfinished (invariant : s.Invariant) (exited : s.receiving = false) (left : 0 < s.unfinished) :
    ∃ events s', s.run events = some s' ∧ s'.unfinished + 1 = s.unfinished := by
  by_cases external : ∃ (index : Nat) (task : Task api), s.tasks[index]? = some task ∧
      task.internal = false ∧ task.stage.active = true
  · obtain ⟨index, task, found, external, active⟩ := external
    refine ⟨[.cancel index], _, run_cons_of_step
      (cancel_external found (invariant.fits task (List.getElem?_mem found)) external active exited), ?_⟩
    exact countP_finish found active rfl
  · simp only [not_exists, not_and] at external
    have inactive : ∀ task ∈ s.tasks, task.internal = false → task.stage = .finished := by
      intro task mem internal
      obtain ⟨index, found⟩ := List.mem_iff_getElem?.mp mem
      exact Stage.eq_finished (by simpa using external index task found internal)
    have idle : s.Idle := fun task mem internal => by rw [inactive task mem internal]; exact ⟨rfl, rfl⟩
    have waiting : 0 < s.pending := by
      obtain ⟨task, mem, active⟩ := List.countP_pos_iff.mp left
      refine List.countP_pos_iff.mpr ⟨task, mem, ?_⟩
      cases internal : task.internal
      · rw [inactive task mem internal] at active; cases active
      · simpa using active
    obtain ⟨events, s', index, task, ran, found, -, active, finishes⟩ := finishes_pending invariant idle waiting
    refine ⟨events, s', ran, ?_⟩
    unfold unfinished
    rw [finishes.tasks]
    exact countP_finish found active rfl

/-- Every task left runs to its end or is dropped, one at a time. -/
theorem shuts_down {init : Service api} (initial : init.Invariant) :
    ∀ n (s : Service api), s.unfinished = n → Reachable init s → s.receiving = false →
      ∃ events s', s.run events = some s' ∧ s'.unfinished = 0
  | 0, s, done, _, _ => ⟨[], s, rfl, done⟩
  | n + 1, s, count, reached, exited => by
    obtain ⟨first, middle, ran, fewer⟩ := finishes_unfinished (reached.invariant initial) exited (by omega)
    have later := Reachable.of_run ran
    obtain ⟨rest, s', ranRest, done⟩ :=
      shuts_down initial n middle (by omega) (reached.trans later) (later.frozen exited).1
    exact ⟨first ++ rest, s', by rw [run_append, ran, Option.some_bind, ranRest], done⟩

/-- Shutdown cannot deadlock: once the loop has broken out on the stop signal,
from every state the service reaches, the runtime can bring every task to its
end, dropping the waiting ones and the external methods at their `.await`s and
letting the arms that hold a guard run on, after which no guard on the pool is
out. -/
theorem exited_tasks_finish {pool : api.TxPool} {blockAssembler : Option (BlockAssembler api)}
    (reached : Reachable (start pool blockAssembler) s) (exited : s.receiving = false) :
    ∃ events s', s.run events = some s' ∧ (∀ task ∈ s'.tasks, task.stage = .finished) ∧
      s'.readers = 0 ∧ s'.writers = 0 := by
  obtain ⟨events, s', ran, done⟩ :=
    shuts_down (invariant_start pool blockAssembler) _ s rfl reached exited
  have finished : ∀ task ∈ s'.tasks, task.stage = .finished := fun task mem =>
    Stage.eq_finished (by simpa using List.countP_eq_zero.mp done task mem)
  refine ⟨events, s', ran, finished, List.countP_eq_zero.mpr fun task mem => ?_,
    List.countP_eq_zero.mpr fun task mem => ?_⟩ <;> simp [finished task mem, Stage.holdsRead, Stage.holdsWrite]

/-- A reorg takes the write guard in its external method while a batch waits
for it; then a controller is dropped and the loop exits. -/
def stoppedMidReorg : List (Event countingApi) :=
  [.call .chainReorg, .call (.plugEntry [7] .pending), .receive, .receive, .external 0 (.acquire .write),
    .signal, .exit]

theorem stoppedMidReorg_tasks_finish :
    ∃ s, countingStart.run stoppedMidReorg = some s ∧ s.writers = 1 ∧ s.unfinished = 2 ∧
      ∃ events s', s.run events = some s' ∧ (∀ task ∈ s'.tasks, task.stage = .finished) ∧
        s'.readers = 0 ∧ s'.writers = 0 :=
  ⟨_, rfl, rfl, rfl, exited_tasks_finish
    (Reachable.of_run (show countingStart.run stoppedMidReorg = some _ from rfl)) rfl⟩

end Service

/-! ## With the locks' queues -/

namespace Fair

variable {f g : Fair api} {index : Nat} {task : Task api}

theorem request_advance_started {s : Service api} (found : s.tasks[index]? = some task)
    (started : task.stage ≠ .waiting) : request s (.advance index) = none := by
  obtain ⟨envelope, stage⟩ := task
  cases stage <;> first | exact absurd rfl started | simp [request, found]

/-- An arm's task at a lock's `.await` is at its first one. -/
theorem Waits.waiting (waits : Waits task) (fits : task.stage.fits task.envelope.message.handler = true)
    (internal : task.internal = true) : task.stage = .waiting := by
  rcases waits with waiting | ⟨hold, external⟩
  · exact waiting
  · rw [external] at fits
    simp [Stage.fits, Task.internal] at fits internal
    exact absurd fits internal

/-- A task past its first `.await` that waits for no lock takes its own steps in
`Fair` as in the service. -/
theorem run_advances : ∀ (n : Nat) {f : Fair api} {s' : Service api}, f.queued index = false →
    (∀ task, f.service.tasks[index]? = some task → task.stage ≠ .waiting) →
    f.service.run (List.replicate n (.advance index)) = some s' →
    f.run (List.replicate n (.service (.advance index))) = some { f with service := s' }
  | 0, _, _, _, _, ran => by cases ran; rfl
  | n + 1, f, s', free, started, ran => by
    obtain ⟨middle, stepped, ran⟩ := Option.bind_eq_some.mp ran
    obtain ⟨task, found, -⟩ := Option.bind_eq_some.mp stepped
    have fairStep : f.step (.service (.advance index)) = some { f with service := middle } := by
      simp only [step, blocked, free, request_advance_started found (started task found), stepped,
        Bool.false_eq_true, if_false, Option.map_some']
      rfl
    rw [List.replicate_succ, run, fairStep, Option.some_bind]
    exact run_advances n free (Service.advance_started stepped) ran

theorem run_receives : ∀ (n : Nat) {f : Fair api} {s' : Service api},
    f.service.run (List.replicate n .receive) = some s' →
    f.run (List.replicate n (.service .receive)) = some { f with service := s' }
  | 0, _, _, ran => by cases ran; rfl
  | n + 1, f, s', ran => by
    obtain ⟨middle, stepped, ran⟩ := Option.bind_eq_some.mp ran
    have fairStep : f.step (.service .receive) = some { f with service := middle } := by
      simp only [step, blocked, request, stepped, Bool.false_eq_true, if_false, Option.map_some']
      rfl
    rw [List.replicate_succ, run, fairStep, Option.some_bind]
    exact run_receives n ran

/-- A waiting arm's task whose first step a stretch of `Fair` has let through
runs on to its end as in the service. -/
theorem run_granted {first : List (FairEvent api)} {n : Nat} {s' : Service api}
    (granted : f.run first = some g) (stepped : f.service.step (.advance index) = some g.service)
    (free : g.queued index = false) (ran : f.service.run (List.replicate (n + 1) (.advance index)) = some s') :
    f.run (first ++ List.replicate n (.service (.advance index))) = some { g with service := s' } := by
  rw [List.replicate_succ, Service.run_cons_of_step stepped] at ran
  rw [Fair.run_append, granted, Option.some_bind]
  exact run_advances n free (Service.advance_started stepped) ran

theorem first_step {n : Nat} {s' : Service api}
    (ran : f.service.run (List.replicate (n + 1) (.advance index)) = some s') :
    ∃ s₁, f.service.step (.advance index) = some s₁ :=
  let ⟨s₁, stepped, _⟩ := Option.bind_eq_some.mp ran; ⟨s₁, stepped⟩

/-- `f'` is `f` after task `index`, which is `task`, an arm of this repository,
has run to its end: the service has finished it, `candidate_uncles` has not
changed hands, and the queues have only lost waiters. -/
structure Drained (f f' : Fair api) (index : Nat) (task : Task api) : Prop where
  found : f.service.tasks[index]? = some task
  internal : task.internal = true
  active : task.stage.active = true
  finishes : Service.Finishes f.service f'.service index task
  holder : f'.unclesHolder = f.unclesHolder
  waiting : f'.waiting.Sublist f.waiting

theorem Drained.idle {f' : Fair api} (drained : Drained f f' index task) (idle : f.Idle) : f'.Idle := by
  refine ⟨drained.finishes.idle idle.1, drained.holder.trans idle.2.1, fun other mem => ?_⟩
  have old := idle.2.2 other (drained.waiting.subset mem)
  rw [drained.finishes.tasks]
  change ((f.service.setStage index task .finished).tasks[other]?).all Task.internal = true
  rw [Service.getElem?_setStage drained.found]
  split
  · next same => subst same; simpa [drained.found] using old
  · exact old

/-- With both queues empty and no guard out, a waiting arm's task asks for its
lock, gets it and runs to its end. -/
theorem drained_request (idle : f.Idle) (empty : f.waiters = [] ∧ f.unclesWaiters = [])
    (found : f.service.tasks[index]? = some task) (internal : task.internal = true) (fresh : task.stage = .waiting)
    (free : f.service.readers = 0 ∧ f.service.writers = 0) :
    ∃ events f', f.run events = some f' ∧ Drained f f' index task := by
  obtain ⟨n, s', ran, finishes⟩ := Service.finishes_waiting found fresh internal free
  obtain ⟨s₁, stepped⟩ := first_step ran
  have free' : f.queued index = false := by simp [queued, Fair.waiting, empty]
  have drained : ∀ first : List (FairEvent api), f.run first = some { f with service := s₁ } →
      ∃ events f', f.run events = some f' ∧ Drained f f' index task := by
    intro first granted
    refine ⟨_, _, run_granted granted stepped (by simp [queued, Fair.waiting, empty]) ran,
      found, internal, by rw [fresh]; rfl, finishes, rfl, ?_⟩
    simp [Fair.waiting, empty]
  cases requested : request f.service (.advance index) with
  | none =>
    exact drained [.service (.advance index)] (by simp [run, step, blocked, free', requested, stepped, after])
  | some request =>
    cases request with
    | pool index' access =>
      obtain ⟨moves, -⟩ := request_pool requested
      cases moves
      exact drained [.service (.advance index), .grant]
        (by simp [run, step, blocked, free', requested, empty, grantEvent, found, internal, stepped])
    | uncles index' =>
      obtain ⟨moves, -⟩ := request_uncles requested
      cases moves
      exact drained [.service (.advance index), .grantUncles]
        (by simp [run, step, blocked, free', requested, empty, idle.2.1, found, internal, stepped])

section Drains

variable (invariant : f.service.Invariant) (queues : f.Queues)

include invariant queues

/-- A task past its first `.await` runs to its end with the queues as they are. -/
theorem drained_started (found : f.service.tasks[index]? = some task) (internal : task.internal = true)
    (active : task.stage.active = true) (started : task.stage ≠ .waiting) :
    ∃ events f', f.run events = some f' ∧ Drained f f' index task := by
  have fits := invariant.fits task (List.getElem?_mem found)
  have free : f.queued index = false := by
    rw [Bool.eq_false_iff, ne_eq, queued_iff]
    intro mem
    obtain ⟨other, found', waits⟩ := queues.waits index mem
    rw [found] at found'; cases found'
    exact started (waits.waiting fits internal)
  obtain ⟨n, s', ran, finishes⟩ := Service.finishes_started fits found internal active started
  exact ⟨_, _, run_advances n free (fun other found' => by rw [found] at found'; cases found'; exact started) ran,
    found, internal, active, finishes, rfl, .refl _⟩

/-- A task in a queue, an arm of this repository, runs to its end once no guard
is out, when the grant `handOver` lets its first step through and takes it out of
its queue. -/
theorem drained_head (handOver : FairEvent api) (waiters : List (Nat × Access)) (uncles : List Nat)
    (idle : f.Idle) (free : f.service.readers = 0 ∧ f.service.writers = 0)
    (perm : f.waiting.Perm (index :: (waiters.map Prod.fst ++ uncles)))
    (sub : (waiters.map Prod.fst ++ uncles).Sublist f.waiting)
    (granted : ∀ {task : Task api} {s₁ : Service api}, f.service.tasks[index]? = some task →
      task.internal = true → f.service.step (.advance index) = some s₁ →
      f.run [handOver] = some { f with service := s₁, waiters := waiters, unclesWaiters := uncles }) :
    ∃ events f' task, f.run events = some f' ∧ Drained f f' index task := by
  have head : index ∈ f.waiting := perm.symm.subset (List.mem_cons_self _ _)
  obtain ⟨task, found, waits⟩ := queues.waits index head
  have internal : task.internal = true := by simpa [found] using idle.2.2 index head
  have fresh := waits.waiting (invariant.fits task (List.getElem?_mem found)) internal
  obtain ⟨n, s', ran, finishes⟩ := Service.finishes_waiting found fresh internal free
  obtain ⟨s₁, stepped⟩ := first_step ran
  have apart := (List.nodup_cons.mp (perm.nodup_iff.mp queues.nodup)).1
  exact ⟨_, _, task, run_granted (granted found internal stepped) stepped
    (by simpa [queued, Fair.waiting] using apart) ran, found, internal, by rw [fresh]; rfl, finishes, rfl, sub⟩

theorem drained_waiter {access : Access} {rest : List (Nat × Access)} (idle : f.Idle)
    (waiters : f.waiters = (index, access) :: rest) (free : f.service.readers = 0 ∧ f.service.writers = 0) :
    ∃ events f' task, f.run events = some f' ∧ Drained f f' index task :=
  drained_head invariant queues .grant rest f.unclesWaiters idle free (by simp [Fair.waiting, waiters])
    (by simp [Fair.waiting, waiters]) fun found internal stepped => by
      simp [run, step, waiters, grantEvent, found, internal, stepped]

/-- The head of `candidate_uncles`' queue runs to its end once no external
method holds the mutex. -/
theorem drained_uncleWaiter {rest : List Nat} (idle : f.Idle) (uncles : f.unclesWaiters = index :: rest)
    (free : f.service.readers = 0 ∧ f.service.writers = 0) :
    ∃ events f' task, f.run events = some f' ∧ Drained f f' index task :=
  drained_head invariant queues .grantUncles f.waiters rest idle free (by simp [Fair.waiting, uncles])
    (by simp [Fair.waiting, uncles]) fun found internal stepped => by
      simp [run, step, idle.2.1, uncles, found, internal, stepped]

/-- One more task of this repository's arms runs to its end in `Fair`. -/
theorem finishes_pending (idle : f.Idle) (left : 0 < f.service.pending) :
    ∃ events f' index task, f.run events = some f' ∧ Drained f f' index task := by
  by_cases started : ∃ (index : Nat) (task : Task api), f.service.tasks[index]? = some task ∧
      task.internal = true ∧ task.stage.active = true ∧ task.stage ≠ .waiting
  · obtain ⟨index, task, found, internal, active, started⟩ := started
    obtain ⟨events, f', ran, drained⟩ := drained_started invariant queues found internal active started
    exact ⟨events, f', index, task, ran, drained⟩
  · simp only [not_exists, not_and, not_not] at started
    have free := Service.free_of_waiting idle.1 fun task mem internal active => by
      obtain ⟨index, found⟩ := List.mem_iff_getElem?.mp mem
      exact started index task found internal active
    cases waiters : f.waiters with
    | cons entry rest =>
      obtain ⟨events, f', task, ran, drained⟩ := drained_waiter invariant queues idle waiters free
      exact ⟨events, f', _, task, ran, drained⟩
    | nil =>
      cases uncles : f.unclesWaiters with
      | cons index rest =>
        obtain ⟨events, f', task, ran, drained⟩ := drained_uncleWaiter invariant queues idle uncles free
        exact ⟨events, f', index, task, ran, drained⟩
      | nil =>
        obtain ⟨task, mem, counted⟩ := List.countP_pos_iff.mp left
        obtain ⟨index, found⟩ := List.mem_iff_getElem?.mp mem
        simp only [Bool.and_eq_true] at counted
        obtain ⟨events, f', ran, drained⟩ := drained_request idle ⟨waiters, uncles⟩ found
          counted.1 (started index task found counted.1 counted.2) free
        exact ⟨events, f', index, task, ran, drained⟩

end Drains

/-- The arms of this repository all run to their ends, each request keeping its answer. -/
theorem drains {init : Fair api} (initial : init.service.Invariant) (initialQueues : init.Queues)
    {s₀ : Service api} :
    ∀ n (f : Fair api), f.service.pending = n → Reachable init f → f.Idle → Service.Covers s₀ f.service →
      ∃ events f', f.run events = some f' ∧ f'.service.pending = 0 ∧ Service.Covers s₀ f'.service
  | 0, f, drained, _, _, covers => ⟨[], f, rfl, drained, covers⟩
  | n + 1, f, count, reached, idle, covers => by
    obtain ⟨first, middle, index, task, ran, drained⟩ :=
      finishes_pending (reached.service.invariant initial) (reached.queues initialQueues) idle (by omega)
    obtain ⟨rest, f', ranRest, done, covered⟩ := drains initial initialQueues n middle
      (by have := drained.finishes.pending_succ drained.found drained.internal drained.active; omega)
      (reached.trans (Reachable.of_run ran)) (drained.idle idle) (covers.finishes drained.found drained.finishes)
    exact ⟨first ++ rest, f', by rw [Fair.run_append, ran, Option.some_bind, ranRest], done, covered⟩

/-- From a reachable state in which no external method holds or waits for a
guard, the arms of this repository run to their ends and answer every request
they hold. -/
theorem handlers_finish_from {init : Fair api} (initial : init.service.Invariant) (initialQueues : init.Queues)
    (reached : Reachable init f) (idle : f.Idle) :
    ∃ events f', f.run events = some f' ∧
      (∀ task ∈ f'.service.tasks, task.internal = true → task.stage = .finished) ∧
      ∀ task ∈ f.service.tasks, task.stage.active = true → task.envelope.message.handler.answers = true →
        ∀ r, task.envelope.responder = some r → r ∈ f'.service.answered := by
  obtain ⟨events, f', ran, drained, covers⟩ :=
    drains initial initialQueues _ f rfl reached idle (Service.Covers.refl f.service)
  have finished : ∀ task ∈ f'.service.tasks, task.internal = true → task.stage = .finished := by
    intro task mem internal
    have := List.countP_eq_zero.mp drained task mem
    simp only [internal, Bool.true_and] at this
    exact Service.Stage.eq_finished (by simpa using this)
  refine ⟨events, f', ran, finished, fun task mem active answers r responds => ?_⟩
  rcases covers task mem active answers r responds with answered | ⟨other, otherMem, otherActive, same⟩
  · exact answered
  · have internal : other.internal = true := Service.internal_of_answers (by rw [same]; exact answers)
    rw [finished other otherMem internal] at otherActive
    cases otherActive

/-- Every request in the channel for a read arm or `PlugEntry` gets its reply:
from every state the service with its locks' queues reaches in which the loop
runs and no external method holds or waits for a guard, the loop dispatches the
channel and the arms run to their ends. -/
theorem queued_requests_answered {pool : api.TxPool} {blockAssembler : Option (BlockAssembler api)}
    (reached : Reachable (start pool blockAssembler) f) (receiving : f.service.receiving = true) (idle : f.Idle) :
    ∃ events f', f.run events = some f' ∧
      ∀ envelope ∈ f.service.queue, envelope.message.handler.answers = true →
        ∀ r, envelope.responder = some r → r ∈ f'.service.answered := by
  have dispatched := run_receives _ (Service.receive_all f.service.queue receiving rfl)
  have queues := reached.queues (queues_start pool blockAssembler)
  have idle' : Idle { f with service :=
      { f.service with queue := [], tasks := f.service.tasks ++ f.service.queue.map Task.spawn } } := by
    refine ⟨fun task mem external => ?_, idle.2.1, fun index mem => ?_⟩
    · rcases List.mem_append.mp mem with old | new
      · exact idle.1 task old external
      · obtain ⟨envelope, -, rfl⟩ := List.mem_map.mp new
        exact ⟨Task.spawn_holdsRead envelope, Task.spawn_holdsWrite envelope⟩
    · obtain ⟨task, found, -⟩ := queues.waits index mem
      have inside := (List.getElem?_eq_some_iff.mp found).1
      simpa only [List.getElem?_append_left inside] using idle.2.2 index mem
  obtain ⟨events, f', ran, -, answered⟩ := handlers_finish_from (Service.invariant_start pool blockAssembler)
    (queues_start pool blockAssembler) (reached.trans (Reachable.of_run dispatched)) idle'
  refine ⟨_ ++ events, f', by rw [Fair.run_append, dispatched, Option.some_bind, ran], ?_⟩
  intro envelope queued answers r responds
  exact answered (Task.spawn envelope) (List.mem_append_right _ (List.mem_map_of_mem _ queued))
    (Task.spawn_active envelope) answers r responds

/-- Two requests sent and not yet received. -/
def twoQueued : List (FairEvent Service.countingApi) :=
  [.service (.call .getTxPoolInfo), .service (.call (.fetchTxs [[1]]))]

theorem twoQueued_requests_answered :
    ∃ f, (start 0 none : Fair Service.countingApi).run twoQueued = some f ∧ f.service.queue.length = 2 ∧
      ∃ events f', f.run events = some f' ∧
        ∀ envelope ∈ f.service.queue, envelope.message.handler.answers = true →
          ∀ r, envelope.responder = some r → r ∈ f'.service.answered :=
  ⟨_, rfl, rfl, queued_requests_answered
    (Reachable.of_run (show (start 0 none : Fair Service.countingApi).run twoQueued = some _ from rfl)) rfl
    (by unfold Idle Service.Idle; decide)⟩

end Fair

end Ckb.TxPool
