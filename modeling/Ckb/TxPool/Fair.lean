import Ckb.TxPool.Invariants

/-!
# The locks' wait queues

`tokio::sync::RwLock` and `tokio::sync::Mutex` hand their guards out in the
order the tasks ask: a task that asks joins the back of the lock's queue, and a
guard goes only to the queue's head, whose request holds back the ones behind it
even when the lock could grant them. `Service` grants any guard the holders
allow, so its runs include every order the runtime's locks give. `Fair` adds the
queues: one for `tx_pool`, and one for the assembler's `candidate_uncles`, which
`NewUncle` holds only for its insert and an external method
(`get_block_template` consults the assembler) may hold across its own steps.

A request is a step of its own, and so is a grant. In the runtime a release
hands the guard to the head at once; taking the hand-over as a step of its own
only adds runs in which the head has its guard and is not yet counted as
holding it, and every request made meanwhile still queues behind it.

Every step of `Fair` is a step of the service or leaves the service as it is,
so every state `Fair` reaches is one the service reaches, and the service's
invariants hold of it. The queues hold tasks at a lock's `.await`, each once.
-/

set_option autoImplicit false

namespace Ckb.TxPool

variable {api : TxPoolApi}

/-- A task of an arm of `process` in this repository. -/
def Task.internal (task : Task api) : Bool := task.envelope.message.handler != .external

/-- The task a service step moves on, if any. -/
def Event.mover : Event api → Option Nat
  | .advance index | .external index _ | .cancel index => some index
  | _ => none

namespace Service

/-- No external method holds a guard on the pool. -/
def Idle (s : Service api) : Prop :=
  ∀ task ∈ s.tasks, task.internal = false → task.stage.holdsRead = false ∧ task.stage.holdsWrite = false

variable {s s' : Service api}

/-- A step leaves every task it does not move as it was. -/
theorem step_getElem? {event : Event api} {index : Nat} (stepped : s.step event = some s')
    (other : event.mover ≠ some index) (present : (s.tasks[index]?).isSome) :
    s'.tasks[index]? = s.tasks[index]? := by
  have moved : ∀ {mover : Nat} {task : Task api} {stage : Stage api}, s.tasks[mover]? = some task →
      Moves s s' mover task stage → some mover ≠ some index → s'.tasks[index]? = s.tasks[index]? :=
    fun found moves apart => by
      rw [moves.tasks, getElem?_setStage found, if_neg fun same => apart (congrArg some same)]
  cases event with
  | call message =>
    simp only [step] at stepped
    split at stepped <;> cases stepped
    · obtain ⟨-, -, rfl⟩ := trySend_ok ‹_›; rfl
    · rfl
  | receive =>
    simp only [step] at stepped
    split at stepped
    · cases stepped
      obtain ⟨task, found⟩ := Option.isSome_iff_exists.mp present
      exact List.getElem?_append_left (List.getElem?_eq_some_iff.mp found).1
    · cases stepped
  | signal => cases stepped; rfl
  | exit =>
    simp only [step] at stepped
    split at stepped <;> cases stepped; rfl
  | tick now => cases stepped; rfl
  | advance mover =>
    obtain ⟨task, found, advanced⟩ := Option.bind_eq_some.mp stepped
    exact moved found (advance_moves advanced).choose_spec.1 other
  | external mover action =>
    obtain ⟨task, found, advanced⟩ := Option.bind_eq_some.mp stepped
    exact moved found (externalStep_moves found advanced).choose_spec.1 other
  | cancel mover =>
    obtain ⟨task, found, cancelled⟩ := Option.bind_eq_some.mp stepped
    exact moved found (cancel_moves cancelled).choose_spec other

end Service

/-- The service with the wait queues of its locks. -/
structure Fair (api : TxPoolApi) where
  service : Service api
  /-- the tasks waiting for `tx_pool`, in the order they asked, with the guard each asked for -/
  waiters : List (Nat × Access)
  /-- the external method holding `candidate_uncles`, if any -/
  unclesHolder : Option Nat
  /-- the tasks waiting for `candidate_uncles`, in the order they asked -/
  unclesWaiters : List Nat

/-- What can happen next, with the locks' queues. -/
inductive FairEvent (api : TxPoolApi) where
  /-- a step of the service, where a task's step to a lock's `.await` joins the lock's queue -/
  | service (event : Event api)
  /-- `tx_pool` hands the head of its queue the guard it asked for -/
  | grant
  /-- an external method's `candidate_uncles.lock()` -/
  | lockUncles (task : Nat)
  /-- an external method drops its `candidate_uncles` guard -/
  | unlockUncles (task : Nat)
  /-- `candidate_uncles` goes to the head of its queue -/
  | grantUncles

/-- A lock a task asks for. -/
inductive Request where
  | pool (task : Nat) (access : Access)
  | uncles (task : Nat)

namespace Fair

/-- `TxPoolServiceBuilder::new(..).start()`, with both locks free. -/
def start (pool : api.TxPool) (blockAssembler : Option (BlockAssembler api)) : Fair api :=
  ⟨Service.start pool blockAssembler, [], none, []⟩

/-- The tasks waiting for a lock. -/
def waiting (f : Fair api) : List Nat := f.waiters.map Prod.fst ++ f.unclesWaiters

/-- Whether task `index` waits for a lock. -/
def queued (f : Fair api) (index : Nat) : Bool := f.waiting.contains index

/-- The lock the service step `event` asks for, if it is a step to a lock's
`.await`: the first step of a read arm (`tx_pool.read()`) or of `PlugEntry`
(`tx_pool.write()`), `NewUncle`'s `candidate_uncles.lock()` under an
assembler, and an external method's acquire. -/
def request (s : Service api) : Event api → Option Request
  | .advance index =>
      match s.tasks[index]? with
      | some ⟨envelope, .waiting⟩ =>
          match envelope.message.handler with
          | .read => some (.pool index .read)
          | .plug => some (.pool index .write)
          | .uncle => if s.blockAssembler.isSome then some (.uncles index) else none
          | .external => none
      | _ => none
  | .external index (.acquire access) =>
      match s.tasks[index]? with
      | some ⟨_, .external none⟩ => some (.pool index access)
      | _ => none
  | _ => none

/-- Whether a service step is held back: a task waiting for a lock takes no
other step, and an external method ends only after dropping `candidate_uncles`. -/
def blocked (f : Fair api) : Event api → Bool
  | .advance index => f.queued index
  | .external index (.finish _) => f.queued index || f.unclesHolder == some index
  | .external index _ => f.queued index
  | _ => false

/-- The state after the service step `event` has taken the service to `s`: a
task the runtime drops leaves the queues and drops its `candidate_uncles` guard. -/
def after (f : Fair api) (s : Service api) : Event api → Fair api
  | .cancel index =>
      ⟨s, f.waiters.filter (·.1 != index), if f.unclesHolder == some index then none else f.unclesHolder,
        f.unclesWaiters.filter (· != index)⟩
  | _ => { f with service := s }

/-- The service step that hands task `index` the guard `access` on `tx_pool`:
the first step of its arm, or its external method's acquire. -/
def grantEvent (s : Service api) (index : Nat) (access : Access) : Event api :=
  match s.tasks[index]? with
  | some task => if task.internal then .advance index else .external index (.acquire access)
  | none => .advance index

def step (f : Fair api) : FairEvent api → Option (Fair api)
  | .service event =>
      if f.blocked event then none
      else
        match request f.service event with
        | some (.pool index access) => some { f with waiters := f.waiters ++ [(index, access)] }
        | some (.uncles index) => some { f with unclesWaiters := f.unclesWaiters ++ [index] }
        | none => (f.service.step event).map fun s => f.after s event
  | .grant =>
      match f.waiters with
      | (index, access) :: rest =>
          (f.service.step (grantEvent f.service index access)).map fun s =>
            { f with service := s, waiters := rest }
      | [] => none
  | .lockUncles index =>
      match f.service.tasks[index]? with
      | some ⟨_, .external _⟩ =>
          if f.service.blockAssembler.isSome && !f.queued index && f.unclesHolder != some index then
            some { f with unclesWaiters := f.unclesWaiters ++ [index] }
          else none
      | _ => none
  | .unlockUncles index =>
      if f.unclesHolder = some index then some { f with unclesHolder := none } else none
  | .grantUncles =>
      match f.unclesHolder, f.unclesWaiters with
      | none, index :: rest =>
          match f.service.tasks[index]? with
          | some task =>
              if task.internal then
                (f.service.step (.advance index)).map fun s => { f with service := s, unclesWaiters := rest }
              else some { f with unclesHolder := some index, unclesWaiters := rest }
          | none => none
      | _, _ => none

/-- The events run in order; `none` if one cannot happen. -/
def run (f : Fair api) : List (FairEvent api) → Option (Fair api)
  | [] => some f
  | event :: rest => (f.step event).bind fun next => next.run rest

/-- The states `Fair` reaches from `init`. -/
inductive Reachable (init : Fair api) : Fair api → Prop
  | start : Reachable init init
  | step {f f' : Fair api} (event : FairEvent api) :
      Reachable init f → f.step event = some f' → Reachable init f'

/-- No external method holds a guard on `tx_pool` or `candidate_uncles`, or waits
for one. -/
def Idle (f : Fair api) : Prop :=
  f.service.Idle ∧ f.unclesHolder = none ∧ ∀ index ∈ f.waiting, (f.service.tasks[index]?).all Task.internal

/-! ## Steps of the service -/

section Steps

variable {f f' : Fair api}

theorem queued_iff {index : Nat} : f.queued index = true ↔ index ∈ f.waiting := List.elem_iff

@[simp] theorem after_service (s : Service api) (event : Event api) : (f.after s event).service = s := by
  cases event <;> rfl

/-- Every step of `Fair` is a step of the service, or leaves it as it is. -/
theorem step_service {event : FairEvent api} (stepped : f.step event = some f') :
    f'.service = f.service ∨ ∃ event', f.service.step event' = some f'.service := by
  cases event with
  | service event =>
    simp only [step] at stepped
    split at stepped
    · cases stepped
    · split at stepped <;> try (cases stepped; exact .inl rfl)
      obtain ⟨s, serviceStep, rfl⟩ := Option.map_eq_some'.mp stepped
      exact .inr ⟨event, by rw [after_service]; exact serviceStep⟩
  | grant =>
    simp only [step] at stepped
    split at stepped
    · obtain ⟨s, serviceStep, rfl⟩ := Option.map_eq_some'.mp stepped
      exact .inr ⟨_, serviceStep⟩
    · cases stepped
  | lockUncles index =>
    simp only [step] at stepped
    split at stepped
    · split at stepped <;> cases stepped; exact .inl rfl
    · cases stepped
  | unlockUncles index =>
    simp only [step] at stepped
    split at stepped <;> cases stepped; exact .inl rfl
  | grantUncles =>
    simp only [step] at stepped
    split at stepped
    · split at stepped
      · split at stepped
        · obtain ⟨s, serviceStep, rfl⟩ := Option.map_eq_some'.mp stepped
          exact .inr ⟨_, serviceStep⟩
        · cases stepped; exact .inl rfl
      · cases stepped
    · cases stepped

theorem Reachable.trans {init : Fair api} (first : Reachable init f) (second : Reachable f f') :
    Reachable init f' := by
  induction second with
  | start => exact first
  | step event _ stepped reached => exact .step event reached stepped

theorem Reachable.of_run {init : Fair api} {events : List (FairEvent api)} (ran : init.run events = some f) :
    Reachable init f := by
  induction events generalizing init with
  | nil => cases ran; exact .start
  | cons event rest ih =>
    obtain ⟨next, stepped, ran⟩ := Option.bind_eq_some.mp ran
    exact (Reachable.step event .start stepped).trans (ih ran)

/-- Every state `Fair` reaches is one the service reaches. -/
theorem Reachable.service {init : Fair api} (reached : Reachable init f) :
    Service.Reachable init.service f.service := by
  induction reached with
  | start => exact .start
  | step _ _ stepped reached =>
    rcases step_service stepped with same | ⟨event, stepped⟩
    · rw [same]; exact reached
    · exact .step event reached stepped

theorem run_append (f : Fair api) (first second : List (FairEvent api)) :
    f.run (first ++ second) = (f.run first).bind fun middle => middle.run second := by
  induction first generalizing f with
  | nil => rfl
  | cons event rest ih =>
    simp only [List.cons_append, run]
    cases f.step event with
    | none => rfl
    | some next => exact ih next

end Steps

/-! ## The queues -/

/-- A task at a lock's `.await`: at an arm's first, or inside an external method. -/
def Waits (task : Task api) : Prop :=
  task.stage = .waiting ∨ ∃ hold, task.stage = .external hold

/-- The queues hold tasks at a lock's `.await`, each once. -/
structure Queues (f : Fair api) : Prop where
  waits : ∀ index ∈ f.waiting, ∃ task, f.service.tasks[index]? = some task ∧ Waits task
  nodup : f.waiting.Nodup

section Queues

variable {f f' : Fair api}

/-- Queues that lose entries, over tasks that did not move, keep the invariant. -/
theorem Queues.shrink (queues : f.Queues) (sub : f'.waiting.Sublist f.waiting)
    (kept : ∀ index ∈ f'.waiting, f'.service.tasks[index]? = f.service.tasks[index]?) : f'.Queues :=
  ⟨fun index mem => kept index mem ▸ queues.waits index (sub.subset mem), queues.nodup.sublist sub⟩

/-- A task that is at a lock's `.await` and waits for none joins a queue. -/
theorem Queues.push {index : Nat} {task : Task api} (queues : f.Queues) (perm : f'.waiting.Perm (index :: f.waiting))
    (service : f'.service = f.service) (fresh : f.queued index = false)
    (found : f.service.tasks[index]? = some task) (waits : Waits task) : f'.Queues := by
  refine ⟨fun other mem => ?_, perm.nodup_iff.mpr (List.nodup_cons.mpr ⟨fun mem => ?_, queues.nodup⟩)⟩
  · rw [service]
    rcases List.mem_cons.mp (perm.subset mem) with rfl | old
    · exact ⟨task, found, waits⟩
    · exact queues.waits other old
  · rw [← queued_iff, fresh] at mem; cases mem

theorem Queues.step_service {event : Event api} {s : Service api} (queues : f.Queues)
    (stepped : f.service.step event = some s) {index : Nat} (mem : index ∈ f.waiting)
    (apart : event.mover ≠ some index) : s.tasks[index]? = f.service.tasks[index]? := by
  obtain ⟨task, found, -⟩ := queues.waits index mem
  exact Service.step_getElem? stepped apart (by rw [found]; rfl)

theorem mover_free {event : Event api} (unblocked : f.blocked event = false) (kept : ∀ index, event ≠ .cancel index)
    {index : Nat} (moves : event.mover = some index) : index ∉ f.waiting := by
  rw [← queued_iff, Bool.not_eq_true]
  cases event with
  | advance mover => cases moves; exact unblocked
  | external mover action =>
    cases moves
    cases action <;> simp_all [blocked]
  | cancel mover => exact absurd rfl (kept mover)
  | _ => cases moves

theorem request_pool {s : Service api} {event : Event api} {index : Nat} {access : Access}
    (requested : request s event = some (.pool index access)) :
    event.mover = some index ∧ (∀ other, event ≠ .cancel other) ∧ ∃ task, s.tasks[index]? = some task ∧ Waits task := by
  cases event with
  | advance mover =>
    simp only [request] at requested
    split at requested
    · split at requested <;> (try split at requested) <;> cases requested <;>
        exact ⟨rfl, nofun, _, ‹_›, .inl rfl⟩
    · cases requested
  | external mover action =>
    cases action with
    | acquire =>
      simp only [request] at requested
      split at requested
      · cases requested; exact ⟨rfl, nofun, _, ‹_›, .inr ⟨_, rfl⟩⟩
      · cases requested
    | _ => simp [request] at requested
  | _ => simp [request] at requested

theorem request_uncles {s : Service api} {event : Event api} {index : Nat}
    (requested : request s event = some (.uncles index)) :
    event.mover = some index ∧ (∀ other, event ≠ .cancel other) ∧ ∃ task, s.tasks[index]? = some task ∧ Waits task := by
  cases event with
  | advance mover =>
    simp only [request] at requested
    split at requested
    · split at requested <;> (try split at requested) <;> cases requested
      exact ⟨rfl, nofun, _, ‹_›, .inl rfl⟩
    · cases requested
  | external mover action =>
    cases action with
    | acquire =>
      simp only [request] at requested
      split at requested <;> cases requested
    | _ => simp [request] at requested
  | _ => simp [request] at requested

theorem blocked_mover {event : Event api} {index : Nat} (moves : event.mover = some index)
    (kept : ∀ other, event ≠ .cancel other) (unblocked : f.blocked event = false) : f.queued index = false := by
  rw [Bool.eq_false_iff, ne_eq, queued_iff]
  exact mover_free unblocked kept moves

theorem Queues.step {event : FairEvent api} (queues : f.Queues) (stepped : f.step event = some f') :
    f'.Queues := by
  cases event with
  | service event =>
    simp only [Fair.step] at stepped
    split at stepped
    · cases stepped
    · rename_i unblocked
      rw [Bool.not_eq_true] at unblocked
      split at stepped
      · rename_i index access requested
        cases stepped
        obtain ⟨moves, kept, task, found, waits⟩ := request_pool requested
        exact queues.push (by simp [waiting]) rfl (blocked_mover moves kept unblocked) found waits
      · rename_i index requested
        cases stepped
        obtain ⟨moves, kept, task, found, waits⟩ := request_uncles requested
        exact queues.push (by simp only [waiting, ← List.append_assoc]; exact List.perm_append_singleton _ _) rfl
          (blocked_mover moves kept unblocked) found waits
      · obtain ⟨s, serviceStep, rfl⟩ := Option.map_eq_some'.mp stepped
        cases dropped : event with
        | cancel index =>
          subst dropped
          have sub : (f.after s (.cancel index)).waiting.Sublist f.waiting :=
            List.Sublist.append ((List.filter_sublist _).map _) (List.filter_sublist _)
          refine queues.shrink sub fun other mem => queues.step_service serviceStep (sub.subset mem) ?_
          simp only [after, waiting, List.mem_append, List.mem_map, List.mem_filter] at mem
          rcases mem with ⟨entry, ⟨-, apart⟩, rfl⟩ | ⟨-, apart⟩ <;>
            exact fun same => by simp only [Event.mover, Option.some.injEq] at same; simp [same] at apart
        | _ =>
          subst dropped
          exact queues.shrink (List.Sublist.refl _) fun other mem =>
            queues.step_service serviceStep mem fun moves => mover_free unblocked nofun moves mem
  | grant =>
    simp only [Fair.step] at stepped
    split at stepped
    · rename_i index access rest waiters
      obtain ⟨s, serviceStep, rfl⟩ := Option.map_eq_some'.mp stepped
      have cons : f.waiting = index :: ({ f with service := s, waiters := rest } : Fair api).waiting := by
        simp [waiting, waiters]
      have moves : (grantEvent f.service index access).mover = some index := by
        unfold grantEvent; split
        · split <;> rfl
        · rfl
      have nodup := queues.nodup
      rw [cons] at nodup
      refine queues.shrink (by rw [cons]; exact List.sublist_cons_self _ _) fun other mem =>
        queues.step_service serviceStep (by rw [cons]; exact List.mem_cons_of_mem _ mem) fun moved => ?_
      rw [moves, Option.some.injEq] at moved
      exact (List.nodup_cons.mp nodup).1 (moved ▸ mem)
    · cases stepped
  | lockUncles index =>
    simp only [Fair.step] at stepped
    split at stepped
    · rename_i envelope hold found
      split at stepped
      · rename_i fresh
        cases stepped
        simp only [Bool.and_eq_true, Bool.not_eq_true'] at fresh
        exact queues.push (by simp only [waiting, ← List.append_assoc]; exact List.perm_append_singleton _ _) rfl
          fresh.1.2 found (.inr ⟨hold, rfl⟩)
      · cases stepped
    · cases stepped
  | unlockUncles index =>
    simp only [Fair.step] at stepped
    split at stepped <;> cases stepped
    exact queues.shrink (List.Sublist.refl _) fun _ _ => rfl
  | grantUncles =>
    simp only [Fair.step] at stepped
    split at stepped
    · rename_i index rest holder uncles
      have cons : f.waiting.Perm (index :: (f.waiters.map Prod.fst ++ rest)) := by
        simp [waiting, uncles]
      have sub : (f.waiters.map Prod.fst ++ rest).Sublist f.waiting := by
        simp [waiting, uncles]
      have fresh : index ∉ f.waiters.map Prod.fst ++ rest :=
        (List.nodup_cons.mp (cons.nodup_iff.mp queues.nodup)).1
      split at stepped
      · split at stepped
        · obtain ⟨s, serviceStep, rfl⟩ := Option.map_eq_some'.mp stepped
          refine queues.shrink sub fun other mem =>
            queues.step_service serviceStep (sub.subset mem) fun moved => ?_
          cases moved
          exact fresh mem
        · cases stepped
          exact queues.shrink sub fun _ _ => rfl
      · cases stepped
    · cases stepped

theorem queues_start (pool : api.TxPool) (blockAssembler : Option (BlockAssembler api)) :
    (start pool blockAssembler).Queues :=
  ⟨(fun _ mem => nomatch mem), .nil⟩

theorem Reachable.queues {init : Fair api} (initial : init.Queues) (reached : Reachable init f) : f.Queues := by
  induction reached with
  | start => exact initial
  | step _ _ stepped queues => exact queues.step stepped

end Queues

end Fair

end Ckb.TxPool
