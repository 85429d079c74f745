import HttpServer.Proofs.Pool.Lifecycle

/-!
Waking up. A caller adds a task and notifies a worker later, with the queue free in between, so
the notification may find every worker busy, or only workers of a later start. Still, while some
worker sleeps, each task that waits has a worker that is about to look at the queue, or a caller
who has yet to notify one. A pool that was stopped has no sleeping worker once its workers were
roused.
-/

namespace HttpServer.Pool

variable {α : Type}

def Worker.isUp (worker : Worker α) : Bool :=
  worker.isLive && !worker.isAsleep

def Worker.isAwake (worker : Worker α) : Bool :=
  match worker.state with
  | .awake => true
  | _ => false

/-- If somebody sleeps, each task that waits has a worker that is about to look at the queue, or a
caller who has yet to notify one. -/
def Covered (pool : Pool α) : Prop :=
  (∃ worker ∈ pool.workers, worker.isAsleep = true) →
    pool.queue.length ≤ pool.workers.countP Worker.isAwake + pool.unnotified

def Stage.isRenewing : Stage → Bool
  | .opened .start | .opened (.resize _) | .waking (some _) | .joining (some _) _
  | .spawning _ => true
  | _ => false

/-- Who watches over the queue at each stage of a call. -/
inductive Watch (pool : Pool α) : Stage → Prop
  | vacant {stage : Stage} (between : stage = .idle ∨ ∃ call, stage = .opened call)
      (stopped : pool.running = false) (nobody : pool.workers = []) : Watch pool stage
  | kept {stage : Stage}
      (serving : stage = .idle ∨ (∃ call, stage = .opened call) ∨ ∃ next, stage = .spawning next)
      (running : pool.running = true) (covered : Covered pool) : Watch pool stage
  | waking {resized : Option Nat} (stopped : pool.running = false) : Watch pool (.waking resized)
  | joining {resized : Option Nat} {count : Nat} (stopped : pool.running = false)
      (roused : ∀ worker ∈ pool.workers, worker.isAsleep = false) :
      Watch pool (.joining resized count)

theorem isAsleep_wake (worker : Worker α) : worker.wake.isAsleep = false := by
  obtain ⟨generation, state⟩ := worker
  cases state <;> rfl

theorem isUp_iff {worker : Worker α} :
    worker.isUp = true ↔ worker.isLive = true ∧ worker.isAsleep = false := by
  simp only [Worker.isUp, Bool.and_eq_true, Bool.not_eq_true']

theorem isUp_of_isAwake {worker : Worker α} (awake : worker.isAwake = true) :
    worker.isUp = true := by
  obtain ⟨generation, state⟩ := worker
  cases state with
  | awake => rfl
  | _ => cases awake

theorem countP_awake_set {workers : List (Worker α)} {index : Nat} {worker : Worker α}
    (found : workers[index]? = some worker) (turned : Worker α) :
    (workers.set index turned).countP Worker.isAwake + worker.isAwake.toNat =
      workers.countP Worker.isAwake + turned.isAwake.toNat := by
  obtain ⟨bound, rfl⟩ := List.getElem?_eq_some_iff.mp found
  have counted : workers[index].isAwake = true → 0 < workers.countP Worker.isAwake :=
    fun awake => List.countP_pos_iff.mpr ⟨_, List.getElem_mem bound, awake⟩
  rw [List.countP_set bound]
  cases before : workers[index].isAwake <;> cases turned.isAwake <;>
    simp only [Bool.toNat_false, Bool.toNat_true, Bool.false_eq_true, ↓reduceIte]
  all_goals
    have positive := counted
    simp only [before, Bool.false_eq_true, false_imp_iff, true_imp_iff] at positive
    omega

namespace Covered

variable {pool after : Pool α}

theorem turned (covered : Covered pool) {index : Nat} {worker turned : Worker α}
    (found : pool.workers[index]? = some worker)
    (workers : after.workers = pool.workers.set index turned)
    (sleeps : turned.isAsleep = true → after.queue = [])
    (balance : after.queue ≠ [] →
      after.queue.length + worker.isAwake.toNat + pool.unnotified ≤
        pool.queue.length + turned.isAwake.toNat + after.unnotified) : Covered after := by
  rintro ⟨sleeper, member, asleep⟩
  by_cases empty : after.queue = []
  · rw [empty]
    exact Nat.zero_le _
  · rw [workers] at member ⊢
    rcases List.mem_or_eq_of_mem_set member with old | rfl
    · have before := covered ⟨sleeper, old, asleep⟩
      have count := countP_awake_set found turned
      have change := balance empty
      omega
    · exact absurd (sleeps asleep) empty

theorem attended (covered : Covered pool) (waiting : pool.queue ≠ [])
    (live : ∃ worker ∈ pool.workers, worker.isLive = true) :
    (∃ worker ∈ pool.workers, worker.isUp = true) ∨ 0 < pool.unnotified := by
  obtain ⟨worker, member, living⟩ := live
  cases asleep : worker.isAsleep with
  | false => exact .inl ⟨worker, member, isUp_iff.mpr ⟨living, asleep⟩⟩
  | true =>
      have enough := covered ⟨worker, member, asleep⟩
      have queued := List.length_pos_iff.mpr waiting
      rcases Nat.eq_zero_or_pos (pool.workers.countP Worker.isAwake) with nobody | somebody
      · exact .inr (by omega)
      · obtain ⟨other, there, awake⟩ := List.countP_pos_iff.mp somebody
        exact .inl ⟨other, there, isUp_of_isAwake awake⟩

end Covered

namespace Watch

variable {pool after : Pool α} {stage : Stage}

theorem carried (here : Watch pool stage) (workers : after.workers = pool.workers)
    (running : after.running = pool.running) (covers : Covered pool → Covered after) :
    Watch after stage := by
  cases here with
  | vacant between stopped nobody =>
      exact .vacant between (running.trans stopped) (workers.trans nobody)
  | kept serving working covered => exact .kept serving (running.trans working) (covers covered)
  | waking stopped => exact .waking (running.trans stopped)
  | joining stopped roused => exact .joining (running.trans stopped) (workers ▸ roused)

theorem turned (here : Watch pool stage) {index : Nat} {worker turned : Worker α}
    (found : pool.workers[index]? = some worker)
    (workers : after.workers = pool.workers.set index turned)
    (running : after.running = pool.running)
    (sleeps : turned.isAsleep = true → pool.running = true ∧ after.queue = [])
    (balance : pool.running = true → after.queue ≠ [] →
      after.queue.length + worker.isAwake.toNat + pool.unnotified ≤
        pool.queue.length + turned.isAwake.toNat + after.unnotified) : Watch after stage := by
  cases here with
  | vacant between stopped nobody => simp [nobody] at found
  | kept serving working covered =>
      exact .kept serving (running.trans working)
        (covered.turned found workers (fun asleep => (sleeps asleep).2) (balance working))
  | waking stopped => exact .waking (running.trans stopped)
  | joining stopped roused =>
      refine .joining (running.trans stopped) ?_
      intro other member
      rw [workers] at member
      rcases List.mem_or_eq_of_mem_set member with old | rfl
      · exact roused other old
      · refine Bool.eq_false_iff.mpr fun asleep => ?_
        have working := (sleeps asleep).1
        rw [stopped] at working
        cases working

end Watch

theorem step_watch {pool after : Pool α} {move : Move α} {effects : List (Effect α)}
    (moved : pool.step move = some (after, effects)) (here : Watch pool pool.stage) :
    Watch after after.stage := by
  cases step_moved moved with
  | accepts running =>
      refine here.carried rfl rfl fun covered sleeper => ?_
      rw [List.length_append, List.length_singleton]
      exact Nat.succ_le_succ (covered sleeper)
  | refuses stopped => exact here
  | misses due nobody =>
      refine here.carried rfl rfl fun _ => ?_
      rintro ⟨sleeper, member, asleep⟩
      cases (nobody sleeper member).symm.trans asleep
  | notifies due found =>
      refine here.turned found rfl rfl (fun asleep => Bool.noConfusion asleep) fun _ _ => ?_
      simp only [setWorker, Worker.isAwake, Bool.toNat_false, Bool.toNat_true]
      omega
  | wakes found | finishes found | dies found =>
      refine here.turned found rfl rfl (fun asleep => Bool.noConfusion asleep) fun _ _ => ?_
      simp [setWorker, Worker.isAwake]
  | sleeps found running empty =>
      exact here.turned found rfl rfl (fun _ => ⟨running, empty⟩) fun _ waiting =>
        absurd empty waiting
  | takes found running waiting =>
      refine here.turned found rfl rfl (fun asleep => Bool.noConfusion asleep) fun _ _ => ?_
      simp [setWorker, waiting, Worker.isAwake]
  | leaves found stopped =>
      refine here.turned found rfl rfl (fun asleep => Bool.noConfusion asleep) fun running => ?_
      cases stopped.symm.trans running
  | opens idle =>
      rw [idle] at here
      cases here with
      | vacant between stopped nobody => exact .vacant (.inr ⟨_, rfl⟩) stopped nobody
      | kept serving running covered => exact .kept (.inr (.inl ⟨_, rfl⟩)) running covered
  | returns opened done =>
      rw [opened] at here
      cases here with
      | vacant between stopped nobody => exact .vacant (.inl rfl) stopped nobody
      | kept serving running covered => exact .kept (.inl rfl) running covered
  | starts opened stopped =>
      rw [opened] at here
      cases here with
      | vacant between same nobody =>
          -- The queue of a resized pool may hold tasks, but nobody sleeps yet.
          refine .kept (.inr (.inr ⟨0, rfl⟩)) rfl ?_
          rintro ⟨worker, member, -⟩
          change worker ∈ pool.workers at member
          simp [nobody] at member
      | kept serving running => cases stopped.symm.trans running
  | stops | halts => exact .waking rfl
  | resizes opened stopped =>
      rw [opened] at here
      cases here with
      | vacant between same nobody => exact .vacant (.inl rfl) stopped nobody
      | kept serving running => cases stopped.symm.trans running
  | rouses waking =>
      rw [waking] at here
      cases here with
      | vacant between | kept between => simp at between
      | waking stopped =>
          refine .joining stopped ?_
          intro worker member
          obtain ⟨sleeper, found, rfl⟩ := List.mem_map.mp member
          exact isAsleep_wake sleeper
  | waits joining =>
      rw [joining] at here
      cases here with
      | vacant between | kept between => simp at between
      | joining stopped roused => exact .joining stopped roused
  | @joins resized count joining =>
      rw [joining] at here
      cases here with
      | vacant between | kept between => simp at between
      | joining stopped roused =>
          cases resized with
          | none => exact .vacant (.inl rfl) stopped rfl
          | some requested => exact .vacant (.inr ⟨_, rfl⟩) stopped rfl
  | spawns spawning below =>
      rw [spawning] at here
      cases here with
      | vacant between => simp at between
      | kept serving running covered =>
          refine .kept (.inr (.inr ⟨_, rfl⟩)) running ?_
          rintro ⟨worker, member, asleep⟩
          rcases List.mem_append.mp member with old | new
          · refine Nat.le_trans (covered ⟨worker, old, asleep⟩) (Nat.add_le_add_right ?_ _)
            exact (List.sublist_append_left _ _).countP_le
          · obtain rfl := List.mem_singleton.mp new
            cases asleep
  | lacks spawning =>
      rw [spawning] at here
      cases here with
      | vacant between => simp at between
      | kept serving running covered => exact .kept (.inr (.inr ⟨_, rfl⟩)) running covered
  | completes spawning =>
      rw [spawning] at here
      cases here with
      | vacant between => simp at between
      | kept serving running covered => exact .kept (.inl rfl) running covered

theorem run_watch {pool last : Pool α} {moves : List (Move α)} {effects : List (Effect α)}
    (ran : pool.run moves = some (last, effects)) (here : Watch pool pool.stage) :
    Watch last last.stage := by
  induction moves generalizing pool effects with
  | nil =>
      cases ran
      exact here
  | cons move rest ih =>
      obtain ⟨next, first, later, moved, continued, rfl⟩ := run_cons ran
      exact ih continued (step_watch moved here)

theorem watch_ofSize (size : Nat) : Watch (ofSize size : Pool α) .idle :=
  .vacant (.inl rfl) rfl rfl

/-! ### Every run -/

theorem Watch.keeps {pool : Pool α} {stage : Stage} (here : Watch pool stage)
    (running : pool.running = true) : Covered pool ∧
      (stage = .idle ∨ (∃ call, stage = .opened call) ∨ ∃ next, stage = .spawning next) := by
  cases here with
  | kept serving same covered => exact ⟨covered, serving⟩
  | vacant between stopped | waking stopped | joining stopped => cases stopped.symm.trans running

theorem Watch.waking_of_asleep {pool : Pool α} {stage : Stage} (here : Watch pool stage)
    (stopped : pool.running = false) {worker : Worker α} (member : worker ∈ pool.workers)
    (asleep : worker.isAsleep = true) : ∃ resized, stage = .waking resized := by
  cases here with
  | vacant between same nobody => simp [nobody] at member
  | kept serving running => simp [stopped] at running
  | waking same => exact ⟨_, rfl⟩
  | joining same roused => simp [roused worker member] at asleep

theorem exists_live {size : Nat} {moves : List (Move α)} {pool : Pool α}
    {effects : List (Effect α)} (ran : (ofSize size).run moves = some (pool, effects))
    (spawned : ∀ reason, .failToSpawn reason ∉ moves)
    (peaceful : ∀ worker message, .finish worker (some (.volatile message)) ∉ moves)
    (running : pool.running = true) (settled : pool.stage.isRenewing = false) :
    ∃ worker ∈ pool.workers, worker.isLive = true := by
  have sound := run_sound ran spawned (sound_ofSize size)
  have manned := run_manned ran spawned peaceful (sound_ofSize size) nofun running
  have between : pool.stage = .idle ∨ ∃ call, pool.stage = .opened call := by
    rcases ((run_watch ran (watch_ofSize size)).keeps running).2 with idle | opened | ⟨next, spawns⟩
    · exact .inl idle
    · exact .inr opened
    · rw [spawns] at settled
      cases settled
  have staffed : 0 < pool.roster.length := by
    rw [sound.length_roster running between]
    exact sound.sized
  obtain ⟨entry, member⟩ := List.exists_mem_of_length_pos staffed
  obtain ⟨worker, there, rfl⟩ := List.mem_map.mp member
  exact ⟨worker, there, manned _ member⟩

/-- A task that waits in a pool that runs has a worker that looks at the queue before it sleeps,
or a caller who has yet to notify one, as long as the pool has a live worker at all. It has one
whenever no start or resize is under way, if every worker could be made and none ended by a panic
that it could not stop. In a pool that does not run nobody sleeps, unless a stop or resize is
about to rouse the workers, and so none waits for a worker that sleeps. -/
theorem nobody_sleeps_over_tasks {size : Nat} {moves : List (Move α)} {pool : Pool α}
    {effects : List (Effect α)} (ran : (ofSize size).run moves = some (pool, effects)) :
    (pool.running = true → pool.queue ≠ [] → (∃ worker ∈ pool.workers, worker.isLive = true) →
      (∃ worker ∈ pool.workers, worker.isUp = true) ∨ 0 < pool.unnotified) ∧
    ((∀ reason, .failToSpawn reason ∉ moves) →
      (∀ worker message, .finish worker (some (.volatile message)) ∉ moves) →
      pool.stage.isRenewing = false → pool.running = true →
        (∃ worker ∈ pool.workers, worker.isLive = true) ∧
        (pool.queue ≠ [] →
          (∃ worker ∈ pool.workers, worker.isUp = true) ∨ 0 < pool.unnotified)) ∧
    (pool.running = false → ∀ worker ∈ pool.workers, worker.isAsleep = true →
      ∃ resized, pool.stage = .waking resized) ∧
    ∀ resized count, pool.stage = .joining resized count →
      ∀ worker ∈ pool.workers, worker.isAsleep = false := by
  have here := run_watch ran (watch_ofSize size)
  have attended (running : pool.running = true) (waiting : pool.queue ≠ []) :=
    (here.keeps running).1.attended waiting
  refine ⟨attended, ?_, ?_, ?_⟩
  · intro spawned peaceful settled running
    have live := exists_live ran spawned peaceful running settled
    exact ⟨live, fun waiting => attended running waiting live⟩
  · intro stopped worker member asleep
    exact here.waking_of_asleep stopped member asleep
  · intro resized count joining
    rw [joining] at here
    cases here with
    | vacant between | kept between => simp at between
    | joining stopped roused => exact roused

def notifiedWhileBusy : List (Move String) :=
  [.call .start, .proceed, .proceed, .proceed, .look 0, .enqueue "draw", .notify (some 0),
    .look 0, .enqueue "print", .notify none]

theorem nobody_sleeps_over_tasks_busy :
    ∃ pool effects, (ofSize 0).run notifiedWhileBusy = some (pool, effects) ∧
      pool.stage.isRenewing = false ∧ pool.running = true ∧ pool.queue ≠ [] ∧
      ((∃ worker ∈ pool.workers, worker.isUp = true) ∨ 0 < pool.unnotified) ∧
      (pool.running = false → ∀ worker ∈ pool.workers, worker.isAsleep = true →
        ∃ resized, pool.stage = .waking resized) ∧
      ∀ resized count, pool.stage = .joining resized count →
        ∀ worker ∈ pool.workers, worker.isAsleep = false := by
  have reached : ((ofSize 0).run notifiedWhileBusy).map
      (fun last => (last.1.stage, last.1.running, last.1.queue)) =
        some (.idle, true, ["print"]) := by decide
  obtain ⟨⟨pool, effects⟩, ran, state⟩ := Option.map_eq_some_iff.mp reached
  obtain ⟨idle, running, waiting⟩ : pool.stage = .idle ∧ pool.running = true ∧
      pool.queue = ["print"] := by simpa using state
  obtain ⟨-, attended, roused⟩ := nobody_sleeps_over_tasks ran
  have settled : pool.stage.isRenewing = false := by rw [idle]; rfl
  have queued : pool.queue ≠ [] := by simp [waiting]
  have spawned : ∀ reason, .failToSpawn reason ∉ notifiedWhileBusy := by
    simp [notifiedWhileBusy]
  have peaceful : ∀ worker message,
      .finish worker (some (.volatile message)) ∉ notifiedWhileBusy := by
    simp [notifiedWhileBusy]
  exact ⟨pool, effects, ran, settled, running, queued,
    (attended spawned peaceful settled running).2 queued, roused⟩

/-- No worker of the pool could be made, so its task has nobody, and the caller found nobody to
notify. -/
def unspawned : List (Move String) :=
  [.call .start, .proceed, .failToSpawn "no memory", .proceed, .enqueue "draw", .notify none]

theorem unattended_unspawned :
    ∃ pool effects, (ofSize 1).run unspawned = some (pool, effects) ∧
      pool.stage = .idle ∧ pool.running = true ∧ pool.queue = ["draw"] ∧ pool.unnotified = 0 ∧
      pool.workers = [] := by
  refine ⟨_, _, rfl, ?_⟩
  decide

end HttpServer.Pool
