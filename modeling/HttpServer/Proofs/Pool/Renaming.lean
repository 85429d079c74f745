import HttpServer.Pool

/-!
A pool never looks into its tasks. Renaming the tasks of a run gives a run, which does the same
with the new names. So a run may be followed with a ticket on each task that is offered.
-/

namespace HttpServer.Pool

variable {α β : Type}

def WorkerState.map (f : α → β) : WorkerState α → WorkerState β
  | .awake => .awake
  | .asleep => .asleep
  | .busy task => .busy (f task)
  | .finished => .finished

def Worker.map (f : α → β) (worker : Worker α) : Worker β :=
  ⟨worker.generation, worker.state.map f⟩

def Move.map (f : α → β) : Move α → Move β
  | .enqueue task => .enqueue (f task)
  | .notify worker => .notify worker
  | .call asked => .call asked
  | .proceed => .proceed
  | .failToSpawn reason => .failToSpawn reason
  | .wake worker => .wake worker
  | .look worker => .look worker
  | .finish worker panic => .finish worker panic

def Effect.map (f : α → β) : Effect α → Effect β
  | .accepted task => .accepted (f task)
  | .refused task => .refused (f task)
  | .took worker task => .took worker (f task)
  | .discarded tasks => .discarded (tasks.map f)
  | .log line => .log line

def map (f : α → β) (pool : Pool α) : Pool β where
  size := pool.size
  running := pool.running
  queue := pool.queue.map f
  workers := pool.workers.map (Worker.map f)
  generation := pool.generation
  stage := pool.stage
  unnotified := pool.unnotified

def mapResult (f : α → β) (result : Pool α × List (Effect α)) : Pool β × List (Effect β) :=
  (result.1.map f, result.2.map (Effect.map f))

@[simp] theorem map_ofSize (f : α → β) (requested : Nat) :
    (ofSize requested : Pool α).map f = ofSize requested := by
  rfl

@[simp] theorem Worker.isLive_map (f : α → β) (worker : Worker α) :
    (worker.map f).isLive = worker.isLive := by
  rcases worker with ⟨generation, _ | _ | task | _⟩ <;> rfl

@[simp] theorem Worker.isAsleep_map (f : α → β) (worker : Worker α) :
    (worker.map f).isAsleep = worker.isAsleep := by
  rcases worker with ⟨generation, _ | _ | task | _⟩ <;> rfl

@[simp] theorem Worker.wake_map (f : α → β) (worker : Worker α) :
    (worker.map f).wake = worker.wake.map f := by
  rcases worker with ⟨generation, _ | _ | task | _⟩ <;> rfl

theorem enter_map (f : α → β) (pool : Pool α) (call : Call) :
    (pool.map f).enter call = mapResult f (pool.enter call) := by
  rcases pool with ⟨size, running, queue, workers, generation, stage, unnotified⟩
  cases call <;> cases running <;> rfl

theorem joined_map (f : α → β) (pool : Pool α) (resized : Option Nat) :
    (pool.map f).joined resized = (pool.joined resized).map f := by
  cases resized <;> rfl

theorem proceed_map (f : α → β) (pool : Pool α) :
    (pool.map f).proceed? = pool.proceed?.map (mapResult f) := by
  rcases pool with ⟨size, running, queue, workers, generation, stage, unnotified⟩
  cases stage with
  | idle => rfl
  | opened call => exact congrArg some (enter_map f _ call)
  | waking resized => simp [proceed?, map, mapResult, Function.comp_def]
  | joining resized count =>
      cases found : workers[count]? with
      | none =>
          have renamed := joined_map f
            ⟨size, running, queue, workers, generation, .joining resized count, unnotified⟩ resized
          simp only [map] at renamed
          simp [proceed?, map, mapResult, found, renamed]
      | some worker =>
          by_cases live : worker.isLive = true <;>
            simp [proceed?, map, mapResult, found, live]
  | spawning next =>
      by_cases more : next < size <;>
        simp [proceed?, map, mapResult, more, Worker.map, WorkerState.map]

theorem look_map (f : α → β) (pool : Pool α) (index : Nat) (worker : Worker α) :
    (pool.map f).look index (worker.map f) = mapResult f (pool.look index worker) := by
  rcases pool with ⟨size, running, queue, workers, generation, stage, unnotified⟩
  cases running <;> cases queue <;>
    simp [look, map, mapResult, setWorker, List.map_set, Worker.map, WorkerState.map, Effect.map]

theorem afterTask_map (f : α → β) (panic : Option PanicPayload) :
    (afterTask panic : WorkerState β × List Log.Line) =
      ((afterTask panic).1.map f, (afterTask panic : WorkerState α × List Log.Line).2) := by
  unfold afterTask
  split <;> rfl

theorem step_map (f : α → β) (pool : Pool α) (move : Move α) :
    (pool.map f).step (move.map f) = (pool.step move).map (mapResult f) := by
  cases move with
  | enqueue task =>
      by_cases running : pool.running = true <;>
        simp [step, Move.map, map, mapResult, running, Effect.map]
  | notify worker =>
      cases worker with
      | none =>
          have same : (pool.workers.map (Worker.map f)).any Worker.isAsleep =
              pool.workers.any Worker.isAsleep := by
            simp [List.any_map, Function.comp_def]
          simp only [step, Move.map, map, same, apply_ite (Option.map (mapResult f))]
          rfl
      | some index =>
          cases found : pool.workers[index]? with
          | none => simp [step, Move.map, map, found]
          | some worker =>
              simp only [step, Move.map, map, List.getElem?_map, found, Option.map_some,
                Worker.isAsleep_map, Worker.wake_map, apply_ite (Option.map (mapResult f)),
                setWorker, mapResult, List.map_set]
              rfl
  | call call =>
      rcases pool with ⟨size, running, queue, workers, generation, stage, unnotified⟩
      cases stage <;> rfl
  | proceed => exact proceed_map f pool
  | failToSpawn reason =>
      rcases pool with ⟨size, running, queue, workers, generation, stage, unnotified⟩
      cases stage with
      | spawning next =>
          by_cases more : next < size <;>
            simp [step, Move.map, map, mapResult, more, Effect.map]
      | _ => rfl
  | wake index =>
      cases found : pool.workers[index]? with
      | none => simp [step, Move.map, map, found]
      | some worker =>
          by_cases asleep : worker.isAsleep = true <;>
            simp [step, Move.map, map, mapResult, setWorker, List.map_set, found, asleep]
  | look index =>
      cases found : pool.workers[index]? with
      | none => simp [step, Move.map, map, found]
      | some worker =>
          rcases worker with ⟨generation, _ | _ | task | _⟩
          · have renamed := look_map f pool index ⟨generation, .awake⟩
            simp only [map, Worker.map, WorkerState.map] at renamed
            simp [step, Move.map, map, found, Worker.map, WorkerState.map, renamed]
          all_goals simp [step, Move.map, map, found, Worker.map, WorkerState.map]
  | finish index panic =>
      cases found : pool.workers[index]? with
      | none => simp [step, Move.map, map, found]
      | some worker =>
          rcases worker with ⟨generation, _ | _ | task | _⟩
          case busy =>
            simp [step, Move.map, map, mapResult, setWorker, List.map_set, found, Worker.map,
              WorkerState.map, afterTask_map f panic, Function.comp_def, Effect.map]
          all_goals simp [step, Move.map, map, found, Worker.map, WorkerState.map]

theorem run_map (f : α → β) (pool : Pool α) (moves : List (Move α)) :
    (pool.map f).run (moves.map (Move.map f)) = (pool.run moves).map (mapResult f) := by
  induction moves generalizing pool with
  | nil => rfl
  | cons move rest ih =>
      simp only [List.map_cons, run, step_map]
      cases moved : pool.step move with
      | none => rfl
      | some result =>
          simp only [Option.map_some, mapResult, Option.bind_eq_bind, Option.bind_some, ih]
          cases continued : run result.1 rest with
          | none => rfl
          | some later => simp [mapResult]

/-! ### Tickets -/

/-- The moves with a ticket on each task: the number of its move. -/
def ticketed : Nat → List (Move α) → List (Move (Nat × α))
  | _, [] => []
  | ticket, move :: rest => move.map (Prod.mk ticket) :: ticketed (ticket + 1) rest

def Move.offered? : Move α → Option α
  | .enqueue task => some task
  | _ => none

def offers (moves : List (Move α)) : List α :=
  moves.filterMap Move.offered?

theorem map_snd_ticketed (ticket : Nat) (moves : List (Move α)) :
    (ticketed ticket moves).map (Move.map Prod.snd) = moves := by
  induction moves generalizing ticket with
  | nil => rfl
  | cons move rest ih =>
      simp only [ticketed, List.map_cons, ih]
      cases move <;> rfl

theorem ticket_le_of_mem_offers {ticket : Nat} {moves : List (Move α)} {task : Nat × α}
    (offered : task ∈ offers (ticketed ticket moves)) : ticket ≤ task.1 := by
  induction moves generalizing ticket with
  | nil => simp [offers, ticketed] at offered
  | cons move rest ih =>
      simp only [offers, ticketed, List.mem_filterMap, List.mem_cons] at offered
      obtain ⟨chosen, rfl | member, found⟩ := offered
      · cases move <;> simp only [Move.map, Move.offered?, Option.some.injEq, reduceCtorEq] at found
        simp [← found]
      · have later := ih (List.mem_filterMap.mpr ⟨chosen, member, found⟩)
        omega

theorem nodup_offers_ticketed (ticket : Nat) (moves : List (Move α)) :
    (offers (ticketed ticket moves)).Nodup := by
  induction moves generalizing ticket with
  | nil => exact List.nodup_nil
  | cons move rest ih =>
      cases move with
      | enqueue task =>
          refine List.nodup_cons.mpr ⟨?_, ih (ticket + 1)⟩
          intro again
          have later := ticket_le_of_mem_offers again
          exact absurd later (Nat.not_succ_le_self ticket)
      | _ => exact ih (ticket + 1)

theorem exists_run_ticketed {size : Nat} {moves : List (Move α)} {pool : Pool α}
    {effects : List (Effect α)} (ran : (ofSize size).run moves = some (pool, effects)) :
    ∃ last events, (ofSize size).run (ticketed 0 moves) = some (last, events) ∧
      last.map Prod.snd = pool ∧ events.map (Effect.map Prod.snd) = effects := by
  have renamed := run_map Prod.snd (ofSize size) (ticketed 0 moves)
  rw [map_ofSize, map_snd_ticketed, ran] at renamed
  obtain ⟨⟨last, events⟩, found, same⟩ := Option.map_eq_some_iff.mp renamed.symm
  simp only [mapResult, Prod.mk.injEq] at same
  exact ⟨last, events, found, same⟩

end HttpServer.Pool
