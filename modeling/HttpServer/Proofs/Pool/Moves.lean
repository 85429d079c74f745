import HttpServer.Pool

/-!
What a pool can do in one move, said once. What holds of every move is proved by these cases.
-/

namespace HttpServer.Pool

variable {α : Type}

inductive Moved (pool : Pool α) : Move α → Pool α → List (Effect α) → Prop
  | accepts {task : α} (running : pool.running = true) :
      Moved pool (.enqueue task)
        { pool with queue := pool.queue ++ [task], unnotified := pool.unnotified + 1 }
        [.accepted task]
  | refuses {task : α} (stopped : pool.running = false) :
      Moved pool (.enqueue task) pool [.refused task]
  | misses (due : 0 < pool.unnotified)
      (nobody : ∀ worker ∈ pool.workers, worker.isAsleep = false) :
      Moved pool (.notify none) { pool with unnotified := pool.unnotified - 1 } []
  | notifies {index generation : Nat} (due : 0 < pool.unnotified)
      (found : pool.workers[index]? = some ⟨generation, .asleep⟩) :
      Moved pool (.notify (some index))
        ({ pool with unnotified := pool.unnotified - 1 }.setWorker index ⟨generation, .awake⟩) []
  | wakes {index generation : Nat}
      (found : pool.workers[index]? = some ⟨generation, .asleep⟩) :
      Moved pool (.wake index) (pool.setWorker index ⟨generation, .awake⟩) []
  | sleeps {index generation : Nat}
      (found : pool.workers[index]? = some ⟨generation, .awake⟩) (running : pool.running = true)
      (empty : pool.queue = []) :
      Moved pool (.look index) (pool.setWorker index ⟨generation, .asleep⟩) []
  | takes {index generation : Nat} {task : α} {rest : List α}
      (found : pool.workers[index]? = some ⟨generation, .awake⟩) (running : pool.running = true)
      (waiting : pool.queue = task :: rest) :
      Moved pool (.look index)
        ({ pool with queue := rest }.setWorker index ⟨generation, .busy task⟩) [.took index task]
  | leaves {index generation : Nat}
      (found : pool.workers[index]? = some ⟨generation, .awake⟩)
      (stopped : pool.running = false) :
      Moved pool (.look index) (pool.setWorker index ⟨generation, .finished⟩) []
  | finishes {index generation : Nat} {task : α} {panic : Option PanicPayload}
      (found : pool.workers[index]? = some ⟨generation, .busy task⟩) (lines : List Log.Line) :
      Moved pool (.finish index panic) (pool.setWorker index ⟨generation, .awake⟩)
        (lines.map .log)
  | dies {index generation : Nat} {task : α} {message : String}
      (found : pool.workers[index]? = some ⟨generation, .busy task⟩) :
      Moved pool (.finish index (some (.volatile message)))
        (pool.setWorker index ⟨generation, .finished⟩) []
  | opens {call : Call} (idle : pool.stage = .idle) :
      Moved pool (.call call) { pool with stage := .opened call } []
  | returns {call : Call} (opened : pool.stage = .opened call)
      (done : pool.running = true ∧ call = .start ∨ pool.running = false ∧ call = .stop) :
      Moved pool .proceed { pool with stage := .idle } []
  | starts (opened : pool.stage = .opened .start) (stopped : pool.running = false) :
      Moved pool .proceed
        { pool with
          running := true, generation := pool.generation + 1, stage := .spawning 0 } []
  | stops (opened : pool.stage = .opened .stop) (running : pool.running = true) :
      Moved pool .proceed
        { pool with running := false, queue := [], stage := .waking none } [.discarded pool.queue]
  | halts {requested : Nat} (opened : pool.stage = .opened (.resize requested))
      (running : pool.running = true) :
      Moved pool .proceed { pool with running := false, stage := .waking (some requested) } []
  | resizes {requested : Nat} (opened : pool.stage = .opened (.resize requested))
      (stopped : pool.running = false) :
      Moved pool .proceed { pool with size := sizeOf requested, stage := .idle } []
  | rouses {resized : Option Nat} (waking : pool.stage = .waking resized) :
      Moved pool .proceed
        { pool with workers := pool.workers.map Worker.wake, stage := .joining resized 0 } []
  | waits {resized : Option Nat} {count : Nat} {worker : Worker α}
      (joining : pool.stage = .joining resized count)
      (found : pool.workers[count]? = some worker) (finished : worker.isLive = false) :
      Moved pool .proceed { pool with stage := .joining resized (count + 1) } []
  | joins {resized : Option Nat} {count : Nat} (joining : pool.stage = .joining resized count)
      (all : pool.workers.length ≤ count) : Moved pool .proceed (pool.joined resized) []
  | spawns {next : Nat} (spawning : pool.stage = .spawning next) (below : next < pool.size) :
      Moved pool .proceed
        { pool with
          workers := pool.workers ++ [⟨pool.generation, .awake⟩], stage := .spawning (next + 1) } []
  | lacks {next : Nat} {reason : String} (spawning : pool.stage = .spawning next)
      (below : next < pool.size) :
      Moved pool (.failToSpawn reason) { pool with stage := .spawning (next + 1) }
        [.log (spawnLine next reason)]
  | completes {next : Nat} (spawning : pool.stage = .spawning next) (all : pool.size ≤ next) :
      Moved pool .proceed { pool with stage := .idle } []

theorem eq_of_isAsleep {worker : Worker α} (asleep : worker.isAsleep = true) :
    worker = ⟨worker.generation, .asleep⟩ := by
  obtain ⟨generation, state⟩ := worker
  cases state with
  | asleep => rfl
  | _ => cases asleep

theorem enter_moved {pool after : Pool α} {call : Call} {effects : List (Effect α)}
    (opened : pool.stage = .opened call) (entered : pool.enter call = (after, effects)) :
    Moved pool .proceed after effects := by
  cases call with
  | start =>
      simp only [enter] at entered
      split at entered <;> cases entered
      · rename_i running
        exact .returns opened (.inl ⟨running, rfl⟩)
      · rename_i stopped
        exact .starts opened (Bool.eq_false_iff.mpr stopped)
  | stop =>
      simp only [enter] at entered
      split at entered <;> cases entered
      · rename_i running
        exact .stops opened running
      · rename_i stopped
        exact .returns opened (.inr ⟨Bool.eq_false_iff.mpr stopped, rfl⟩)
  | resize requested =>
      simp only [enter] at entered
      split at entered <;> cases entered
      · rename_i running
        exact .halts opened running
      · rename_i stopped
        exact .resizes opened (Bool.eq_false_iff.mpr stopped)

theorem proceed_moved {pool after : Pool α} {effects : List (Effect α)}
    (moved : pool.proceed? = some (after, effects)) : Moved pool .proceed after effects := by
  unfold proceed? at moved
  split at moved
  · cases moved
  · rename_i call opened
    exact enter_moved opened (Option.some.inj moved)
  · rename_i resized waking
    cases moved
    exact .rouses waking
  · rename_i resized count joining
    split at moved
    · rename_i beyond
      cases moved
      exact .joins joining (List.getElem?_eq_none_iff.mp beyond)
    · rename_i worker found
      split at moved <;> cases moved
      rename_i finished
      exact .waits joining found (Bool.eq_false_iff.mpr finished)
  · rename_i next spawning
    split at moved <;> cases moved
    · rename_i below
      exact .spawns spawning below
    · rename_i beyond
      exact .completes spawning (Nat.le_of_not_lt beyond)

theorem look_moved {pool after : Pool α} {index generation : Nat} {effects : List (Effect α)}
    (found : pool.workers[index]? = some ⟨generation, .awake⟩)
    (moved : pool.look index ⟨generation, .awake⟩ = (after, effects)) :
    Moved pool (.look index) after effects := by
  unfold look at moved
  split at moved
  · rename_i running
    split at moved <;> cases moved
    · rename_i empty
      exact .sleeps found running empty
    · rename_i task rest waiting
      exact .takes found running waiting
  · rename_i stopped
    cases moved
    exact .leaves found (Bool.eq_false_iff.mpr stopped)

theorem finish_moved {pool : Pool α} {index generation : Nat} {task : α}
    (found : pool.workers[index]? = some ⟨generation, .busy task⟩) (panic : Option PanicPayload) :
    Moved pool (.finish index panic)
      (pool.setWorker index ⟨generation, (afterTask panic).1⟩)
      ((afterTask panic : WorkerState α × List Log.Line).2.map .log) := by
  match panic with
  | none | some (.text message) | some .other => exact .finishes found _
  | some (.volatile message) => exact .dies found

theorem step_moved {pool after : Pool α} {move : Move α} {effects : List (Effect α)}
    (moved : pool.step move = some (after, effects)) : Moved pool move after effects := by
  cases move with
  | enqueue task =>
      simp only [step] at moved
      split at moved <;> cases moved
      · rename_i running
        exact .accepts running
      · rename_i stopped
        exact .refuses (Bool.eq_false_iff.mpr stopped)
  | notify worker =>
      cases worker with
      | none =>
          simp only [step] at moved
          split at moved <;> cases moved
          rename_i heard
          simp only [Bool.and_eq_true, decide_eq_true_eq, Bool.not_eq_true'] at heard
          refine .misses heard.1 fun worker member => ?_
          exact Bool.eq_false_iff.mpr (List.any_eq_false.mp heard.2 worker member)
      | some index =>
          simp only [step] at moved
          split at moved
          · rename_i worker found
            split at moved <;> cases moved
            rename_i heard
            simp only [Bool.and_eq_true, decide_eq_true_eq] at heard
            rw [eq_of_isAsleep heard.2] at found ⊢
            exact .notifies heard.1 found
          · cases moved
  | call call =>
      simp only [step] at moved
      split at moved <;> cases moved
      rename_i idle
      exact .opens idle
  | proceed => exact proceed_moved moved
  | failToSpawn reason =>
      simp only [step] at moved
      split at moved
      · rename_i next spawning
        split at moved <;> cases moved
        rename_i below
        exact .lacks spawning below
      · cases moved
  | wake index =>
      simp only [step] at moved
      split at moved
      · rename_i worker found
        split at moved <;> cases moved
        rename_i asleep
        rw [eq_of_isAsleep asleep] at found ⊢
        exact .wakes found
      · cases moved
  | look index =>
      simp only [step] at moved
      split at moved
      · rename_i generation found
        exact look_moved found (Option.some.inj moved)
      · cases moved
  | finish index panic =>
      simp only [step] at moved
      split at moved
      · rename_i generation task found
        cases moved
        exact finish_moved found panic
      · cases moved

end HttpServer.Pool
