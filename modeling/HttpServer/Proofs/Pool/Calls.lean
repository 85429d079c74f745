import HttpServer.Proofs.Pool.Lifecycle

/-!
Whole calls. `start`, `stop`, `resize` and `enqueue` say at once what a call comes to. Whatever
else goes on, a pool between two calls has the size, the state and the staff that they say, and
each call has a run that ends exactly as they say.
-/

namespace HttpServer.Pool

variable {α : Type}

def whole (pool : Pool α) : Call → Pool α
  | .start => pool.start
  | .stop => pool.stop
  | .resize requested => pool.resize requested

structure Standing where
  size : Nat
  running : Bool
  generation : Nat
  roster : List (Nat × Bool)
deriving DecidableEq, Repr

def standing (pool : Pool α) : Standing :=
  ⟨pool.size, pool.running, pool.generation, pool.roster⟩

def Standing.staffed (size generation : Nat) : Standing :=
  ⟨size, true, generation, List.replicate size (generation, true)⟩

/-- Where the call that is under way leads. -/
def outlook (pool : Pool α) : Standing :=
  match pool.stage with
  | .idle => pool.standing
  | .opened call => (pool.whole call).standing
  | .waking none | .joining none _ => ⟨pool.size, false, pool.generation, []⟩
  | .waking (some requested) | .joining (some requested) _ =>
    .staffed (sizeOf requested) (pool.generation + 1)
  | .spawning _ => .staffed pool.size pool.generation

/-- What a move of a caller comes to. -/
def comesTo (pool : Pool α) : Move α → Pool α
  | .call call => pool.whole call
  | .enqueue task => (pool.enqueue task).1
  | _ => pool

/-! ### Standings -/

theorem standing_start (pool : Pool α) : pool.start.standing =
    if pool.running then pool.standing else .staffed pool.size (pool.generation + 1) := by
  unfold start
  split
  · rfl
  · simp [standing, Standing.staffed, roster, Worker.entry, Worker.isLive]

theorem standing_stop (pool : Pool α) : pool.stop.standing =
    if pool.running then ⟨pool.size, false, pool.generation, []⟩ else pool.standing := by
  unfold stop
  split <;> rfl

theorem standing_resize (pool : Pool α) (requested : Nat) : (pool.resize requested).standing =
    if pool.running then .staffed (sizeOf requested) (pool.generation + 1)
    else ⟨sizeOf requested, pool.running, pool.generation, pool.roster⟩ := by
  unfold resize
  split
  · rw [standing_start]
    rfl
  · rfl

theorem standing_enqueue (pool : Pool α) (task : α) :
    (pool.enqueue task).1.standing = pool.standing := by
  unfold enqueue
  split <;> rfl

theorem standing_comesTo {pool other : Pool α} (same : pool.standing = other.standing)
    (move : Move α) : (pool.comesTo move).standing = (other.comesTo move).standing := by
  obtain ⟨size, running, generation, roster⟩ := Standing.mk.inj same
  cases move with
  | call call =>
      cases call with
      | start => simp only [comesTo, whole, standing_start, size, running, generation, same]
      | stop => simp only [comesTo, whole, standing_stop, size, running, generation, same]
      | resize requested =>
          simp only [comesTo, whole, standing_resize, running, generation, roster]
  | enqueue task => simp only [comesTo, standing_enqueue, same]
  | _ => exact same

theorem standing_of_uncalled (pool : Pool α) {move : Move α} (uncalled : move.isCall = false) :
    (pool.comesTo move).standing = pool.standing := by
  cases move with
  | call call => cases uncalled
  | enqueue task => exact standing_enqueue pool task
  | _ => rfl

/-! ### The way of a call -/

theorem roster_eq_replicate {pool : Pool α} {count : Nat}
    (staff : pool.generations = List.replicate count pool.generation)
    (manned : ∀ entry ∈ pool.roster, entry.2 = true) :
    pool.roster = List.replicate count (pool.generation, true) := by
  have length := congrArg List.length staff
  rw [generations, List.length_map, List.length_replicate] at length
  refine List.eq_replicate_iff.mpr ⟨length, ?_⟩
  intro entry member
  have ours : entry.1 ∈ pool.generations := List.mem_map_of_mem member
  rw [staff] at ours
  exact Prod.ext (List.eq_of_mem_replicate ours) (manned entry member)

theorem outlook_of_standing {pool other : Pool α} (stage : pool.stage = other.stage)
    (same : pool.standing = other.standing) : pool.outlook = other.outlook := by
  obtain ⟨size, running, generation, roster⟩ := Standing.mk.inj same
  unfold outlook
  rw [stage]
  split
  · exact same
  · rename_i call _
    exact standing_comesTo same (.call call)
  all_goals simp only [size, generation]

namespace StaffStep

variable {pool after : Pool α} {move : Move α} {effects : List (Effect α)}

theorem outlook_eq (moved : StaffStep pool move after effects) (uncalled : move.isCall = false)
    (spawned : ∀ reason, move ≠ .failToSpawn reason)
    (peaceful : ∀ worker message, move ≠ .finish worker (some (.volatile message)))
    (here : Situation pool pool.stage)
    (manned : pool.running = true → ∀ entry ∈ pool.roster, entry.2 = true) :
    after.outlook = pool.outlook := by
  cases moved with
  | attends _ size running generation stage staff =>
      exact outlook_of_standing stage (by simp only [standing, size, running, generation, staff])
  | dies found => exact absurd rfl (peaceful _ _)
  | lacks spawning below => exact absurd rfl (spawned _)
  | opens idle => cases uncalled
  | ends stopped found =>
      -- Only a stop or resize that is under way has workers that can end.
      have listed := roster_getElem? found
      unfold outlook
      cases stage : pool.stage with
      | idle | opened call =>
          rw [stage] at here
          cases here with
          | stopped _ _ nobody => simp [nobody] at listed
          | staffed _ running => cases stopped.symm.trans running
      | spawning next =>
          rw [stage] at here
          cases here with
          | stopped _ _ nobody => simp [nobody] at listed
          | staffed _ running | spawning running => cases stopped.symm.trans running
      | waking resized => cases resized <;> simp only [setWorker, stage]
      | joining resized count => cases resized <;> simp only [setWorker, stage]
  | returns opened done =>
      change pool.standing = pool.outlook
      rcases done with ⟨running, rfl⟩ | ⟨stopped, rfl⟩
      · simp only [outlook, opened, whole, standing_start, running, if_true]
      · simp only [outlook, opened, whole, standing_stop, stopped, Bool.false_eq_true, if_false]
  | starts opened stopped =>
      simp only [outlook, opened, whole, standing_start, stopped, Bool.false_eq_true, if_false]
  | stops opened running =>
      simp only [outlook, opened, whole, standing_stop, running, if_true]
  | halts opened running =>
      simp only [outlook, opened, whole, standing_resize, running, if_true]
  | resizes opened stopped =>
      simp only [outlook, opened, whole, standing_resize, stopped, Bool.false_eq_true, if_false]
      rfl
  | rouses waking =>
      rename_i resized
      cases resized <;> simp only [outlook, waking]
  | waits joining found finished =>
      rename_i resized count worker
      cases resized <;> simp only [outlook, joining]
  | joins joining all =>
      rename_i resized count
      rw [joining] at here
      cases here with
      | stopped between | staffed between => simp at between
      | joining stopped ours waited cleared =>
          cases resized with
          | none => simp only [outlook, joining, joined, standing, stopped, roster, List.map_nil]
          | some requested =>
              simp only [outlook, joining, joined, whole, standing_start, stopped,
                Bool.false_eq_true, if_false]
  | spawns spawning below => simp only [outlook, spawning]
  | completes spawning all =>
      rw [spawning] at here
      cases here with
      | stopped between | staffed between => simp at between
      | spawning running within staff =>
          have staffed := roster_eq_replicate staff (manned running)
          rw [Nat.le_antisymm within all] at staffed
          change ⟨pool.size, pool.running, pool.generation, pool.roster⟩ = pool.outlook
          rw [running, staffed, outlook, spawning]
          rfl

end StaffStep

theorem step_outlook {pool after other : Pool α} {move : Move α} {effects : List (Effect α)}
    (moved : pool.step move = some (after, effects))
    (spawned : ∀ reason, move ≠ .failToSpawn reason)
    (peaceful : ∀ worker message, move ≠ .finish worker (some (.volatile message)))
    (sound : Sound pool) (manned : pool.running = true → ∀ entry ∈ pool.roster, entry.2 = true)
    (agrees : pool.outlook = other.standing) :
    after.outlook = (other.comesTo move).standing := by
  have staff := step_staff moved
  cases called : move.isCall with
  | false =>
      rw [staff.outlook_eq called spawned peaceful sound.situation manned, agrees,
        standing_of_uncalled other called]
  | true =>
      cases staff with
      | opens idle =>
          rename_i call
          rw [outlook, idle] at agrees
          exact @standing_comesTo _ { pool with stage := .opened call } other agrees (.call call)
      | attends uncalled => cases called.symm.trans uncalled
      | _ => cases called

theorem run_outlook {pool last other : Pool α} {moves : List (Move α)} {effects : List (Effect α)}
    (ran : pool.run moves = some (last, effects))
    (spawned : ∀ reason, .failToSpawn reason ∉ moves)
    (peaceful : ∀ worker message, .finish worker (some (.volatile message)) ∉ moves)
    (sound : Sound pool) (manned : pool.running = true → ∀ entry ∈ pool.roster, entry.2 = true)
    (agrees : pool.outlook = other.standing) :
    last.outlook = (moves.foldl comesTo other).standing := by
  induction moves generalizing pool other effects with
  | nil =>
      cases ran
      exact agrees
  | cons move rest ih =>
      obtain ⟨next, first, later, moved, continued, rfl⟩ := run_cons ran
      have notLacking : ∀ reason, move ≠ .failToSpawn reason := by
        rintro reason rfl
        exact spawned reason List.mem_cons_self
      have noDeath : ∀ worker message, move ≠ .finish worker (some (.volatile message)) := by
        rintro worker message rfl
        exact peaceful worker message List.mem_cons_self
      exact ih continued (fun reason member => spawned reason (.tail _ member))
        (fun worker message member => peaceful worker message (.tail _ member))
        (step_sound moved notLacking sound)
        ((step_staff moved).manned noDeath sound.situation manned)
        (step_outlook moved notLacking noDeath sound manned agrees)

/-- Between two calls a pool stands as its calls say, one after another, and accepts a task if
they say so. What workers do, and when tasks are added, makes no difference. -/
theorem stands_as_called {size : Nat} {moves : List (Move α)} {pool : Pool α}
    {effects : List (Effect α)} (ran : (ofSize size).run moves = some (pool, effects))
    (spawned : ∀ reason, .failToSpawn reason ∉ moves)
    (peaceful : ∀ worker message, .finish worker (some (.volatile message)) ∉ moves)
    (idle : pool.stage = .idle) :
    let called := moves.foldl comesTo (ofSize size)
    pool.standing = called.standing ∧
      ∀ task, (∃ next, pool.step (.enqueue task) = some (next, [.accepted task])) ↔
        (called.enqueue task).2 = true := by
  intro called
  have leads : pool.outlook = called.standing :=
    run_outlook ran spawned peaceful (sound_ofSize size) nofun rfl
  rw [outlook, idle] at leads
  refine ⟨leads, fun task => ?_⟩
  have running : pool.running = called.running := (Standing.mk.inj leads).2.1
  unfold enqueue step
  rw [running]
  cases called.running <;> simp

/-! ### A run of each call -/

def Move.isOwn : Move α → Bool
  | .proceed | .wake _ | .look _ | .finish _ none => true
  | _ => false

inductive Reaches : Pool α → Pool α → Prop
  | rests (pool : Pool α) : Reaches pool pool
  | goesOn {pool next last : Pool α} {move : Move α} {effects : List (Effect α)}
      (moved : pool.step move = some (next, effects)) (own : move.isOwn = true)
      (later : Reaches next last) : Reaches pool last

theorem Reaches.exists_run {pool last : Pool α} (reaches : Reaches pool last) :
    ∃ moves effects, pool.run moves = some (last, effects) ∧
      ∀ move ∈ moves, move.isOwn = true := by
  induction reaches with
  | rests pool => exact ⟨[], [], rfl, List.forall_mem_nil _⟩
  | @goesOn pool next last move effects moved own _ ih =>
      obtain ⟨moves, more, ran, others⟩ := ih
      refine ⟨move :: moves, effects ++ more, ?_, List.forall_mem_cons.mpr ⟨own, others⟩⟩
      simp [run, moved, ran]

theorem Reaches.single {pool next : Pool α} {move : Move α} {effects : List (Effect α)}
    (moved : pool.step move = some (next, effects)) (own : move.isOwn = true) :
    Reaches pool next :=
  .goesOn moved own (.rests next)

theorem Reaches.trans {pool middle last : Pool α} (first : Reaches pool middle)
    (second : Reaches middle last) : Reaches pool last := by
  induction first with
  | rests pool => exact second
  | goesOn moved own _ ih => exact .goesOn moved own (ih second)

theorem reaches_finished {pool : Pool α} (stopped : pool.running = false) {index generation : Nat}
    (found : pool.workers[index]? = some ⟨generation, .awake⟩) :
    Reaches pool (pool.setWorker index ⟨generation, .finished⟩) := by
  have moved : pool.step (.look index) =
      some (pool.setWorker index ⟨generation, .finished⟩, []) := by
    simp [step, found, look, stopped]
  exact .single moved rfl

theorem exists_reaches_finished {pool : Pool α} (stopped : pool.running = false) {index : Nat}
    (bound : index < pool.workers.length) :
    ∃ worker : Worker α, worker.isLive = false ∧ Reaches pool (pool.setWorker index worker) := by
  obtain ⟨⟨generation, state⟩, worker⟩ : ∃ worker, pool.workers[index] = worker := ⟨_, rfl⟩
  have found : pool.workers[index]? = some ⟨generation, state⟩ := by
    rw [List.getElem?_eq_getElem bound, worker]
  have awoken : (pool.setWorker index ⟨generation, .awake⟩).workers[index]? =
      some ⟨generation, .awake⟩ := List.getElem?_set_self bound
  have twice : (pool.setWorker index ⟨generation, .awake⟩).setWorker index
      ⟨generation, .finished⟩ = pool.setWorker index ⟨generation, .finished⟩ := by
    simp [setWorker]
  have ended := @reaches_finished _ (pool.setWorker index ⟨generation, .awake⟩) stopped index
    generation awoken
  rw [twice] at ended
  cases state with
  | awake => exact ⟨_, rfl, reaches_finished stopped found⟩
  | asleep =>
      have moved : pool.step (.wake index) =
          some (pool.setWorker index ⟨generation, .awake⟩, []) := by
        simp [step, found, Worker.isAsleep, Worker.wake]
      exact ⟨_, rfl, .goesOn moved rfl ended⟩
  | busy task =>
      have moved : pool.step (.finish index none) =
          some (pool.setWorker index ⟨generation, .awake⟩, []) := by
        simp [step, found, afterTask]
      exact ⟨_, rfl, .goesOn moved rfl ended⟩
  | finished =>
      refine ⟨⟨generation, .finished⟩, rfl, ?_⟩
      have same : pool.setWorker index ⟨generation, .finished⟩ = pool := by
        rw [setWorker, ← worker, List.set_getElem_self]
      rw [same]
      exact .rests pool

theorem reaches_joined {resized : Option Nat} (left : Nat) {pool : Pool α} {count : Nat}
    (joining : pool.stage = .joining resized count) (stopped : pool.running = false)
    (remaining : pool.workers.length - count = left) :
    Reaches pool (pool.joined resized) := by
  induction left generalizing pool count with
  | zero =>
      have beyond : pool.workers[count]? = none := List.getElem?_eq_none (by omega)
      have moved : pool.step .proceed = some (pool.joined resized, []) := by
        simp [step, proceed?, joining, beyond]
      exact .single moved rfl
  | succ left ih =>
      obtain ⟨worker, gone, reaches⟩ := exists_reaches_finished stopped (show
        count < pool.workers.length by omega)
      refine reaches.trans ?_
      have found : (pool.setWorker count worker).workers[count]? = some worker :=
        List.getElem?_set_self (by omega)
      have moved : (pool.setWorker count worker).step .proceed =
          some ({ pool.setWorker count worker with stage := .joining resized (count + 1) },
            []) := by
        have staged : (pool.setWorker count worker).stage = .joining resized count := joining
        simp [step, proceed?, staged, found, gone]
      have later := @ih { pool.setWorker count worker with stage := .joining resized (count + 1) }
        (count + 1) rfl stopped (by simp only [setWorker, List.length_set]; omega)
      have same : ({ pool.setWorker count worker with
          stage := .joining resized (count + 1) } : Pool α).joined resized =
            pool.joined resized := by
        cases resized <;> rfl
      rw [same] at later
      exact .goesOn moved rfl later

theorem reaches_spawned (left : Nat) {pool : Pool α} {next : Nat}
    (spawning : pool.stage = .spawning next) (remaining : next + left = pool.size) :
    Reaches pool { pool with
      workers := pool.workers ++ List.replicate left ⟨pool.generation, .awake⟩
      stage := .idle } := by
  induction left generalizing pool next with
  | zero =>
      have moved : pool.step .proceed = some ({ pool with stage := .idle }, []) := by
        simp [step, proceed?, spawning, show ¬next < pool.size by omega]
      rw [List.replicate_zero, List.append_nil]
      exact .single moved rfl
  | succ left ih =>
      have moved : pool.step .proceed = some ({ pool with
          workers := pool.workers ++ [⟨pool.generation, .awake⟩]
          stage := .spawning (next + 1) }, []) := by
        simp [step, proceed?, spawning, show next < pool.size by omega]
      have later := @ih { pool with
        workers := pool.workers ++ [⟨pool.generation, .awake⟩]
        stage := .spawning (next + 1) } (next + 1) rfl (by simp only; omega)
      rw [List.append_assoc, List.singleton_append, ← List.replicate_succ] at later
      exact .goesOn moved rfl later

theorem reaches_started {pool : Pool α} (opened : pool.stage = .opened .start)
    (stopped : pool.running = false) (nobody : pool.workers = []) :
    Reaches pool { pool.start with stage := .idle } := by
  have moved : pool.step .proceed = some ({ pool with
      running := true, generation := pool.generation + 1, stage := .spawning 0 }, []) := by
    simp [step, proceed?, opened, enter, stopped]
  have spawned := @reaches_spawned _ pool.size { pool with
    running := true, generation := pool.generation + 1, stage := .spawning 0 } 0 rfl (by simp)
  have same : { pool.start with stage := .idle } = { pool with
      running := true, generation := pool.generation + 1, stage := .idle
      workers := pool.workers ++ List.replicate pool.size ⟨pool.generation + 1, .awake⟩ } := by
    simp [start, stopped, nobody]
  rw [same]
  exact .goesOn moved rfl spawned

theorem reaches_emptied {resized : Option Nat} {pool : Pool α}
    (waking : pool.stage = .waking resized) (stopped : pool.running = false) :
    Reaches pool (pool.joined resized) := by
  have moved : pool.step .proceed = some ({ pool with
      workers := pool.workers.map Worker.wake, stage := .joining resized 0 }, []) := by
    simp [step, proceed?, waking]
  have joined := @reaches_joined _ resized pool.workers.length { pool with
    workers := pool.workers.map Worker.wake, stage := .joining resized 0 } 0 rfl stopped (by simp)
  have same : ({ pool with
      workers := pool.workers.map Worker.wake
      stage := .joining resized 0 } : Pool α).joined resized = pool.joined resized := by
    cases resized <;> rfl
  rw [same] at joined
  exact .goesOn moved rfl joined

theorem reaches_entered {pool after : Pool α} {call : Call} {effects : List (Effect α)}
    (opened : pool.stage = .opened call) (entered : pool.enter call = (after, effects)) :
    Reaches pool after := by
  have moved : pool.step .proceed = some (after, effects) := by
    simp [step, proceed?, opened, entered]
  exact .single moved rfl

theorem reaches_whole {pool : Pool α} {call : Call} (opened : pool.stage = .opened call)
    (nobody : pool.running = false → pool.workers = []) :
    Reaches pool { pool.whole call with stage := .idle } := by
  rcases Bool.eq_false_or_eq_true pool.running with running | stopped
  · cases call with
    | start =>
        refine reaches_entered opened (?_ : _ = (_, []))
        simp [enter, whole, start, running]
    | stop =>
        have entered : pool.enter .stop =
            ({ pool with running := false, queue := [], stage := .waking none },
              [.discarded pool.queue]) := by
          simp [enter, running]
        have ended : ({ pool.whole .stop with stage := .idle } : Pool α) =
            ({ pool with running := false, queue := [], stage := .waking none } : Pool α).joined
              none := by
          simp [joined, whole, stop, running]
        rw [ended]
        exact (reaches_entered opened entered).trans (reaches_emptied rfl rfl)
    | resize requested =>
        have entered : pool.enter (.resize requested) =
            ({ pool with running := false, stage := .waking (some requested) }, []) := by
          simp [enter, running]
        have ended : ({ pool.whole (.resize requested) with stage := .idle } : Pool α) =
            { (({ pool with running := false, stage := .waking (some requested) } : Pool α).joined
              (some requested)).start with stage := .idle } := by
          simp [joined, whole, resize, start, running]
        rw [ended]
        exact (reaches_entered opened entered).trans
          ((reaches_emptied rfl rfl).trans (reaches_started rfl rfl rfl))
  · cases call with
    | start => exact reaches_started opened stopped (nobody stopped)
    | stop =>
        refine reaches_entered opened (?_ : _ = (_, []))
        simp [enter, whole, stop, stopped]
    | resize requested =>
        refine reaches_entered opened (?_ : _ = (_, []))
        simp [enter, whole, resize, stopped]

theorem whole_opened {pool : Pool α} (idle : pool.stage = .idle) (call : Call) :
    ({ ({ pool with stage := .opened call } : Pool α).whole call with stage := .idle } : Pool α) =
      pool.whole call := by
  obtain ⟨size, running, queue, workers, generation, stage, unnotified⟩ := pool
  change stage = .idle at idle
  subst idle
  cases call <;> cases running <;> rfl

/-- Each call has a run that ends in what the call comes to, if every task comes to its end. -/
theorem exists_whole_run {pool : Pool α} (sound : Sound pool) (idle : pool.stage = .idle)
    (call : Call) : ∃ moves effects,
      pool.run (.call call :: moves) = some (pool.whole call, effects) ∧
      ∀ move ∈ moves, move.isOwn = true := by
  have reaches := @reaches_whole _ { pool with stage := .opened call } call rfl
    fun stopped => (sound.rests idle stopped).2.1
  rw [whole_opened idle] at reaches
  obtain ⟨moves, effects, ran, own⟩ := reaches.exists_run
  refine ⟨moves, effects, ?_, own⟩
  simp [run, step, idle, ran]

end HttpServer.Pool
