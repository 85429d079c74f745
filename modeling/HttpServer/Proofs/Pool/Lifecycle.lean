import HttpServer.Proofs.Pool.Conservation

/-!
The staff of a pool. Between the calls that start, stop or resize it, a pool that runs has as many
workers as were asked for last, and a pool that does not run has none, no task that waits and none
that is under way. A worker stays until it finds the pool stopped, a stop or resize waits for all
of them, and so the workers of one start are gone before those of the next are there. Only a panic
that a worker cannot stop takes it from a pool that runs, and nobody takes its place.
-/

namespace HttpServer.Pool

variable {α : Type}

/-! ### The staff -/

def Worker.entry (worker : Worker α) : Nat × Bool :=
  (worker.generation, worker.isLive)

def roster (pool : Pool α) : List (Nat × Bool) :=
  pool.workers.map Worker.entry

def underWay (pool : Pool α) : List α :=
  pool.workers.filterMap fun worker =>
    match worker.state with
    | .busy task => some task
    | _ => none

def Move.isCall : Move α → Bool
  | .call _ => true
  | _ => false

def target (pool : Pool α) : Nat :=
  match pool.stage with
  | .opened (.resize requested) | .waking (some requested) | .joining (some requested) _ =>
    sizeOf requested
  | _ => pool.size

theorem live_eq_countP_roster (pool : Pool α) : live pool = pool.roster.countP Prod.snd := by
  simp only [live, roster, List.countP_map]
  rfl

theorem entry_wake (worker : Worker α) : worker.wake.entry = worker.entry := by
  obtain ⟨generation, state⟩ := worker
  cases state <;> rfl

theorem roster_wake (workers : List (Worker α)) :
    (workers.map Worker.wake).map Worker.entry = workers.map Worker.entry := by
  simp only [List.map_map, List.map_inj_left, Function.comp_apply, entry_wake, implies_true]

theorem roster_set {workers : List (Worker α)} {index : Nat} {before after : Worker α}
    (found : workers[index]? = some before) (same : after.entry = before.entry) :
    (workers.set index after).map Worker.entry = workers.map Worker.entry := by
  obtain ⟨bound, rfl⟩ := List.getElem?_eq_some_iff.mp found
  rw [List.map_set, same, ← List.map_set, List.set_getElem_self]

theorem roster_getElem? {pool : Pool α} {index : Nat} {worker : Worker α}
    (found : pool.workers[index]? = some worker) : pool.roster[index]? = some worker.entry := by
  simp only [roster, List.getElem?_map, found, Option.map_some]

/-- What one move does to the staff, and to the call that is under way. -/
inductive StaffStep (pool : Pool α) : Move α → Pool α → List (Effect α) → Prop
  | attends {move : Move α} {after : Pool α} {effects : List (Effect α)}
      (uncalled : move.isCall = false) (size : after.size = pool.size)
      (running : after.running = pool.running) (generation : after.generation = pool.generation)
      (stage : after.stage = pool.stage) (staff : after.roster = pool.roster)
      (still : pool.running = false → after.queue = pool.queue ∧ taken effects = []) :
      StaffStep pool move after effects
  | ends {index generation : Nat} (stopped : pool.running = false)
      (found : pool.workers[index]? = some ⟨generation, .awake⟩) :
      StaffStep pool (.look index) (pool.setWorker index ⟨generation, .finished⟩) []
  | dies {index generation : Nat} {task : α} {message : String}
      (found : pool.workers[index]? = some ⟨generation, .busy task⟩) :
      StaffStep pool (.finish index (some (.volatile message)))
        (pool.setWorker index ⟨generation, .finished⟩) []
  | opens {call : Call} (idle : pool.stage = .idle) :
      StaffStep pool (.call call) { pool with stage := .opened call } []
  | returns {call : Call} (opened : pool.stage = .opened call)
      (done : pool.running = true ∧ call = .start ∨ pool.running = false ∧ call = .stop) :
      StaffStep pool .proceed { pool with stage := .idle } []
  | starts (opened : pool.stage = .opened .start) (stopped : pool.running = false) :
      StaffStep pool .proceed
        { pool with
          running := true, generation := pool.generation + 1, stage := .spawning 0 } []
  | stops (opened : pool.stage = .opened .stop) (running : pool.running = true) :
      StaffStep pool .proceed
        { pool with running := false, queue := [], stage := .waking none } [.discarded pool.queue]
  | halts {requested : Nat} (opened : pool.stage = .opened (.resize requested))
      (running : pool.running = true) :
      StaffStep pool .proceed { pool with running := false, stage := .waking (some requested) } []
  | resizes {requested : Nat} (opened : pool.stage = .opened (.resize requested))
      (stopped : pool.running = false) :
      StaffStep pool .proceed { pool with size := sizeOf requested, stage := .idle } []
  | rouses {resized : Option Nat} (waking : pool.stage = .waking resized) :
      StaffStep pool .proceed
        { pool with workers := pool.workers.map Worker.wake, stage := .joining resized 0 } []
  | waits {resized : Option Nat} {count : Nat} {worker : Worker α}
      (joining : pool.stage = .joining resized count)
      (found : pool.workers[count]? = some worker) (finished : worker.isLive = false) :
      StaffStep pool .proceed { pool with stage := .joining resized (count + 1) } []
  | joins {resized : Option Nat} {count : Nat} (joining : pool.stage = .joining resized count)
      (all : pool.workers.length ≤ count) : StaffStep pool .proceed (pool.joined resized) []
  | spawns {next : Nat} (spawning : pool.stage = .spawning next) (below : next < pool.size) :
      StaffStep pool .proceed
        { pool with
          workers := pool.workers ++ [⟨pool.generation, .awake⟩], stage := .spawning (next + 1) } []
  | lacks {next : Nat} {reason : String} (spawning : pool.stage = .spawning next)
      (below : next < pool.size) :
      StaffStep pool (.failToSpawn reason) { pool with stage := .spawning (next + 1) }
        [.log (spawnLine next reason)]
  | completes {next : Nat} (spawning : pool.stage = .spawning next) (all : pool.size ≤ next) :
      StaffStep pool .proceed { pool with stage := .idle } []

theorem step_staff {pool after : Pool α} {move : Move α} {effects : List (Effect α)}
    (moved : pool.step move = some (after, effects)) : StaffStep pool move after effects := by
  cases step_moved moved with
  | accepts running =>
      refine .attends rfl rfl rfl rfl rfl rfl fun stopped => ?_
      cases running.symm.trans stopped
  | refuses | misses => exact .attends rfl rfl rfl rfl rfl rfl fun _ => ⟨rfl, rfl⟩
  | notifies _ found | wakes found =>
      exact .attends rfl rfl rfl rfl rfl (roster_set found rfl) fun _ => ⟨rfl, rfl⟩
  | sleeps found running | takes found running =>
      refine .attends rfl rfl rfl rfl rfl (roster_set found rfl) fun stopped => ?_
      cases running.symm.trans stopped
  | finishes found lines =>
      refine .attends rfl rfl rfl rfl rfl (roster_set found rfl) fun _ => ⟨rfl, ?_⟩
      simp [taken, List.filterMap_map]
  | leaves found stopped => exact .ends stopped found
  | dies found => exact .dies found
  | opens idle => exact .opens idle
  | returns opened done => exact .returns opened done
  | starts opened stopped => exact .starts opened stopped
  | stops opened running => exact .stops opened running
  | halts opened running => exact .halts opened running
  | resizes opened stopped => exact .resizes opened stopped
  | rouses waking => exact .rouses waking
  | waits joining found finished => exact .waits joining found finished
  | joins joining all => exact .joins joining all
  | spawns spawning below => exact .spawns spawning below
  | lacks spawning below => exact .lacks spawning below
  | completes spawning all => exact .completes spawning all

def generations (pool : Pool α) : List Nat :=
  pool.roster.map Prod.fst

/-- How the staff stands at each stage of a call. Only a stop or resize that is under way has
workers in a pool that does not run, and only a resize leaves tasks in its queue. -/
inductive Situation (pool : Pool α) : Stage → Prop
  | stopped {stage : Stage} (between : stage = .idle ∨ ∃ call, stage = .opened call)
      (stopped : pool.running = false) (nobody : pool.roster = [])
      (cleared : pool.queue = [] ∨ stage = .opened .start) : Situation pool stage
  | staffed {stage : Stage} (between : stage = .idle ∨ ∃ call, stage = .opened call)
      (running : pool.running = true)
      (staff : pool.generations = List.replicate pool.size pool.generation) :
      Situation pool stage
  | waking {resized : Option Nat} (stopped : pool.running = false)
      (ours : ∀ entry ∈ pool.roster, entry.1 = pool.generation)
      (cleared : resized = none → pool.queue = []) : Situation pool (.waking resized)
  | joining {resized : Option Nat} {count : Nat} (stopped : pool.running = false)
      (ours : ∀ entry ∈ pool.roster, entry.1 = pool.generation)
      (waited : ∀ entry ∈ pool.roster.take count, entry.2 = false)
      (cleared : resized = none → pool.queue = []) : Situation pool (.joining resized count)
  | spawning {next : Nat} (running : pool.running = true) (within : next ≤ pool.size)
      (staff : pool.generations = List.replicate next pool.generation) :
      Situation pool (.spawning next)

structure Sound (pool : Pool α) : Prop where
  sized : 1 ≤ pool.size
  situation : Situation pool pool.stage

theorem one_le_sizeOf (requested : Nat) : 1 ≤ sizeOf requested :=
  Nat.le_max_right requested 1

theorem roster_setWorker (pool : Pool α) (index : Nat) (worker : Worker α) :
    (pool.setWorker index worker).roster = pool.roster.set index worker.entry := by
  simp only [roster, setWorker, List.map_set]

namespace Situation

variable {pool after : Pool α} {stage : Stage}

theorem carried (here : Situation pool stage) (size : after.size = pool.size)
    (running : after.running = pool.running) (generation : after.generation = pool.generation)
    (staff : after.roster = pool.roster)
    (still : pool.running = false → after.queue = pool.queue) : Situation after stage := by
  cases here with
  | stopped between stopped nobody cleared =>
      exact .stopped between (running.trans stopped) (staff.trans nobody) (by rwa [still stopped])
  | staffed between working filled =>
      exact .staffed between (running.trans working)
        (by rw [generations, staff, size, generation, ← filled, generations])
  | waking stopped ours cleared =>
      exact .waking (running.trans stopped) (by rwa [staff, generation]) (by rwa [still stopped])
  | joining stopped ours waited cleared =>
      exact .joining (running.trans stopped) (by rwa [staff, generation]) (by rwa [staff])
        (by rwa [still stopped])
  | spawning working within filled =>
      exact .spawning (running.trans working) (by rwa [size])
        (by rw [generations, staff, generation, ← filled, generations])

theorem ours (here : Situation pool stage) : ∀ entry ∈ pool.roster, entry.1 = pool.generation := by
  cases here with
  | stopped between stopped nobody cleared => simp [nobody]
  | staffed between running staff | spawning running within staff =>
      intro entry member
      have listed : entry.1 ∈ pool.generations := List.mem_map_of_mem member
      rw [staff] at listed
      exact (List.mem_replicate.mp listed).2
  | waking stopped ours cleared | joining stopped ours waited cleared => exact ours

theorem ends {index generation : Nat} {state : WorkerState α} (here : Situation pool stage)
    (found : pool.workers[index]? = some ⟨generation, state⟩) :
    Situation (pool.setWorker index ⟨generation, .finished⟩) stage := by
  have listed := roster_getElem? found
  have made : (pool.setWorker index ⟨generation, .finished⟩).generations = pool.generations := by
    obtain ⟨bound, same⟩ := List.getElem?_eq_some_iff.mp listed
    rw [generations, roster_setWorker, List.map_set, generations]
    refine List.ext_getElem? fun other => ?_
    rw [List.getElem?_set]
    split
    · rename_i here
      subst here
      simp [bound, same, Worker.entry]
    · rfl
  have same : ∀ entry ∈ (pool.setWorker index ⟨generation, .finished⟩).roster,
      entry.1 = pool.generation := by
    intro entry member
    rw [roster_setWorker] at member
    rcases List.mem_or_eq_of_mem_set member with old | rfl
    · exact here.ours entry old
    · have ours := here.ours _ (List.mem_of_getElem? listed)
      exact ours
  cases here with
  | stopped between stopped nobody cleared => simp [nobody] at listed
  | staffed between running staff => exact .staffed between running (made.trans staff)
  | spawning running within staff => exact .spawning running within (made.trans staff)
  | waking stopped ours cleared => exact .waking stopped same cleared
  | joining stopped ours waited cleared =>
      refine .joining stopped same ?_ cleared
      intro entry member
      rw [roster_setWorker, List.take_set] at member
      rcases List.mem_or_eq_of_mem_set member with old | rfl
      · exact waited entry old
      · rfl

end Situation

namespace StaffStep

variable {pool after : Pool α} {move : Move α} {effects : List (Effect α)}

theorem situation (moved : StaffStep pool move after effects)
    (spawned : ∀ reason, move ≠ .failToSpawn reason) (here : Situation pool pool.stage) :
    Situation after after.stage := by
  have all := here.ours
  cases moved with
  | attends uncalled size running generation stage staff still =>
      rw [stage]
      exact here.carried size running generation staff fun stopped => (still stopped).1
  | ends stopped found => exact here.ends found
  | dies found => exact here.ends found
  | opens idle =>
      rw [idle] at here
      cases here with
      | stopped between stopped nobody cleared =>
          exact .stopped (.inr ⟨_, rfl⟩) stopped nobody (.inl (cleared.resolve_right nofun))
      | staffed between running staff => exact .staffed (.inr ⟨_, rfl⟩) running staff
  | returns opened done =>
      rw [opened] at here
      cases here with
      | stopped between stopped nobody cleared =>
          obtain ⟨running, same⟩ | ⟨same, rfl⟩ := done
          · simp [stopped] at running
          · exact .stopped (.inl rfl) stopped nobody (.inl (cleared.resolve_right nofun))
      | staffed between running staff => exact .staffed (.inl rfl) running staff
  | starts opened stopped =>
      rw [opened] at here
      cases here with
      | stopped between same nobody cleared =>
          -- Nobody is left of an earlier start, so the new generation is alone.
          exact .spawning rfl (Nat.zero_le _) (congrArg (List.map Prod.fst) nobody)
      | staffed between running staff => simp [stopped] at running
  | stops opened running => exact .waking rfl all fun _ => rfl
  | halts opened running => exact .waking rfl all nofun
  | resizes opened stopped =>
      rw [opened] at here
      cases here with
      | stopped between same nobody cleared =>
          exact .stopped (.inl rfl) stopped nobody (.inl (cleared.resolve_right nofun))
      | staffed between running staff => simp [stopped] at running
  | rouses waking =>
      rw [waking] at here
      cases here with
      | stopped between | staffed between => simp at between
      | waking stopped ours cleared =>
          refine .joining stopped ?_ nofun cleared
          intro entry member
          rw [roster, roster_wake] at member
          exact all entry member
  | waits joining found finished =>
      rw [joining] at here
      cases here with
      | stopped between | staffed between => simp at between
      | joining stopped ours waited cleared =>
          refine .joining stopped all ?_ cleared
          intro entry member
          change entry ∈ pool.roster.take _ at member
          rw [List.take_add_one, roster_getElem? found, Option.toList_some,
            List.mem_append, List.mem_singleton] at member
          rcases member with old | rfl
          · exact waited entry old
          · exact finished
  | joins joining all =>
      rw [joining] at here
      cases here with
      | stopped between | staffed between => simp at between
      | joining stopped ours waited cleared =>
          rename_i resized count
          -- A resize leaves its tasks to the start that is to follow.
          cases resized with
          | none => exact .stopped (.inl rfl) stopped rfl (.inl (cleared rfl))
          | some requested => exact .stopped (.inr ⟨_, rfl⟩) stopped rfl (.inr rfl)
  | spawns spawning below =>
      rw [spawning] at here
      cases here with
      | stopped between | staffed between => simp at between
      | spawning running within staff =>
          refine .spawning running below ?_
          rw [generations, roster] at staff ⊢
          rw [List.map_append, List.map_append, staff, List.replicate_succ']
          rfl
  | lacks spawning below => exact absurd rfl (spawned _)
  | completes spawning all =>
      rw [spawning] at here
      cases here with
      | stopped between | staffed between => simp at between
      | spawning running within staff =>
          exact .staffed (.inl rfl) running (Nat.le_antisymm within all ▸ staff)

theorem sized (moved : StaffStep pool move after effects) (sized : 1 ≤ pool.size) :
    1 ≤ after.size := by
  cases moved with
  | attends uncalled size => rwa [size]
  | resizes => exact one_le_sizeOf _
  | joins joining all =>
      rename_i resized count
      cases resized with
      | none => exact sized
      | some requested => exact one_le_sizeOf requested
  | _ => exact sized

theorem stays_or_ends {index generation leaver other : Nat} {state : WorkerState α}
    (found : pool.workers[leaver]? = some ⟨other, state⟩)
    (listed : pool.roster[index]? = some (generation, true)) :
    (pool.setWorker leaver ⟨other, .finished⟩).roster[index]? = some (generation, true) ∨
      leaver = index ∧
        (pool.setWorker leaver ⟨other, .finished⟩).roster[index]? = some (generation, false) := by
  rw [roster_setWorker]
  by_cases same : leaver = index
  · subst same
    have entry := (roster_getElem? found).symm.trans listed
    obtain ⟨rfl, -⟩ := Prod.mk.inj (Option.some.inj entry)
    exact .inr ⟨rfl, List.getElem?_set_self (List.getElem?_eq_some_iff.mp listed).1⟩
  · exact .inl ((List.getElem?_set_ne same).trans listed)

theorem stays (moved : StaffStep pool move after effects) (here : Situation pool pool.stage)
    {index generation : Nat} (listed : pool.roster[index]? = some (generation, true)) :
    after.roster[index]? = some (generation, true) ∨
      (move = .look index ∧ pool.running = false ∨
        ∃ message, move = .finish index (some (.volatile message))) ∧
        after.roster[index]? = some (generation, false) := by
  cases moved with
  | attends uncalled size running generation stage staff => exact .inl (staff ▸ listed)
  | ends stopped found =>
      refine (stays_or_ends found listed).imp_right ?_
      rintro ⟨rfl, ended⟩
      exact ⟨.inl ⟨rfl, stopped⟩, ended⟩
  | dies found =>
      refine (stays_or_ends found listed).imp_right ?_
      rintro ⟨rfl, ended⟩
      exact ⟨.inr ⟨_, rfl⟩, ended⟩
  | rouses waking =>
      refine .inl ?_
      rw [roster, roster_wake]
      exact listed
  | joins joining all =>
      rw [joining] at here
      cases here with
      | stopped between | staffed between => simp at between
      | joining stopped ours waited cleared =>
          -- All have been waited for, so none is live.
          have every : pool.roster.take _ = pool.roster :=
            List.take_of_length_le (by simpa [roster] using all)
          have gone := waited _ (every.symm ▸ List.mem_of_getElem? listed)
          cases gone
  | spawns spawning below =>
      refine .inl ?_
      have bound := (List.getElem?_eq_some_iff.mp listed).1
      rw [roster, List.map_append]
      exact (List.getElem?_append_left bound).trans listed
  | _ => exact .inl listed

theorem manned (moved : StaffStep pool move after effects)
    (peaceful : ∀ worker message, move ≠ .finish worker (some (.volatile message)))
    (here : Situation pool pool.stage)
    (manned : pool.running = true → ∀ entry ∈ pool.roster, entry.2 = true)
    (running : after.running = true) : ∀ entry ∈ after.roster, entry.2 = true := by
  cases moved with
  | attends uncalled size same generation stage staff =>
      rw [staff]
      exact manned (same.symm.trans running)
  | dies found => exact absurd rfl (peaceful _ _)
  | ends stopped found => cases stopped.symm.trans running
  | starts opened stopped =>
      rw [opened] at here
      cases here with
      | stopped between same nobody cleared =>
          intro entry member
          change entry ∈ pool.roster at member
          rw [nobody] at member
          cases member
      | staffed between same staff => cases stopped.symm.trans same
  | stops opened same | halts opened same => cases running
  | rouses waking =>
      rw [roster, roster_wake]
      exact manned running
  | joins joining all =>
      rename_i resized count
      cases resized <;> exact List.forall_mem_nil _
  | spawns spawning below =>
      intro entry member
      rw [roster, List.map_append] at member
      rcases List.mem_append.mp member with old | new
      · exact manned running entry old
      · rw [List.mem_singleton.mp new]
        rfl
  | _ => exact manned running

end StaffStep

theorem step_sound {pool after : Pool α} {move : Move α} {effects : List (Effect α)}
    (moved : pool.step move = some (after, effects))
    (spawned : ∀ reason, move ≠ .failToSpawn reason) (sound : Sound pool) : Sound after :=
  ⟨(step_staff moved).sized sound.sized, (step_staff moved).situation spawned sound.situation⟩

theorem sound_ofSize (size : Nat) : Sound (ofSize size : Pool α) :=
  ⟨one_le_sizeOf size, .stopped (.inl rfl) rfl rfl (.inl rfl)⟩

/-! ### Whole runs -/

theorem run_sound {pool last : Pool α} {moves : List (Move α)} {effects : List (Effect α)}
    (ran : pool.run moves = some (last, effects))
    (spawned : ∀ reason, .failToSpawn reason ∉ moves) (sound : Sound pool) : Sound last := by
  induction moves generalizing pool effects with
  | nil =>
      cases ran
      exact sound
  | cons move rest ih =>
      obtain ⟨next, first, later, moved, continued, rfl⟩ := run_cons ran
      refine ih continued (fun reason member => spawned reason (.tail _ member)) ?_
      refine step_sound moved ?_ sound
      rintro reason rfl
      exact spawned reason List.mem_cons_self

def Stage.atRest : Stage → Bool
  | .idle | .opened .stop | .opened (.resize _) => true
  | _ => false

structure Resting (pool : Pool α) : Prop where
  stopped : pool.running = false
  nobody : pool.roster = []
  atRest : pool.stage.atRest = true

theorem StaffStep.rests {pool after : Pool α} {move : Move α} {effects : List (Effect α)}
    (moved : StaffStep pool move after effects) (unstarted : move ≠ .call .start)
    (resting : Resting pool) : Resting after ∧ taken effects = [] := by
  obtain ⟨stopped, nobody, atRest⟩ := resting
  cases moved with
  | attends uncalled size running generation stage staff still =>
      exact ⟨⟨running.trans stopped, staff.trans nobody, by rwa [stage]⟩, (still stopped).2⟩
  | ends same found | dies found =>
      have listed := roster_getElem? found
      simp [nobody] at listed
  | opens idle =>
      rename_i call
      cases call with
      | start => exact absurd rfl unstarted
      | _ => exact ⟨⟨stopped, nobody, rfl⟩, rfl⟩
  | returns | resizes => exact ⟨⟨stopped, nobody, rfl⟩, rfl⟩
  | starts opened => simp [opened, Stage.atRest] at atRest
  | stops opened running | halts opened running => simp [stopped] at running
  | rouses staged | waits staged | joins staged | spawns staged | lacks staged
  | completes staged =>
      simp [staged, Stage.atRest] at atRest

theorem run_rests {pool last : Pool α} {moves : List (Move α)} {effects : List (Effect α)}
    (ran : pool.run moves = some (last, effects)) (unstarted : .call .start ∉ moves)
    (resting : Resting pool) : taken effects = [] := by
  induction moves generalizing pool effects with
  | nil =>
      cases ran
      rfl
  | cons move rest ih =>
      obtain ⟨next, first, later, moved, continued, rfl⟩ := run_cons ran
      obtain ⟨still, none⟩ :=
        (step_staff moved).rests (List.ne_of_not_mem_cons unstarted).symm resting
      have remaining := ih continued (List.not_mem_of_not_mem_cons unstarted) still
      simp only [taken, List.filterMap_append] at none remaining ⊢
      rw [none, remaining, List.append_nil]

theorem run_manned {pool last : Pool α} {moves : List (Move α)} {effects : List (Effect α)}
    (ran : pool.run moves = some (last, effects))
    (spawned : ∀ reason, .failToSpawn reason ∉ moves)
    (peaceful : ∀ worker message, .finish worker (some (.volatile message)) ∉ moves)
    (sound : Sound pool)
    (manned : pool.running = true → ∀ entry ∈ pool.roster, entry.2 = true)
    (running : last.running = true) : ∀ entry ∈ last.roster, entry.2 = true := by
  induction moves generalizing pool effects with
  | nil =>
      cases ran
      exact manned running
  | cons move rest ih =>
      obtain ⟨next, first, later, moved, continued, rfl⟩ := run_cons ran
      have here := sound.situation
      refine ih continued (fun reason member => spawned reason (.tail _ member))
        (fun worker message member => peaceful worker message (.tail _ member))
        (step_sound moved ?_ sound) ((step_staff moved).manned ?_ here manned)
      · rintro reason rfl
        exact spawned reason List.mem_cons_self
      · rintro worker message rfl
        exact peaceful worker message List.mem_cons_self

/-! ### At any time, and between calls -/

/-- What holds while no start, stop or resize is under way, whatever became of the workers. -/
structure Settled (pool : Pool α) (requested : Nat) : Prop where
  size_eq : pool.size = sizeOf requested
  staffed : pool.running = true → live pool ≤ pool.size
  deserted : pool.running = false → live pool = 0 ∧ pool.queue = [] ∧ underWay pool = []
  quiet : pool.running = false → ∀ moves last effects, pool.run moves = some (last, effects) →
    .call .start ∉ moves → taken effects = []

theorem Sound.length_roster {pool : Pool α} (sound : Sound pool) (running : pool.running = true)
    (between : pool.stage = .idle ∨ ∃ call, pool.stage = .opened call) :
    pool.roster.length = pool.size := by
  have here := sound.situation
  cases stage : pool.stage with
  | idle | opened call =>
      rw [stage] at here
      cases here with
      | stopped _ stopped => cases running.symm.trans stopped
      | staffed _ _ staff =>
          have length := congrArg List.length staff
          rwa [generations, List.length_map, List.length_replicate] at length
  | waking resized | joining resized count | spawning next => simp [stage] at between

theorem Sound.rests {pool : Pool α} (sound : Sound pool) (idle : pool.stage = .idle)
    (stopped : pool.running = false) :
    Resting pool ∧ pool.workers = [] ∧ pool.queue = [] := by
  have here := sound.situation
  rw [idle] at here
  cases here with
  | stopped between stopped nobody cleared =>
      exact ⟨⟨stopped, nobody, by rw [idle]; rfl⟩, List.map_eq_nil_iff.mp nobody,
        cleared.resolve_right nofun⟩
  | staffed between running => cases stopped.symm.trans running

theorem Sound.settled {pool : Pool α} {requested : Nat} (sound : Sound pool)
    (idle : pool.stage = .idle) (due : pool.target = sizeOf requested) :
    Settled pool requested := by
  refine ⟨?_, ?_, ?_, ?_⟩
  · rw [← due]
    simp only [target, idle]
  · intro running
    rw [live_eq_countP_roster, ← sound.length_roster running (.inl idle)]
    exact List.countP_le_length
  · intro stopped
    obtain ⟨-, nobody, empty⟩ := sound.rests idle stopped
    exact ⟨by rw [live, nobody]; rfl, empty, by rw [underWay, nobody]; rfl⟩
  · intro stopped moves last effects ran unstarted
    exact run_rests ran unstarted (sound.rests idle stopped).1

end HttpServer.Pool
