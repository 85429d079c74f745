import HttpServer.Proofs.Pool.Moves
import HttpServer.Proofs.Pool.Renaming
import Mathlib.Data.List.Nodup

/-!
What becomes of the tasks of a pool. A task that was accepted is queued, was taken by one worker,
or was discarded by one stop, and tasks leave the queue in the order in which they came. A worker
that is busy is at the task that it took last.
-/

namespace HttpServer.Pool

variable {α : Type}

/-! ### The tasks that effects speak of -/

def accepted (effects : List (Effect α)) : List α :=
  effects.filterMap fun
    | .accepted task => some task
    | _ => none

def refused (effects : List (Effect α)) : List α :=
  effects.filterMap fun
    | .refused task => some task
    | _ => none

def taken (effects : List (Effect α)) : List α :=
  effects.filterMap fun
    | .took _ task => some task
    | _ => none

def discarded (effects : List (Effect α)) : List α :=
  effects.flatMap fun
    | .discarded tasks => tasks
    | _ => []

def removed (effects : List (Effect α)) : List α :=
  effects.flatMap fun
    | .took _ task => [task]
    | .discarded tasks => tasks
    | _ => []

def answered (effects : List (Effect α)) : List α :=
  effects.filterMap fun
    | .accepted task => some task
    | .refused task => some task
    | _ => none

theorem taken_sublist_removed (effects : List (Effect α)) :
    (taken effects).Sublist (removed effects) := by
  induction effects with
  | nil => exact .slnil
  | cons effect rest ih =>
      cases effect with
      | took worker task => exact ih.cons_cons task
      | discarded tasks => exact ih.trans (List.sublist_append_right tasks _)
      | _ => exact ih

theorem removed_perm (effects : List (Effect α)) :
    (removed effects).Perm (taken effects ++ discarded effects) := by
  induction effects with
  | nil => exact .nil
  | cons effect rest ih =>
      cases effect with
      | took worker task => exact ih.cons task
      | discarded tasks =>
          refine (ih.append_left tasks).trans ?_
          simp only [taken, discarded, List.filterMap_cons, List.flatMap_cons, ← List.append_assoc]
          exact List.perm_append_comm.append_right _
      | _ => exact ih

theorem accepted_sublist_answered (effects : List (Effect α)) :
    (accepted effects).Sublist (answered effects) := by
  induction effects with
  | nil => exact .slnil
  | cons effect rest ih =>
      cases effect with
      | accepted task => exact ih.cons_cons task
      | refused task => exact ih.cons task
      | _ => exact ih

theorem answered_perm (effects : List (Effect α)) :
    (answered effects).Perm (accepted effects ++ refused effects) := by
  induction effects with
  | nil => exact .nil
  | cons effect rest ih =>
      cases effect with
      | accepted task => exact ih.cons task
      | refused task => exact (ih.cons task).trans List.perm_middle.symm
      | _ => exact ih

theorem removed_eq_taken {effects : List (Effect α)} (kept : discarded effects = []) :
    removed effects = taken effects := by
  induction effects with
  | nil => rfl
  | cons effect rest ih =>
      cases effect with
      | took worker task => exact congrArg (task :: ·) (ih kept)
      | discarded tasks =>
          obtain ⟨rfl, later⟩ := List.append_eq_nil_iff.mp kept
          exact ih later
      | _ => exact ih kept

/-! ### One move -/

def Stage.stopping : Stage → Bool
  | .opened .stop | .waking none | .joining none _ => true
  | _ => false

/-- What one move does to the queue. Only a call can turn the pool to its end. -/
inductive QueueStep (pool : Pool α) (move : Move α) (after : Pool α) : List (Effect α) → Prop
  | accepts (task : α) (asked : move = .enqueue task) (grown : after.queue = pool.queue ++ [task])
      (stage : after.stage = pool.stage) : QueueStep pool move after [.accepted task]
  | refuses (task : α) (asked : move = .enqueue task) (same : after.queue = pool.queue)
      (stage : after.stage = pool.stage) : QueueStep pool move after [.refused task]
  | takes (worker : Nat) (task : α) (asked : move = .look worker)
      (shorter : pool.queue = task :: after.queue) (stage : after.stage = pool.stage) :
      QueueStep pool move after [.took worker task]
  | clears (asked : move = .proceed) (stopping : pool.stage = .opened .stop)
      (cleared : after.queue = []) : QueueStep pool move after [.discarded pool.queue]
  | calls (call : Call) (asked : move = .call call) (same : after.queue = pool.queue)
      (opened : after.stage = .opened call) : QueueStep pool move after []
  | keeps (lines : List Log.Line) (unasked : move.offered? = none)
      (same : after.queue = pool.queue)
      (resizing : pool.stage.stopping = false → after.stage.stopping = false) :
      QueueStep pool move after (lines.map .log)

theorem step_queue {pool after : Pool α} {move : Move α} {effects : List (Effect α)}
    (moved : pool.step move = some (after, effects)) : QueueStep pool move after effects := by
  cases step_moved moved with
  | accepts running => exact .accepts _ rfl rfl rfl
  | refuses stopped => exact .refuses _ rfl rfl rfl
  | takes found running waiting => exact .takes _ _ rfl waiting rfl
  | stops opened running => exact .clears rfl opened rfl
  | opens idle => exact .calls _ rfl rfl rfl
  | misses | notifies | wakes | sleeps | leaves | dies => exact .keeps [] rfl rfl id
  | finishes found lines => exact .keeps lines rfl rfl id
  | lacks spawning below => exact .keeps [_] rfl rfl fun _ => rfl
  | returns | starts | halts | resizes | spawns | completes =>
      exact .keeps [] rfl rfl fun _ => rfl
  | @rouses resized waking =>
      refine .keeps [] rfl rfl ?_
      rw [waking]
      cases resized <;> exact id
  | @waits resized count worker joining found finished =>
      refine .keeps [] rfl rfl ?_
      rw [joining]
      cases resized <;> exact id
  | @joins resized => cases resized <;> exact .keeps [] rfl rfl fun _ => rfl

namespace QueueStep

variable {pool after : Pool α} {move : Move α} {effects : List (Effect α)}

theorem conserves (moved : QueueStep pool move after effects) :
    pool.queue ++ accepted effects = removed effects ++ after.queue := by
  cases moved with
  | accepts task asked grown stage => exact grown.symm
  | refuses task asked same stage => exact (List.append_nil _).trans same.symm
  | takes worker task asked shorter stage => exact (List.append_nil _).trans shorter
  | clears asked stopping cleared => simp [accepted, removed, cleared]
  | calls call asked same opened => exact (List.append_nil _).trans same.symm
  | keeps lines unasked same resizing =>
      simp [accepted, removed, List.filterMap_map, List.flatMap_map, same]

theorem answers (moved : QueueStep pool move after effects) :
    answered effects = move.offered?.toList := by
  cases moved with
  | keeps lines unasked same resizing => simp [answered, List.filterMap_map, unasked]
  | accepts task asked | refuses task asked | takes worker task asked | clears asked
  | calls call asked =>
      subst asked
      rfl

theorem keeps_pending (moved : QueueStep pool move after effects)
    (resizing : pool.stage.stopping = false) : discarded effects = [] := by
  cases moved with
  | clears asked stopping cleared => simp [stopping, Stage.stopping] at resizing
  | keeps lines unasked same staying => simp [discarded, List.flatMap_map]
  | _ => rfl

theorem keeps_resizing (moved : QueueStep pool move after effects)
    (uncalled : ∀ call, move ≠ .call call) (resizing : pool.stage.stopping = false) :
    after.stage.stopping = false := by
  cases moved with
  | accepts task asked grown stage => rwa [stage]
  | refuses task asked same stage => rwa [stage]
  | takes worker task asked shorter stage => rwa [stage]
  | clears asked stopping cleared => simp [stopping, Stage.stopping] at resizing
  | calls call asked same opened => exact absurd asked (uncalled call)
  | keeps lines unasked same staying => exact staying resizing

end QueueStep

/-! ### Who is at which task -/

def takenBy (index : Nat) (effects : List (Effect α)) : List α :=
  effects.filterMap fun
    | .took worker task => if worker = index then some task else none
    | _ => none

def Holds (pool : Pool α) (index : Nat) (task : α) : Prop :=
  ∃ generation, pool.workers[index]? = some ⟨generation, .busy task⟩

theorem took_of_mem_takenBy {index : Nat} {effects : List (Effect α)} {task : α}
    (member : task ∈ takenBy index effects) : .took index task ∈ effects := by
  obtain ⟨effect, there, found⟩ := List.mem_filterMap.mp member
  cases effect with
  | took worker other =>
      simp only [Option.ite_none_right_eq_some, Option.some.injEq] at found
      obtain ⟨rfl, rfl⟩ := found
      exact there
  | _ => cases found

theorem taker_unique {index other : Nat} {effects : List (Effect α)} {task : α}
    (once : (taken effects).Nodup) (mine : .took index task ∈ effects)
    (yours : .took other task ∈ effects) : index = other := by
  have listed {worker : Nat} {rest : List (Effect α)} (member : .took worker task ∈ rest) :
      task ∈ taken rest := List.mem_filterMap.mpr ⟨_, member, rfl⟩
  induction effects with
  | nil => cases mine
  | cons effect rest ih =>
      cases effect with
      | took worker first =>
          obtain ⟨absent, once⟩ := List.nodup_cons.mp once
          rcases List.mem_cons.mp mine with here | later <;>
            rcases List.mem_cons.mp yours with there | latest
          · exact (Effect.took.inj here).1.trans (Effect.took.inj there).1.symm
          · obtain ⟨-, rfl⟩ := Effect.took.inj here
            exact absurd (listed latest) absent
          · obtain ⟨-, rfl⟩ := Effect.took.inj there
            exact absurd (listed later) absent
          · exact ih once later latest
      | _ =>
          refine ih once (List.mem_of_ne_of_mem ?_ mine) (List.mem_of_ne_of_mem ?_ yours) <;>
            exact nofun

section

variable {pool after : Pool α} {index : Nat} {task : α}

theorem Holds.of_set {other : Nat} {worker : Worker α}
    (holds : Holds after index task) (workers : after.workers = pool.workers.set other worker)
    (free : ∀ mine, worker.state ≠ .busy mine) : Holds pool index task := by
  obtain ⟨generation, here⟩ := holds
  rw [workers, List.getElem?_set] at here
  split at here
  · split at here
    · cases Option.some.inj here
      exact absurd rfl (free task)
    · cases here
  · exact ⟨generation, here⟩

theorem step_holds {move : Move α} {effects : List (Effect α)}
    (moved : pool.step move = some (after, effects)) (holds : Holds after index task) :
    takenBy index effects = [task] ∨ takenBy index effects = [] ∧ Holds pool index task := by
  cases step_moved moved with
  | accepts | refuses | misses | opens | returns | starts | stops | halts | resizes | waits | lacks
  | completes => exact .inr ⟨rfl, holds⟩
  | notifies | wakes | sleeps | leaves | dies =>
      exact .inr ⟨rfl, holds.of_set rfl (by rintro mine ⟨⟩)⟩
  | finishes found lines =>
      exact .inr ⟨by simp [takenBy, List.filterMap_map], holds.of_set rfl (by rintro mine ⟨⟩)⟩
  | @takes looker generation first rest found running waiting =>
      obtain ⟨generation, here⟩ := holds
      by_cases same : looker = index
      · subst same
        simp only [setWorker, List.getElem?_set, ↓reduceIte] at here
        split at here <;> cases here
        exact .inl (by simp [takenBy])
      · simp only [setWorker, List.getElem?_set_ne same] at here
        exact .inr ⟨by simp [takenBy, same], generation, here⟩
  | rouses waking =>
      obtain ⟨generation, here⟩ := holds
      simp only [List.getElem?_map, Option.map_eq_some_iff] at here
      obtain ⟨⟨other, state⟩, there, woken⟩ := here
      refine .inr ⟨rfl, generation, ?_⟩
      cases state with
      | busy mine => exact there.trans (congrArg some woken)
      | _ => cases woken
  | @joins resized =>
      obtain ⟨generation, here⟩ := holds
      cases resized <;> cases here
  | spawns spawning below =>
      obtain ⟨generation, here⟩ := holds
      refine .inr ⟨rfl, generation, ?_⟩
      rw [List.getElem?_append] at here
      split at here
      · exact here
      · cases List.mem_singleton.mp (List.mem_of_getElem? here)

end

/-! ### Whole runs -/

theorem run_cons {pool last : Pool α} {move : Move α} {rest : List (Move α)}
    {effects : List (Effect α)} (ran : pool.run (move :: rest) = some (last, effects)) :
    ∃ next first later, pool.step move = some (next, first) ∧
      next.run rest = some (last, later) ∧ effects = first ++ later := by
  simp only [run, Option.bind_eq_bind, Option.bind_eq_some_iff] at ran
  obtain ⟨⟨next, first⟩, moved, ⟨final, later⟩, continued, same⟩ := ran
  cases same
  exact ⟨next, first, later, moved, continued, rfl⟩

theorem run_append {pool last : Pool α} {before during : List (Move α)}
    {effects : List (Effect α)} (ran : pool.run (before ++ during) = some (last, effects)) :
    ∃ begun earlier later, pool.run before = some (begun, earlier) ∧
      begun.run during = some (last, later) ∧ effects = earlier ++ later := by
  induction before generalizing pool effects with
  | nil => exact ⟨pool, [], effects, rfl, ran, rfl⟩
  | cons move rest ih =>
      obtain ⟨next, first, remaining, moved, continued, rfl⟩ := run_cons ran
      obtain ⟨begun, earlier, later, reached, finished, rfl⟩ := ih continued
      refine ⟨begun, first ++ earlier, later, ?_, finished, (List.append_assoc ..).symm⟩
      simp [run, moved, reached]

theorem run_conserves {pool last : Pool α} {moves : List (Move α)} {effects : List (Effect α)}
    (ran : pool.run moves = some (last, effects)) :
    pool.queue ++ accepted effects = removed effects ++ last.queue := by
  induction moves generalizing pool effects with
  | nil =>
      cases ran
      exact List.append_nil _
  | cons move rest ih =>
      obtain ⟨next, first, later, moved, continued, rfl⟩ := run_cons ran
      have now := (step_queue moved).conserves
      calc pool.queue ++ accepted (first ++ later)
          = (pool.queue ++ accepted first) ++ accepted later := by
            simp only [accepted, List.filterMap_append, List.append_assoc]
        _ = removed first ++ (next.queue ++ accepted later) := by
            rw [now, List.append_assoc]
        _ = removed (first ++ later) ++ last.queue := by
            rw [ih continued]
            simp only [removed, List.flatMap_append, List.append_assoc]

theorem run_answers {pool last : Pool α} {moves : List (Move α)} {effects : List (Effect α)}
    (ran : pool.run moves = some (last, effects)) : answered effects = offers moves := by
  induction moves generalizing pool effects with
  | nil =>
      cases ran
      rfl
  | cons move rest ih =>
      obtain ⟨next, first, later, moved, continued, rfl⟩ := run_cons ran
      have now := (step_queue moved).answers
      have remaining := ih continued
      simp only [answered, List.filterMap_append] at now remaining ⊢
      rw [now, remaining]
      cases offered : move.offered? <;> simp [offers, offered]

theorem run_keeps_pending {pool last : Pool α} {moves : List (Move α)} {effects : List (Effect α)}
    (ran : pool.run moves = some (last, effects)) (uncalled : ∀ call, .call call ∉ moves)
    (resizing : pool.stage.stopping = false) : discarded effects = [] := by
  induction moves generalizing pool effects with
  | nil =>
      cases ran
      rfl
  | cons move rest ih =>
      obtain ⟨next, first, later, moved, continued, rfl⟩ := run_cons ran
      have other : ∀ call, move ≠ .call call := by
        intro call same
        exact uncalled call (same ▸ List.mem_cons_self)
      have now := (step_queue moved).keeps_pending resizing
      have remaining := ih continued (fun call member => uncalled call (.tail _ member))
        ((step_queue moved).keeps_resizing other resizing)
      simp only [discarded, List.flatMap_append] at now remaining ⊢
      rw [now, remaining, List.append_nil]

theorem run_holds {pool last : Pool α} {moves : List (Move α)} {effects : List (Effect α)}
    {index : Nat} {task : α} (ran : pool.run moves = some (last, effects))
    (holds : Holds last index task) :
    (takenBy index effects).getLast? = some task ∨
      takenBy index effects = [] ∧ Holds pool index task := by
  induction moves generalizing pool effects with
  | nil =>
      cases ran
      exact .inr ⟨rfl, holds⟩
  | cons move rest ih =>
      obtain ⟨next, first, later, moved, continued, rfl⟩ := run_cons ran
      have apart : takenBy index (first ++ later) = takenBy index first ++ takenBy index later :=
        List.filterMap_append
      rw [apart]
      rcases ih continued with took | ⟨nothing, held⟩
      · exact .inl (by rw [List.getLast?_append, took, Option.some_or])
      · rw [nothing, List.append_nil]
        exact (step_holds moved held).imp_left fun took => by rw [took]; rfl

theorem filter_eq_of_sublist {part whole : List α} {keep : α → Bool}
    (inside : part.Sublist whole) (distinct : whole.Nodup)
    (chosen : ∀ task ∈ whole, keep task = true ↔ task ∈ part) : whole.filter keep = part := by
  induction inside with
  | slnil => rfl
  | cons task inside ih =>
      obtain ⟨absent, distinct⟩ := List.nodup_cons.mp distinct
      have dropped : ¬ keep task = true :=
        fun kept => absent (inside.subset ((chosen task List.mem_cons_self).mp kept))
      rw [List.filter_cons_of_neg dropped]
      exact ih distinct fun other member => chosen other (.tail _ member)
  | cons_cons task inside ih =>
      obtain ⟨absent, distinct⟩ := List.nodup_cons.mp distinct
      have kept := (chosen task List.mem_cons_self).mpr List.mem_cons_self
      rw [List.filter_cons_of_pos kept]
      refine congrArg (task :: ·) (ih distinct ?_)
      intro other member
      have different : other ≠ task := fun same => absent (same ▸ member)
      exact (chosen other (.tail _ member)).trans (by simp [different])

/-! ### The accounts -/

open Classical in
/-- What the effects of a run, and the pool that it leaves, say of the tasks that were accepted.
Each is at one place, and only once: with a worker that took it, discarded, or in the queue. -/
structure Accounted (pool : Pool α) (effects : List (Effect α)) : Prop where
  distinct : (accepted effects).Nodup
  inOrder : taken effects =
    (accepted effects).filter fun task => task ∉ discarded effects ∧ task ∉ pool.queue
  onePlace : ∀ task ∈ accepted effects,
    (taken effects).count task + (discarded effects).count task + pool.queue.count task = 1
  noOthers : ∀ task, task ∉ accepted effects →
    task ∉ taken effects ∧ task ∉ discarded effects ∧ task ∉ pool.queue
  refusedStay : ∀ task ∈ refused effects, task ∉ taken effects
  discardedStay : ∀ earlier tasks later, effects = earlier ++ .discarded tasks :: later →
    ∀ task ∈ tasks, task ∉ taken later
  held : ∀ index task, Holds pool index task → (takenBy index effects).getLast? = some task
  heldOnce : ∀ index other task, Holds pool index task → Holds pool other task → index = other

theorem run_places {pool last : Pool α} {moves : List (Move α)} {effects : List (Effect α)}
    (ran : pool.run moves = some (last, effects)) :
    (pool.queue ++ accepted effects).Perm
      (taken effects ++ discarded effects ++ last.queue) := by
  rw [run_conserves ran]
  exact (removed_perm effects).append_right last.queue

theorem run_taken_sublist {pool last : Pool α} {moves : List (Move α)}
    {effects : List (Effect α)} (ran : pool.run moves = some (last, effects)) :
    (taken effects).Sublist (pool.queue ++ accepted effects) := by
  rw [run_conserves ran]
  exact (taken_sublist_removed effects).trans (List.sublist_append_left _ _)

theorem mem_taken_iff {taken discarded queue accepted : List α} {task : α}
    (places : accepted.Perm (taken ++ discarded ++ queue)) (distinct : accepted.Nodup)
    (member : task ∈ accepted) : task ∈ taken ↔ task ∉ discarded ∧ task ∉ queue := by
  have apart := places.nodup_iff.mp distinct
  have place := places.mem_iff.mp member
  simp only [List.nodup_append, List.mem_append] at apart place
  constructor
  · intro found
    exact ⟨fun gone => apart.1.2.2 task found task gone rfl,
      fun waiting => apart.2.2 task (.inl found) task waiting rfl⟩
  · rintro ⟨kept, unqueued⟩
    rcases place with (found | gone) | waiting
    · exact found
    · exact absurd gone kept
    · exact absurd waiting unqueued

theorem accounted_of_run {size : Nat} {moves : List (Move α)} {pool : Pool α}
    {effects : List (Effect α)} (ran : (ofSize size).run moves = some (pool, effects))
    (distinct : (offers moves).Nodup) : Accounted pool effects := by
  classical
  have places := run_places ran
  have inside := run_taken_sublist ran
  simp only [ofSize, List.nil_append] at places inside
  rw [← run_answers ran] at distinct
  have once := (accepted_sublist_answered effects).nodup distinct
  have held (index : Nat) (task : α) (holds : Holds pool index task) :
      (takenBy index effects).getLast? = some task := by
    refine (run_holds ran holds).resolve_right ?_
    rintro ⟨-, generation, there⟩
    cases there
  refine
    { distinct := once
      inOrder := ?_
      onePlace := ?_
      noOthers := ?_
      refusedStay := ?_
      discardedStay := ?_
      held := held
      heldOnce := ?_ }
  · refine (filter_eq_of_sublist inside once ?_).symm
    intro task member
    exact decide_eq_true_iff.trans (mem_taken_iff places once member).symm
  · intro task member
    have counted := places.count_eq task
    rw [List.count_eq_one_of_mem once member] at counted
    simp only [List.count_append] at counted
    exact counted.symm
  · intro task stranger
    have nowhere := fun place => stranger (places.mem_iff.mpr place)
    simp only [List.mem_append] at nowhere
    exact ⟨fun found => nowhere (.inl (.inl found)), fun gone => nowhere (.inl (.inr gone)),
      fun waiting => nowhere (.inr waiting)⟩
  · intro task turnedDown found
    have both := (answered_perm effects).nodup_iff.mp distinct
    exact (List.nodup_append.mp both).2.2 task (inside.subset found) task turnedDown rfl
  · rintro earlier tasks later rfl task gone found
    have apart := places.nodup_iff.mp once
    simp only [List.nodup_append, taken, discarded, List.filterMap_append, List.flatMap_append,
      List.filterMap_cons, List.flatMap_cons] at apart
    exact apart.1.2.2 task (List.mem_append_right _ found) task
      (List.mem_append_right _ (List.mem_append_left _ gone)) rfl
  · intro index other task here there
    exact taker_unique (inside.nodup once)
      (took_of_mem_takenBy (List.mem_of_getLast? (held index task here)))
      (took_of_mem_takenBy (List.mem_of_getLast? (held other task there)))

/-- In every run of a pool, whatever its moves, each task that was accepted has one place. Tasks
are told apart by their tickets. A pool that is resized keeps the tasks that wait, and their
order. -/
theorem run_accounted {size : Nat} {moves : List (Move α)} {pool : Pool α}
    {effects : List (Effect α)} (ran : (ofSize size).run moves = some (pool, effects)) :
    (∃ last events, (ofSize size).run (ticketed 0 moves) = some (last, events) ∧
      last.map Prod.snd = pool ∧ events.map (Effect.map Prod.snd) = effects ∧
      Accounted last events) ∧
    ∀ before requested during, moves = before ++ .call (.resize requested) :: during →
      (∀ call, .call call ∉ during) →
      ∃ begun earlier later, (ofSize size).run before = some (begun, earlier) ∧
        effects = earlier ++ later ∧ discarded later = [] ∧
        begun.queue ++ accepted later = taken later ++ pool.queue := by
  constructor
  · obtain ⟨last, events, found, pools, effects⟩ := exists_run_ticketed ran
    exact ⟨last, events, found, pools, effects,
      accounted_of_run found (nodup_offers_ticketed 0 moves)⟩
  · rintro before requested during rfl uncalled
    obtain ⟨begun, earlier, later, reached, resized, rfl⟩ := run_append ran
    obtain ⟨opened, first, remaining, moved, continued, rfl⟩ := run_cons resized
    have conserved := run_conserves resized
    simp only [step] at moved
    split at moved <;> cases moved
    rw [List.nil_append] at conserved
    have kept := run_keeps_pending continued uncalled rfl
    rw [removed_eq_taken kept] at conserved
    exact ⟨begun, earlier, remaining, reached, rfl, kept, conserved⟩

def beforeResize : List (Move String) :=
  [.call .start, .proceed, .proceed, .proceed, .enqueue "draw", .look 0, .enqueue "draw",
    .call .stop, .proceed, .proceed, .finish 0 none, .look 0, .proceed, .proceed,
    .call .start, .proceed, .proceed, .proceed, .enqueue "draw", .enqueue "print"]

def duringResize : List (Move String) :=
  [.proceed, .enqueue "late", .proceed, .look 0, .proceed, .proceed, .proceed, .proceed, .look 0]

theorem run_accounted_resize :
    ∃ pool effects,
      (ofSize 0).run (beforeResize ++ .call (.resize 0) :: duringResize) = some (pool, effects) ∧
      (∃ last events,
        (ofSize 0).run (ticketed 0 (beforeResize ++ .call (.resize 0) :: duringResize)) =
            some (last, events) ∧
          last.map Prod.snd = pool ∧ events.map (Effect.map Prod.snd) = effects ∧
          Accounted last events) ∧
      ∃ begun earlier later, (ofSize 0).run beforeResize = some (begun, earlier) ∧
        effects = earlier ++ later ∧ discarded later = [] ∧
        begun.queue ++ accepted later = taken later ++ pool.queue := by
  have possible : ((ofSize 0).run
      (beforeResize ++ .call (.resize 0) :: duringResize)).isSome = true := by decide
  obtain ⟨⟨pool, effects⟩, ran⟩ := Option.isSome_iff_exists.mp possible
  have accounts := run_accounted ran
  exact ⟨pool, effects, ran, accounts.1,
    accounts.2 beforeResize 0 duringResize rfl (by simp [duringResize])⟩

end HttpServer.Pool
