import HttpServer.Proofs.Pool.Wakeup

/-!
Tasks that come while a pool is resized. A resize stops the pool, waits for the workers, and starts
it again. In between, the pool accepts no task, so that a caller may be refused although nobody
stopped the pool for good. A task that was accepted is not lost: a resize discards nothing.
-/

namespace HttpServer.Pool

variable {α : Type}

/-- A resize has stopped the pool, and has yet to start it again. -/
def Halted (pool : Pool α) : Prop :=
  (∃ requested, pool.stage = .waking (some requested)) ∨
  (∃ requested count, pool.stage = .joining (some requested) count) ∨
  pool.stage = .opened .start ∧ pool.running = false

structure Lasting (pool : Pool α) : Prop where
  stays : pool.stage.stopping = false
  halted : pool.running = false → Halted pool

theorem QueueStep.stays {pool after : Pool α} {move : Move α} {effects : List (Effect α)}
    (moved : QueueStep pool move after effects) (unstopped : move ≠ .call .stop)
    (stays : pool.stage.stopping = false) : after.stage.stopping = false := by
  cases moved with
  | calls call asked same opened =>
      rw [opened]
      cases call with
      | stop => exact absurd asked unstopped
      | _ => rfl
  | accepts task asked grown stage => rwa [stage]
  | refuses task asked same stage => rwa [stage]
  | takes worker task asked shorter stage => rwa [stage]
  | clears asked stopping => simp [stopping, Stage.stopping] at stays
  | keeps lines unasked same staying => exact staying stays

theorem StaffStep.halted {pool after : Pool α} {move : Move α} {effects : List (Effect α)}
    (moved : StaffStep pool move after effects) (lasting : Lasting pool)
    (stopped : after.running = false) : Halted after := by
  have stays := lasting.stays
  cases moved with
  | attends uncalled size running generation stage =>
      have halted := lasting.halted (running.symm.trans stopped)
      rwa [Halted, stage, running]
  | ends | dies => exact lasting.halted stopped
  | halts opened running => exact .inl ⟨_, rfl⟩
  | rouses waking =>
      rename_i resized
      cases resized with
      | none => simp [waking, Stage.stopping] at stays
      | some requested => exact .inr (.inl ⟨requested, 0, rfl⟩)
  | waits joining found finished =>
      rename_i resized count worker
      cases resized with
      | none => simp [joining, Stage.stopping] at stays
      | some requested => exact .inr (.inl ⟨requested, count + 1, rfl⟩)
  | joins joining all =>
      rename_i resized count
      cases resized with
      | none => simp [joining, Stage.stopping] at stays
      | some requested => exact .inr (.inr ⟨rfl, stopped⟩)
  | starts => cases stopped
  | stops opened => simp [opened, Stage.stopping] at stays
  | returns opened done =>
      obtain ⟨running, -⟩ | ⟨-, rfl⟩ := done
      · cases running.symm.trans stopped
      · simp [opened, Stage.stopping] at stays
  | opens stage | resizes stage | spawns stage | lacks stage | completes stage =>
      -- These do not find a pool that a resize has halted.
      have halted := lasting.halted stopped
      simp [Halted, stage] at halted

theorem step_lasting {pool after : Pool α} {move : Move α} {effects : List (Effect α)}
    (moved : pool.step move = some (after, effects)) (unstopped : move ≠ .call .stop)
    (lasting : Lasting pool) : Lasting after ∧ discarded effects = [] :=
  ⟨⟨(step_queue moved).stays unstopped lasting.stays, (step_staff moved).halted lasting⟩,
    (step_queue moved).keeps_pending lasting.stays⟩

theorem run_lasting {pool last : Pool α} {moves : List (Move α)} {effects : List (Effect α)}
    (ran : pool.run moves = some (last, effects)) (unstopped : .call .stop ∉ moves)
    (lasting : Lasting pool) : Lasting last ∧ discarded effects = [] := by
  induction moves generalizing pool effects with
  | nil =>
      cases ran
      exact ⟨lasting, rfl⟩
  | cons move rest ih =>
      obtain ⟨next, first, later, moved, continued, rfl⟩ := run_cons ran
      obtain ⟨now, kept⟩ := step_lasting moved (List.ne_of_not_mem_cons unstopped).symm lasting
      obtain ⟨still, remaining⟩ := ih continued (List.not_mem_of_not_mem_cons unstopped) now
      refine ⟨still, ?_⟩
      simp only [discarded, List.flatMap_append] at kept remaining ⊢
      rw [kept, remaining, List.append_nil]

theorem Watch.stopped_of_halted {pool : Pool α} (here : Watch pool pool.stage)
    (halted : Halted pool) : pool.running = false := by
  rcases halted with ⟨requested, stage⟩ | ⟨requested, count, stage⟩ | ⟨stage, stopped⟩
  · rw [stage] at here
    cases here with
    | vacant between | kept between => simp at between
    | waking stopped => exact stopped
  · rw [stage] at here
    cases here with
    | vacant between | kept between => simp at between
    | joining stopped => exact stopped
  · exact stopped

/-! ### Tickets -/

theorem ticketed_append (ticket : Nat) (before during : List (Move α)) :
    ticketed ticket (before ++ during) =
      ticketed ticket before ++ ticketed (ticket + before.length) during := by
  induction before generalizing ticket with
  | nil => rfl
  | cons move rest ih =>
      have shifted := ih (ticket + 1)
      rw [Nat.add_right_comm] at shifted
      simp only [List.cons_append, ticketed, shifted, List.length_cons, Nat.add_assoc]

theorem exists_run_onward {first : Pool (Nat × α)} {last : Pool α} {moves : List (Move α)}
    {effects : List (Effect α)} (ran : (first.map Prod.snd).run moves = some (last, effects))
    (ticket : Nat) :
    ∃ final events, first.run (ticketed ticket moves) = some (final, events) ∧
      final.map Prod.snd = last ∧ events.map (Effect.map Prod.snd) = effects := by
  have renamed := run_map Prod.snd first (ticketed ticket moves)
  rw [map_snd_ticketed, ran] at renamed
  obtain ⟨⟨final, events⟩, found, same⟩ := Option.map_eq_some_iff.mp renamed.symm
  simp only [mapResult, Prod.mk.injEq] at same
  exact ⟨final, events, found, same⟩

theorem discarded_map {β : Type} (f : α → β) (effects : List (Effect α)) :
    discarded (effects.map (Effect.map f)) = (discarded effects).map f := by
  induction effects with
  | nil => rfl
  | cons effect rest ih =>
      simp only [discarded] at ih
      cases effect <;> simp [discarded, Effect.map, ih]

open Classical in
structure Kept (last : Pool α) (effects : List (Effect α)) : Prop where
  onePlace : ∀ task ∈ accepted effects,
    (taken effects).count task + last.queue.count task = 1
  refusedStay : ∀ task ∈ refused effects, task ∉ taken effects ∧ task ∉ last.queue

theorem kept_of_run {pool last : Pool α} {moves : List (Move α)} {effects : List (Effect α)}
    (ran : pool.run moves = some (last, effects)) (kept : discarded effects = [])
    (distinct : (offers moves).Nodup) (fresh : ∀ task ∈ pool.queue, task ∉ offers moves) :
    Kept last effects := by
  classical
  have conserved := run_conserves ran
  rw [removed_eq_taken kept] at conserved
  rw [← run_answers ran] at distinct fresh
  have offered := accepted_sublist_answered effects
  have apart := List.nodup_append.mp ((answered_perm effects).nodup_iff.mp distinct)
  constructor
  · intro task member
    have unqueued : task ∉ pool.queue :=
      fun waiting => fresh task waiting (offered.subset member)
    have counted := congrArg (List.count task) conserved
    rw [List.count_append, List.count_append, List.count_eq_zero_of_not_mem unqueued,
      List.count_eq_one_of_mem (offered.nodup distinct) member] at counted
    exact counted.symm
  · intro task turnedDown
    have unaccepted : task ∉ accepted effects :=
      fun member => apart.2.2 task member task turnedDown rfl
    have answer : task ∈ answered effects :=
      (answered_perm effects).mem_iff.mpr (List.mem_append_right _ turnedDown)
    have unqueued : task ∉ pool.queue := fun waiting => fresh task waiting answer
    have nowhere : task ∉ taken effects ++ last.queue := by
      rw [← conserved, List.mem_append]
      exact not_or.mpr ⟨unqueued, unaccepted⟩
    exact not_or.mp (mt List.mem_append.mpr nowhere)

theorem mem_offers_of_queued {size : Nat} {moves : List (Move α)} {pool : Pool α}
    {effects : List (Effect α)} (ran : (ofSize size).run moves = some (pool, effects)) {task : α}
    (waiting : task ∈ pool.queue) : task ∈ offers moves := by
  have conserved := run_conserves ran
  rw [← run_answers ran]
  refine (accepted_sublist_answered effects).subset ?_
  simp only [ofSize, List.nil_append] at conserved
  rw [conserved]
  exact List.mem_append_right _ waiting

/-! ### Every run without a stop -/

/-- Once a pool was started and as long as nobody stops it, a task is refused just while a resize
has halted the pool. A task that is accepted waits in the queue or was taken once, and one that is
refused is never taken. Tasks are told apart by their tickets. -/
theorem accepted_kept_through_resizes {size : Nat} {before during : List (Move α)}
    {begun pool : Pool α} {earlier effects : List (Effect α)}
    (started : (ofSize size).run before = some (begun, earlier)) (idle : begun.stage = .idle)
    (running : begun.running = true) (ran : begun.run during = some (pool, effects))
    (unstopped : .call .stop ∉ during) :
    (∀ task, Halted pool → pool.step (.enqueue task) = some (pool, [.refused task])) ∧
    (∀ task, ¬Halted pool → ∃ after, pool.step (.enqueue task) = some (after, [.accepted task])) ∧
    ∃ first former last events,
      (ofSize size).run (ticketed 0 before) = some (first, former) ∧
      first.run (ticketed before.length during) = some (last, events) ∧
      last.map Prod.snd = pool ∧ events.map (Effect.map Prod.snd) = effects ∧
      Kept last events := by
  have lasting : Lasting begun :=
    ⟨by rw [idle]; rfl, fun stopped => absurd (running.symm.trans stopped) nofun⟩
  obtain ⟨still, kept⟩ := run_lasting ran unstopped lasting
  refine ⟨?_, ?_, ?_⟩
  · intro task halted
    have watch := run_watch ran (run_watch started (watch_ofSize size))
    simp [step, watch.stopped_of_halted halted]
  · intro task open_
    have accepts : pool.running = true := by
      by_contra stopped
      exact open_ (still.halted (Bool.eq_false_iff.mpr stopped))
    simp [step, accepts]
  · obtain ⟨first, former, reached, rfl, -⟩ := exists_run_ticketed started
    obtain ⟨last, events, onward, pools, same⟩ := exists_run_onward ran before.length
    refine ⟨first, former, last, events, reached, onward, pools, same, ?_⟩
    have apart := nodup_offers_ticketed 0 (before ++ during)
    rw [ticketed_append, Nat.zero_add] at apart
    simp only [offers, List.filterMap_append] at apart
    obtain ⟨-, distinct, fresh⟩ := List.nodup_append.mp apart
    refine kept_of_run onward ?_ distinct ?_
    · rw [← same, discarded_map] at kept
      exact List.map_eq_nil_iff.mp kept
    · intro task waiting offered
      exact fresh task (mem_offers_of_queued reached waiting) task offered rfl

def startedAndBusy : List (Move String) :=
  [.call .start, .proceed, .proceed, .proceed, .enqueue "draw", .look 0, .enqueue "draw"]

def resizedWhileBusy : List (Move String) :=
  [.enqueue "print", .call (.resize 2), .proceed, .enqueue "late", .proceed, .finish 0 none,
    .look 0, .proceed, .proceed, .proceed, .proceed, .proceed, .proceed, .look 1, .enqueue "save"]

theorem accepted_kept_through_resizes_busy :
    ∃ begun pool earlier effects, (ofSize 1).run startedAndBusy = some (begun, earlier) ∧
      begun.stage = .idle ∧ begun.running = true ∧
      begun.run resizedWhileBusy = some (pool, effects) ∧ .call .stop ∉ resizedWhileBusy ∧
      (∀ task, Halted pool → pool.step (.enqueue task) = some (pool, [.refused task])) ∧
      (∀ task, ¬Halted pool →
        ∃ after, pool.step (.enqueue task) = some (after, [.accepted task])) ∧
      ∃ first former last events,
        (ofSize 1).run (ticketed 0 startedAndBusy) = some (first, former) ∧
        first.run (ticketed startedAndBusy.length resizedWhileBusy) = some (last, events) ∧
        last.map Prod.snd = pool ∧ events.map (Effect.map Prod.snd) = effects ∧
        Kept last events := by
  have possible : ((ofSize 1).run startedAndBusy).any (fun begun =>
      begun.1.stage = .idle ∧ begun.1.running = true ∧
        (begun.1.run resizedWhileBusy).isSome = true) = true := by decide
  obtain ⟨⟨begun, earlier⟩, started, state⟩ := (Option.any_eq_true _ _).mp possible
  simp only [decide_eq_true_eq] at state
  obtain ⟨idle, running, goes⟩ := state
  obtain ⟨⟨pool, effects⟩, ran⟩ := Option.isSome_iff_exists.mp goes
  have unstopped : .call .stop ∉ resizedWhileBusy := by simp [resizedWhileBusy]
  exact ⟨begun, pool, earlier, effects, started, idle, running, ran, unstopped,
    accepted_kept_through_resizes started idle running ran unstopped⟩

/-- The task that comes while the pool is halted is refused, although the pool was started and
nobody stops it, and no worker takes it after the resize. -/
theorem refused_while_halted :
    ∃ begun earlier, (ofSize 1).run startedAndBusy = some (begun, earlier) ∧
      begun.stage = .idle ∧ begun.running = true ∧
      ∃ pool effects, begun.run resizedWhileBusy = some (pool, effects) ∧
        .call .stop ∉ resizedWhileBusy ∧ .enqueue "late" ∈ resizedWhileBusy ∧
        refused effects = ["late"] ∧ pool.stage = .idle ∧ pool.running = true ∧
        "late" ∉ taken effects ∧ "late" ∉ pool.queue := by
  refine ⟨_, _, rfl, rfl, rfl, _, _, rfl, ?_⟩
  decide

end HttpServer.Pool
