import HttpServer.Proofs.Server.Steps

/-!
A stop is not lost. A stop takes the mark from the server first, and looks for a listener only
then; a start call makes its listener known first, and looks at the mark only then. So whichever
way the two fall, one of them finds the other, and the listener is closed or about to be. From a
listener that was closed no further connection is handed on.
-/

namespace HttpServer

def StopStage.isAimedAt (published : Option Nat) (index : Nat) : StopStage → Bool
  | .lookUp => published = some index
  | .close start => start = index
  | .clear | .returned => false

def StartStage.isRecheck : StartStage → Bool
  | .recheck => true
  | _ => false

namespace Activity

def Aimed (activity : Activity) (index : Nat) : Prop :=
  ∃ stop ∈ activity.stops, stop.isAimedAt activity.server.published index = true

/-- A listener is closed when it is stopped. If its start call panicked, it is also closed when
nobody has it any more: neither the server that made it known nor a stop call that found it. -/
def IsClosed (activity : Activity) (index : Nat) (call : StartCall) : Prop :=
  call.listener.running = false ∨
    (call.stage.ending? = some .panicked ∧ activity.server.published ≠ some index ∧
      .close index ∉ activity.stops)

def takesMark (index : Nat) (activity : Activity) : Move → Bool
  | .proceedStop stop => activity.stops[stop]? = some .clear && activity.server.running &&
      activity.phases[index]?.any Phase.isEngaged
  | _ => false

def rechecks (index : Nat) (activity : Activity) : Move → Bool
  | .proceed caller =>
    caller = index && activity.starts[index]?.any fun call => call.stage.isRecheck
  | _ => false

def happens (event : Activity → Move → Bool) (activity : Activity) : List Move → Bool
  | [] => false
  | move :: rest => event activity move ||
      (activity.step move).any fun reached => happens event reached.1 rest

/-- How a start call stands to the stops: `marked` if one of them took the mark from the server,
`checked` if the call has looked at the mark again. -/
def Heeds (activity : Activity) (marked checked : Bool) (call : StartCall) : Prop :=
  match call.stage with
  | .load .. | .enter => marked = false ∧ checked = false
  | .bind | .listen | .publish | .fail _ =>
    checked = false ∧ (marked = true → activity.server.running = false)
  | .recheck =>
    checked = false ∧ activity.server.published = some 0 ∧
      (marked = true → activity.server.running = false)
  | .startPool | .announce | .loop | .await | .received _ | .hand _ =>
    activity.server.published = some 0 ∧
      (marked = true → call.listener.running = false ∨ activity.Aimed 0)
  | .stopPool | .conclude => call.listener.running = false
  | .clearRunning ending | .withdraw ending =>
    checked = false ∨ call.listener.running = false ∨
      (ending = .panicked ∧ activity.server.published = some 0 ∧
        (marked = true → activity.Aimed 0))
  | .releasePool ending | .returned ending =>
    checked = false ∨ call.listener.running = false ∨
      (ending = .panicked ∧ activity.server.published = none)

theorem mem_set_of_ne {α : Type} {entries : List α} {index : Nat} {old new entry : α}
    (here : entries[index]? = some old) (member : entry ∈ entries) (different : entry ≠ old) :
    entry ∈ entries.set index new := by
  obtain ⟨place, found⟩ := List.mem_iff_getElem?.mp member
  have elsewhere : index ≠ place := by
    rintro rfl
    exact different (Option.some.inj (found.symm.trans here))
  exact List.mem_iff_getElem?.mpr ⟨place, by rw [List.getElem?_set_ne elsewhere, found]⟩

theorem Aimed.set {activity : Activity} {index stop : Nat} {old new : StopStage} {server : Server}
    (aimed : activity.Aimed index) (here : activity.stops[stop]? = some old)
    (published : server.published = activity.server.published)
    (kept : old.isAimedAt activity.server.published index = true →
      new.isAimedAt activity.server.published index = true) :
    ({ activity with server, stops := activity.stops.set stop new } : Activity).Aimed index := by
  obtain ⟨aiming, member, aims⟩ := aimed
  rw [← published] at aims kept
  by_cases same : aiming = old
  · subst same
    exact ⟨new, List.mem_set (List.getElem?_eq_some_iff.mp here).1 new, kept aims⟩
  · exact ⟨aiming, mem_set_of_ne here member same, aims⟩

namespace Heeds

variable {activity after : Activity} {marked checked : Bool} {call next : StartCall}

theorem beside {taken : Bool} (heeds : Heeds activity marked checked call)
    (stage : next.stage = call.stage)
    (silent : call.listener.running = false → next.listener.running = false)
    (idle : activity.server.running = false → after.server.running = false)
    (published : after.server.published = activity.server.published)
    (aimed : activity.Aimed 0 → next.listener.running = false ∨ after.Aimed 0)
    (takes : taken = true → call.stage.phase.isEngaged = true ∧ after.server.running = false ∧
      (activity.server.published = some 0 → after.Aimed 0)) :
    Heeds after (marked || taken) checked next := by
  have unmarked : marked = false → call.stage.phase.isEngaged = false →
      (marked || taken) = false := by
    intro unmarked outside
    cases taken with
    | true => exact nomatch outside.symm.trans (takes rfl).1
    | false => rw [unmarked, Bool.or_false]
  have marks {known : Prop} (earlier : marked = true → known) (now : taken = true → known)
      (either : (marked || taken) = true) : known :=
    (Bool.or_eq_true _ _ ▸ either).elim earlier now
  unfold Heeds at heeds ⊢
  rw [stage]
  cases here : call.stage with
  | load certificatePath keyPath | enter =>
      rw [here] at heeds unmarked
      exact ⟨unmarked heeds.1 rfl, heeds.2⟩
  | bind | listen | publish | fail error =>
      rw [here] at heeds
      exact ⟨heeds.1, marks (fun earlier => idle (heeds.2 earlier)) fun now => (takes now).2.1⟩
  | recheck =>
      rw [here] at heeds
      obtain ⟨unchecked, known, still⟩ := heeds
      exact ⟨unchecked, published.trans known,
        marks (fun earlier => idle (still earlier)) fun now => (takes now).2.1⟩
  | startPool | announce | loop | await | received arrival | hand connection =>
      rw [here] at heeds
      obtain ⟨known, heard⟩ := heeds
      refine ⟨published.trans known, marks (fun earlier => ?_) fun now =>
        .inr ((takes now).2.2 known)⟩
      exact (heard earlier).elim (fun closed => .inl (silent closed)) aimed
  | stopPool | conclude =>
      rw [here] at heeds
      exact silent heeds
  | clearRunning ending | withdraw ending =>
      rw [here] at heeds
      obtain unchecked | closed | ⟨panicked, known, heard⟩ := heeds
      · exact .inl unchecked
      · exact .inr (.inl (silent closed))
      · cases closed : next.listener.running with
        | false => exact .inr (.inl rfl)
        | true =>
            refine .inr (.inr ⟨panicked, published.trans known, marks (fun earlier => ?_)
              fun now => (takes now).2.2 known⟩)
            rcases aimed (heard earlier) with silenced | still
            · exact nomatch silenced.symm.trans closed
            · exact still
  | releasePool ending | returned ending =>
      rw [here] at heeds
      obtain unchecked | closed | ⟨panicked, hidden⟩ := heeds
      · exact .inl unchecked
      · exact .inr (.inl (silent closed))
      · exact .inr (.inr ⟨panicked, published.trans hidden⟩)

theorem isRecheck_of_isServing {stage : StartStage} (serving : stage.isServing = true) :
    stage.isRecheck = false := by
  cases stage with
  | startPool | announce | loop | await | received arrival | hand connection => rfl
  | _ => cases serving

theorem of_isServing (serving : next.stage.isServing = true) : Heeds activity marked checked next ↔
    activity.server.published = some 0 ∧
      (marked = true → next.listener.running = false ∨ activity.Aimed 0) := by
  unfold Heeds
  cases stage : next.stage with
  | startPool | announce | loop | await | received arrival | hand connection => rfl
  | _ =>
      rw [stage] at serving
      cases serving

theorem panicked (heeds : Heeds activity marked checked call)
    (inside : call.stage.isInside = true) :
    Heeds (activity.setStart 0 { call with stage := .clearRunning .panicked }) marked checked
      { call with stage := .clearRunning .panicked } := by
  unfold Heeds at heeds
  cases stage : call.stage with
  | load certificatePath keyPath | enter | clearRunning ending | withdraw ending
  | releasePool ending | returned ending =>
      rw [stage] at inside
      cases inside
  | bind | listen | publish | fail error | recheck =>
      rw [stage] at heeds
      exact .inl heeds.1
  | startPool | announce | loop | await | received arrival | hand connection =>
      rw [stage] at heeds
      obtain ⟨known, heard⟩ := heeds
      cases closed : call.listener.running with
      | false => exact .inr (.inl closed)
      | true =>
          refine .inr (.inr ⟨rfl, known, fun earlier => ?_⟩)
          exact (heard earlier).resolve_left fun silent => nomatch silent.symm.trans closed
  | stopPool | conclude =>
      rw [stage] at heeds
      exact .inr (.inl heeds)

theorem proceeds {move : Move} {server : Server} {effects : List Effect}
    (heeds : Heeds activity marked checked call) (here : activity.starts[0]? = some call)
    (proceeds : Proceeds 0 activity.server call move next server effects) :
    Heeds ((activity.setStart 0 next).setServer server) marked (checked || rechecks 0 activity move)
      next := by
  have same (other : call.stage.isRecheck = false) :
      (checked || rechecks 0 activity move) = checked := by
    cases move with
    | proceed caller => simp [rechecks, here, other]
    | _ => exact Bool.or_false checked
  have old := heeds
  unfold Heeds at heeds
  cases proceeds with
  | loaded stage =>
      rw [stage] at heeds same
      exact ⟨heeds.1, (same rfl).trans heeds.2⟩
  | unloaded stage =>
      rw [stage] at heeds same
      exact .inl ((same rfl).trans heeds.2)
  | refused stage running =>
      rw [stage] at heeds
      exact .inl ((same (by rw [stage]; rfl)).trans heeds.2)
  | admitted stage idle =>
      rw [stage] at heeds same
      exact ⟨(same rfl).trans heeds.2, fun earlier => nomatch earlier.symm.trans heeds.1⟩
  | bound stage silent | listened stage =>
      rw [stage] at heeds same
      exact ⟨(same rfl).trans heeds.1, heeds.2⟩
  | denied caller stage other =>
      rcases stage with stage | stage
      all_goals
        rw [stage] at heeds same
        exact ⟨(same rfl).trans heeds.1, heeds.2⟩
  | published stage =>
      rw [stage] at heeds same
      exact ⟨(same rfl).trans heeds.1, rfl, heeds.2⟩
  | confirmed stage running =>
      -- The mark is there, so nobody has taken it yet: who takes it later finds the listener.
      rw [stage] at heeds
      exact ⟨heeds.2.1, fun earlier => nomatch running.symm.trans (heeds.2.2 earlier)⟩
  | recalled stage stopped =>
      rw [stage] at heeds
      exact ⟨heeds.2.1, fun _ => .inl rfl⟩
  | served caller before after kept takes hands =>
      rw [same (isRecheck_of_isServing before)]
      exact (of_isServing after).mpr ((of_isServing before).mp old)
  | closed before silent => exact silent
  | stopped stage =>
      rw [stage] at heeds
      exact heeds
  | concluded stage =>
      rw [stage] at heeds
      exact .inr (.inl heeds)
  | failed stage =>
      rw [stage] at heeds same
      exact .inl ((same rfl).trans heeds.1)
  | panicked inside =>
      rw [show (checked || rechecks 0 activity (.panic 0)) = checked from Bool.or_false checked]
      exact old.panicked inside
  | cleared stage =>
      rw [stage] at heeds same
      rw [same rfl]
      exact heeds
  | withdrew stage =>
      rw [stage] at heeds same
      rw [same rfl]
      exact heeds.imp id fun closed => closed.imp id fun left => ⟨left.1, rfl⟩
  | released stage =>
      rw [stage] at heeds same
      rw [same rfl]
      exact heeds

end Heeds

theorem takesMark_of_caller {activity : Activity} {move : Move} {index caller : Nat}
    (called : move.caller? = some caller) : takesMark index activity move = false := by
  cases move with
  | proceedStop stop => cases called
  | _ => rfl

theorem rechecks_of_nobody {activity : Activity} {move : Move} {index : Nat}
    (nobody : move.caller? = none) : rechecks index activity move = false := by
  cases move with
  | proceed caller => cases nobody
  | _ => rfl

theorem stopStart_only {activity : Activity} {call : StartCall} (only : activity.starts = [call])
    (index : Nat) :
    ∃ next, (activity.stopStart index).starts = [next] ∧ next.stage = call.stage ∧
      (call.listener.running = false ∨ index = 0 → next.listener.running = false) ∧
      (activity.stopStart index).stops = activity.stops := by
  unfold stopStart
  cases index with
  | zero =>
      refine ⟨{ call with listener := call.listener.stop }, ?_⟩
      simp [only, setStart, Listener.stop]
  | succ other =>
      refine ⟨call, ?_⟩
      simp [only]

theorem eq_of_only {activity : Activity} {call other : StartCall} (only : activity.starts = [call])
    {index : Nat} (here : activity.starts[index]? = some other) : index = 0 ∧ other = call := by
  rw [only] at here
  cases index with
  | zero => exact ⟨rfl, (Option.some.inj here).symm⟩
  | succ more => cases here

theorem step_heeds {activity after : Activity} {marked checked : Bool} {call : StartCall}
    {move : Move} {effects : List Effect} (moved : activity.step move = some (after, effects))
    (alone : ∀ host port identity, move ≠ .start host port identity)
    (only : activity.starts = [call]) (heeds : Heeds activity marked checked call) :
    ∃ next, after.starts = [next] ∧
      Heeds after (marked || takesMark 0 activity move) (checked || rechecks 0 activity move)
        next := by
  cases step_moved moved with
  | called host port identity => exact absurd rfl (alone host port identity)
  | proceeded here proceeds =>
      obtain ⟨rfl, rfl⟩ := eq_of_only only here
      rw [takesMark_of_caller proceeds.caller, Bool.or_false]
      exact ⟨_, by simp [setStart, setServer, only], heeds.proceeds (by rw [only]; rfl) proceeds⟩
  | stopCalled =>
      refine ⟨call, only, ?_⟩
      rw [rechecks_of_nobody rfl, Bool.or_false]
      refine heeds.beside rfl id id rfl (fun aimed => .inr ?_) fun taken => by cases taken
      obtain ⟨aiming, member, aims⟩ := aimed
      exact ⟨aiming, List.mem_append_left _ member, aims⟩
  | cleared here running =>
      -- The stop that takes the mark looks for the listener next, so it is aimed at once.
      refine ⟨call, only, ?_⟩
      rw [rechecks_of_nobody rfl, Bool.or_false]
      refine heeds.beside rfl id (fun _ => rfl) rfl (fun aimed => .inr ?_) fun taken => ?_
      · exact aimed.set here rfl fun aims => by cases aims
      · have engaged : call.stage.phase.isEngaged = true := by
          simpa [takesMark, here, running, phases, only] using taken
        refine ⟨engaged, rfl, fun published => ⟨.lookUp, ?_, ?_⟩⟩
        · exact List.mem_set (List.getElem?_eq_some_iff.mp here).1 _
        · exact decide_eq_true published
  | idled here idle =>
      refine ⟨call, only, ?_⟩
      rw [rechecks_of_nobody rfl, Bool.or_false]
      refine heeds.beside rfl id id rfl (fun aimed => .inr ?_) fun taken => ?_
      · exact aimed.set here rfl fun aims => by cases aims
      · simp [takesMark, idle] at taken
  | found here published =>
      refine ⟨call, only, ?_⟩
      rw [rechecks_of_nobody rfl, Bool.or_false]
      refine heeds.beside rfl id id rfl (fun aimed => .inr ?_) fun taken => ?_
      · refine aimed.set here rfl fun aims => ?_
        simpa [StopStage.isAimedAt, published] using aims
      · simp [takesMark, here] at taken
  | missed here hidden =>
      refine ⟨call, only, ?_⟩
      rw [rechecks_of_nobody rfl, Bool.or_false]
      refine heeds.beside rfl id id rfl (fun aimed => .inr ?_) fun taken => ?_
      · refine aimed.set here rfl fun aims => ?_
        simp [StopStage.isAimedAt, hidden] at aims
      · simp [takesMark, here] at taken
  | @closed stop index here =>
      have before : ({ activity with
          stops := activity.stops.set stop .returned } : Activity).starts = [call] := only
      obtain ⟨next, starts, stage, silent, stops⟩ := stopStart_only before index
      refine ⟨next, starts, ?_⟩
      rw [rechecks_of_nobody rfl, Bool.or_false]
      have server := server_stopStart { activity with stops := activity.stops.set stop .returned }
        index
      refine heeds.beside stage (fun closed => silent (.inl closed)) (by simp [server])
        (by rw [server]) (fun aimed => ?_) fun taken => ?_
      · by_cases ours : index = 0
        · exact .inl (silent (.inr ours))
        · refine .inr ?_
          obtain ⟨aiming, member, aims⟩ := aimed
          have other : aiming ≠ .close index := by
            rintro rfl
            exact ours (of_decide_eq_true aims)
          rw [Aimed, stops, server]
          exact ⟨aiming, mem_set_of_ne here member other, aims⟩
      · simp [takesMark, here] at taken
  | pooled pooling tidy size nothing =>
      refine ⟨call, only, ?_⟩
      rw [rechecks_of_nobody (caller?_of_isPooling pooling), Bool.or_false]
      refine heeds.beside rfl id id rfl .inr fun taken => ?_
      cases move with
      | proceedStop stop => cases pooling
      | _ => cases taken

theorem run_heeds {activity last : Activity} {marked checked : Bool} {call : StartCall}
    {moves : List Move} {effects : List Effect} (ran : activity.run moves = some (last, effects))
    (alone : ∀ host port identity, .start host port identity ∉ moves)
    (only : activity.starts = [call]) (heeds : Heeds activity marked checked call) :
    ∃ next, last.starts = [next] ∧
      Heeds last (marked || activity.happens (takesMark 0) moves)
        (checked || activity.happens (rechecks 0) moves) next := by
  induction moves generalizing activity marked checked call effects with
  | nil =>
      cases ran
      exact ⟨call, only, by simpa [happens] using heeds⟩
  | cons move rest ih =>
      obtain ⟨reached, first, later, moved, continued, rfl⟩ := run_cons ran
      have first (host port identity) : move ≠ .start host port identity := fun same =>
        alone host port identity (same ▸ List.mem_cons_self)
      obtain ⟨next, starts, kept⟩ := step_heeds moved first only heeds
      have onward := ih continued (fun host port identity member =>
        alone host port identity (List.mem_cons_of_mem _ member)) starts kept
      simpa [happens, moved, Bool.or_assoc] using onward

theorem Heeds.closed {activity : Activity} {call : StartCall}
    (heeds : Heeds activity true true call) : activity.IsClosed 0 call ∨ activity.Aimed 0 := by
  unfold Heeds at heeds
  cases stage : call.stage with
  | load certificatePath keyPath | enter | bind | listen | publish | fail error | recheck =>
      rw [stage] at heeds
      exact nomatch heeds
  | startPool | announce | loop | await | received arrival | hand connection =>
      rw [stage] at heeds
      exact (heeds.2 rfl).imp .inl id
  | stopPool | conclude =>
      rw [stage] at heeds
      exact .inl (.inl heeds)
  | clearRunning ending | withdraw ending =>
      rw [stage] at heeds
      obtain unchecked | closed | ⟨-, -, aimed⟩ := heeds
      · cases unchecked
      · exact .inl (.inl closed)
      · exact .inr (aimed rfl)
  | releasePool ending | returned ending =>
      rw [stage] at heeds
      obtain unchecked | closed | ⟨panicked, hidden⟩ := heeds
      · cases unchecked
      · exact .inl (.inl closed)
      · by_cases found : .close 0 ∈ activity.stops
        · exact .inr ⟨.close 0, found, rfl⟩
        · refine .inl (.inr ⟨?_, by rw [hidden]; nofun, found⟩)
          rw [stage, panicked]
          rfl

/-! ### What arrives too late -/

structure Deaf (call : StartCall) : Prop where
  silent : call.listener.running = false
  unhanded : call.stage.isHanding = false
  opened : call.stage.phase ≠ .waiting ∧ call.stage.phase ≠ .opening

theorem phase_of_isServing {stage : StartStage} (serving : stage.isServing = true) :
    stage.phase ≠ .waiting ∧ stage.phase ≠ .opening := by
  cases stage with
  | startPool | announce | loop | await | received arrival | hand connection => exact ⟨nofun, nofun⟩
  | _ => cases serving

theorem Proceeds.hander {index other : Nat} {server after : Server} {call next : StartCall}
    {move : Move} {effects : List Effect}
    (proceeds : Proceeds index server call move next after effects)
    (member : other ∈ handers effects) : other = index := by
  cases proceeds with
  | served caller before after kept takes hands => exact (hands other member).1
  | _ => cases member

theorem Deaf.proceeds {index : Nat} {server after : Server} {call next : StartCall} {move : Move}
    {effects : List Effect} (deaf : Deaf call)
    (proceeds : Proceeds index server call move next after effects) :
    Deaf next ∧ handers effects = [] := by
  obtain ⟨silent, unhanded, unentered, unopened⟩ := deaf
  cases proceeds with
  | loaded stage | unloaded stage | refused stage | admitted stage =>
      rw [stage] at unentered
      exact absurd rfl unentered
  | bound stage | listened stage | published stage =>
      rw [stage] at unopened
      exact absurd rfl unopened
  | denied caller stage =>
      rcases stage with stage | stage
      all_goals
        rw [stage] at unopened
        exact absurd rfl unopened
  | confirmed | concluded | failed | panicked | cleared | withdrew | released | stopped =>
      exact ⟨⟨silent, rfl, nofun, nofun⟩, rfl⟩
  | recalled => exact ⟨⟨rfl, rfl, nofun, nofun⟩, rfl⟩
  | closed => exact ⟨⟨silent, rfl, nofun, nofun⟩, rfl⟩
  | @served move stage pool effects caller before after kept takes hands =>
      have handless : stage.isHanding = false := by
        cases handing : stage.isHanding with
        | false => rfl
        | true => exact nomatch (takes handing).symm.trans silent
      refine ⟨⟨silent, handless, phase_of_isServing after⟩, ?_⟩
      refine List.eq_nil_iff_forall_not_mem.mpr fun caller member => ?_
      exact nomatch (hands caller member).2.symm.trans unhanded

theorem caller_of_hander {activity after : Activity} {move : Move} {effects : List Effect}
    (moved : activity.step move = some (after, effects)) {index : Nat}
    (member : index ∈ handers effects) : move.caller? = some index := by
  cases step_moved moved with
  | proceeded here proceeds => rw [proceeds.caller, proceeds.hander member]
  | pooled pooling tidy size nothing =>
      rw [nothing] at member
      cases member
  | _ => cases member

theorem step_deaf {activity after : Activity} {index : Nat} {call : StartCall} {move : Move}
    {effects : List Effect} (moved : activity.step move = some (after, effects))
    (here : activity.starts[index]? = some call) (deaf : Deaf call) :
    (∃ next, after.starts[index]? = some next ∧ Deaf next) ∧ index ∉ handers effects := by
  obtain ⟨next, found, proceeds | ⟨others, stage, listener⟩⟩ := step_entry moved here
  · obtain ⟨still, nothing⟩ := deaf.proceeds proceeds
    refine ⟨⟨next, found, still⟩, ?_⟩
    rw [nothing]
    exact List.not_mem_nil
  · refine ⟨⟨next, found, ?_, stage ▸ deaf.unhanded, stage ▸ deaf.opened⟩, fun member => ?_⟩
    · rcases listener with same | closed
      · rw [same, deaf.silent]
      · rw [closed]
        rfl
    · exact others (caller_of_hander moved member)

theorem run_deaf {activity last : Activity} {index : Nat} {call : StartCall} {moves : List Move}
    {effects : List Effect} (ran : activity.run moves = some (last, effects))
    (here : activity.starts[index]? = some call) (deaf : Deaf call) :
    index ∉ handers effects := by
  induction moves generalizing activity call effects with
  | nil =>
      cases ran
      nofun
  | cons move rest ih =>
      obtain ⟨reached, first, later, moved, continued, rfl⟩ := run_cons ran
      obtain ⟨⟨next, found, still⟩, silent⟩ := step_deaf moved here deaf
      rw [handers, List.filterMap_append, List.mem_append]
      exact not_or.mpr ⟨silent, ih continued found still⟩

theorem awaits_of_arrived {activity after : Activity} {index : Nat} {call : StartCall}
    {arrival : Except IoError Connection} {effects : List Effect}
    (here : activity.starts[index]? = some call)
    (moved : activity.step (.arrived index arrival) = some (after, effects)) :
    call.stage = .await := by
  obtain ⟨found, there, moved⟩ := Option.bind_eq_some_iff.mp moved
  cases here.symm.trans there
  cases stage : call.stage with
  | await => rfl
  | _ =>
      rw [stage] at moved
      cases moved

/-! ### Stops beside one start call -/

/-- If a stop takes the mark from the server while a start call is under way, then from the
moment at which the call looked at the mark again its listener is closed, or a stop call that
took the mark is on its way to it. Nothing that arrives at a closed listener is handed on. -/
theorem stop_reaches_listener {server : Server} {host : String} {port : Nat}
    {identity : Option (String × String)} {moves : List Move} {activity : Activity}
    {effects : List Effect}
    (ran : (calling server host port identity).run moves = some (activity, effects))
    (alone : ∀ host port identity, .start host port identity ∉ moves) :
    ((calling server host port identity).happens (takesMark 0) moves = true →
      (calling server host port identity).happens (rechecks 0) moves = true →
        ∃ call, activity.starts = [call] ∧ (activity.IsClosed 0 call ∨ activity.Aimed 0)) ∧
    ∀ {call : StartCall} {arrival : Except IoError Connection} {later : List Move}
      {last : Activity} {more : List Effect}, activity.starts = [call] →
        call.listener.running = false →
          activity.run (.arrived 0 arrival :: later) = some (last, more) → 0 ∉ handers more := by
  constructor
  · intro taken checked
    have begun : Heeds (calling server host port identity) false false
        (.made host port identity) := by
      cases identity <;> exact ⟨rfl, rfl⟩
    obtain ⟨call, only, heeds⟩ := run_heeds ran alone rfl begun
    rw [taken, checked] at heeds
    exact ⟨call, only, heeds.closed⟩
  · intro call arrival later last more only silent arrived
    have here : activity.starts[0]? = some call := by rw [only]; rfl
    obtain ⟨reached, first, rest, moved, -, -⟩ := run_cons arrived
    have waits : call.stage = .await := awaits_of_arrived here moved
    refine run_deaf arrived here ⟨silent, ?_, ?_⟩
    · rw [waits]
      rfl
    · rw [waits]
      exact ⟨nofun, nofun⟩

def doublyStopped : List Move :=
  (opening 0).tail ++ [.stop, .proceedStop 0, .stop, .proceedStop 1, .proceedStop 0, .proceedStop 0]

def belated : List Move :=
  [.arrived 0 (.ok { peer := "127.0.0.1:50000" }), .proceed 0]

theorem stop_reaches_listener_belated :
    (calling idleServer "127.0.0.1" 8080 none).happens (takesMark 0) doublyStopped = true ∧
    (calling idleServer "127.0.0.1" 8080 none).happens (rechecks 0) doublyStopped = true ∧
    ∃ activity effects call last more,
      (calling idleServer "127.0.0.1" 8080 none).run doublyStopped = some (activity, effects) ∧
        activity.starts = [call] ∧ (activity.IsClosed 0 call ∨ activity.Aimed 0) ∧
        call.listener.running = false ∧ activity.run belated = some (last, more) ∧
        0 ∉ handers more := by
  have taken : (calling idleServer "127.0.0.1" 8080 none).happens (takesMark 0) doublyStopped =
    true := by decide
  have checked : (calling idleServer "127.0.0.1" 8080 none).happens (rechecks 0) doublyStopped =
    true := by decide
  have alone : ∀ host port identity, Move.start host port identity ∉ doublyStopped := by
    simp [doublyStopped, opening]
  have possible : ((calling idleServer "127.0.0.1" 8080 none).run doublyStopped).any
      (fun reached => reached.1.starts.all (fun call => !call.listener.running) &&
        (reached.1.run belated).isSome) = true := by decide
  obtain ⟨⟨activity, effects⟩, ran, possible⟩ := (Option.any_eq_true _ _).mp possible
  obtain ⟨stopped, arrived⟩ := Bool.and_eq_true_iff.mp possible
  obtain ⟨⟨last, more⟩, arrived⟩ := Option.isSome_iff_exists.mp arrived
  obtain ⟨closed, unhanded⟩ := stop_reaches_listener ran alone
  obtain ⟨call, only, reached⟩ := closed taken checked
  have silent : call.listener.running = false := by simpa [only] using stopped
  exact ⟨taken, checked, activity, effects, call, last, more, ran, only, reached, silent, arrived,
    unhanded only silent arrived⟩

end Activity

end HttpServer
