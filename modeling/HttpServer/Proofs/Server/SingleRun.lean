import HttpServer.Server.Run
import Mathlib.Data.List.Basic

/-!
How many runs of a server are under way. A start call is refused while the server is marked as
running. The mark is taken away before a run has ended, by a stop or on the way out, and what a run
does on its way out it does to the server, whoever runs it by then. So runs are kept apart, and
find the server as they left it, only if nobody makes a start call in between.
-/

namespace HttpServer

/-! ### Start calls under way -/

inductive Phase
  | waiting
  | opening
  | known
  | serving
  | closing
  | leaving
  | gone
deriving DecidableEq, Repr

def Phase.isEngaged : Phase → Bool
  | .waiting | .gone => false
  | _ => true

def StartStage.phase : StartStage → Phase
  | .load .. | .enter => .waiting
  | .bind | .listen | .publish => .opening
  | .recheck | .startPool => .known
  | .announce | .loop | .await | .received _ | .hand _ => .serving
  | .fail _ | .stopPool | .conclude => .closing
  | .clearRunning _ | .withdraw _ | .releasePool _ => .leaving
  | .returned _ => .gone

def Server.Serves (server : Server) (index : Nat) : Phase → Prop
  | .opening | .closing => server.running = true
  | .known => server.running = true ∧ server.published = some index
  | .serving => server.running = true ∧ server.published = some index ∧
      (server.options.threaded = true → server.pool.running = true)
  | _ => True

namespace Activity

def phases (activity : Activity) : List Phase :=
  activity.starts.map fun call => call.stage.phase

def engagedOf (phases : List Phase) : List Nat :=
  (List.range phases.length).filter fun index => phases[index]?.any Phase.isEngaged

def engaged (activity : Activity) : List Nat :=
  engagedOf activity.phases

def stopped (activity : Activity) : Move → List Nat
  | .proceedStop index => if activity.stops[index]? = some .clear then activity.engaged else []
  | _ => []

def stoppedAlong (activity : Activity) : List Move → List Nat
  | [] => []
  | move :: rest =>
    match activity.step move with
    | none => []
    | some (after, _) => activity.stopped move ++ after.stoppedAlong rest

/-- A start call makes its check only while no call under way was stopped or is on its way out,
and nobody else stops the pool. -/
def Careful (activity : Activity) (stopped : List Nat) : Move → Prop
  | .proceed index => activity.phases[index]? = some .waiting →
      ∀ other ∈ activity.engaged, activity.phases[other]? ≠ some .leaving ∧ other ∉ stopped
  | .stopPool => False
  | _ => True

instance (activity : Activity) (stopped : List Nat) : DecidablePred (activity.Careful stopped)
  | .proceed index =>
      inferInstanceAs (Decidable (activity.phases[index]? = some .waiting → ∀ other ∈ _, _ ∧ _))
  | .stopPool => inferInstanceAs (Decidable False)
  | .start .. | .stop | .loaded .. | .bound .. | .listened .. | .arrived .. | .panic _
  | .proceedStop _ | .startPool | .resizePool _ => inferInstanceAs (Decidable True)

def CarefulAlong (activity : Activity) (stopped : List Nat) : List Move → Prop
  | [] => True
  | move :: rest => activity.Careful stopped move ∧
      match activity.step move with
      | none => True
      | some (after, _) => after.CarefulAlong (stopped ++ activity.stopped move) rest

def decideCareful : (moves : List Move) → (activity : Activity) → (stopped : List Nat) →
    Decidable (activity.CarefulAlong stopped moves)
  | [], _, _ => isTrue trivial
  | move :: rest, activity, stopped =>
    match moved : activity.step move with
    | none => decidable_of_iff (activity.Careful stopped move) (by simp [CarefulAlong, moved])
    | some (after, _) =>
      have := decideCareful rest after (stopped ++ activity.stopped move)
      decidable_of_iff (activity.Careful stopped move ∧
        after.CarefulAlong (stopped ++ activity.stopped move) rest) (by simp [CarefulAlong, moved])

instance (activity : Activity) (stopped : List Nat) :
    DecidablePred (activity.CarefulAlong stopped) :=
  fun moves => decideCareful moves activity stopped

/-! ### What a step does -/

inductive Goes (index : Nat) (server : Server) : Phase → Phase → Server → Prop
  | refused : server.running = true → Goes index server .waiting .gone server
  | admitted : server.running = false →
      Goes index server .waiting .opening { server with running := true }
  | opens {after : Phase} : after = .opening ∨ after = .closing →
      Goes index server .opening after server
  | publishes : Goes index server .opening .known { server with published := some index }
  | rechecks : Goes index server .known .known server
  | serves {pool : Pool ConnectionTask} :
      (server.options.threaded = true → pool.running = true) →
      Goes index server .known .serving { server with pool }
  | accepts {pool : Pool ConnectionTask} {after : Phase} : pool.running = server.pool.running →
      after = .serving ∨ after = .closing → Goes index server .serving after { server with pool }
  | closes {pool : Pool ConnectionTask} : Goes index server .closing .closing { server with pool }
  | leaves {before : Phase} : before.isEngaged = true → Goes index server before .leaving server
  | resets {after : Phase} {reset : Server} : after = .leaving ∨ after = .gone →
      Goes index server .leaving after reset

inductive Change (activity : Activity) : Move → List Phase → Server → Prop
  | called {move : Move} : Change activity move (activity.phases ++ [.waiting]) activity.server
  | went {move : Move} {index : Nat} {before after : Phase} {server : Server} :
      activity.phases[index]? = some before → Goes index activity.server before after server →
      (before = .waiting → move = .proceed index) →
      Change activity move (activity.phases.set index after) server
  | loaded {move : Move} {index : Nat} {after : Phase} :
      activity.phases[index]? = some .waiting → after = .waiting ∨ after = .gone →
      Change activity move (activity.phases.set index after) activity.server
  | kept {move : Move} : Change activity move activity.phases activity.server
  | cleared {stop : Nat} : activity.stops[stop]? = some .clear →
      Change activity (.proceedStop stop) activity.phases { activity.server with running := false }
  | pooled {move : Move} {pool : Pool ConnectionTask} :
      (activity.server.pool.running = true → pool.running = true) →
      Change activity move activity.phases { activity.server with pool }
  | poolStopped {server : Server} : Change activity .stopPool activity.phases server

theorem phases_setStart (activity : Activity) (index : Nat) (call : StartCall) :
    (activity.setStart index call).phases = activity.phases.set index call.stage.phase := by
  simp [phases, setStart, List.map_set]

theorem phases_getElem? {activity : Activity} {index : Nat} {call : StartCall}
    (here : activity.starts[index]? = some call) :
    activity.phases[index]? = some call.stage.phase := by
  simp [phases, here]

theorem phases_stopStart (activity : Activity) (index : Nat) :
    (activity.stopStart index).phases = activity.phases := by
  unfold stopStart
  cases here : activity.starts[index]? with
  | none => rfl
  | some call =>
      obtain ⟨bound, same⟩ := List.getElem?_eq_some_iff.mp (phases_getElem? here)
      rw [phases_setStart]
      exact same ▸ List.set_getElem_self bound

theorem server_stopStart (activity : Activity) (index : Nat) :
    (activity.stopStart index).server = activity.server := by
  unfold stopStart
  split <;> rfl

theorem running_resize {pool : Pool ConnectionTask} (running : pool.running = true)
    (requested : Nat) : (pool.resize requested).running = true := by
  simp [Pool.resize, Pool.start, running]

theorem running_start (pool : Pool ConnectionTask) : pool.start.running = true := by
  unfold Pool.start
  split
  · assumption
  · rfl

theorem running_enqueue (pool : Pool ConnectionTask) (task : ConnectionTask) :
    (pool.enqueue task).1.running = pool.running := by
  unfold Pool.enqueue
  split <;> rfl

theorem hand_spec (activity : Activity) (index : Nat) (connection : Connection) :
    (activity.hand index connection).1.phases = activity.phases ∧
      ∃ pool : Pool ConnectionTask, pool.running = activity.server.pool.running ∧
        (activity.hand index connection).1.server = { activity.server with pool } := by
  have kept := running_enqueue activity.server.pool
    { router := activity.server.router, connection }
  unfold hand
  dsimp only
  split
  · split
    · exact ⟨rfl, _, kept, rfl⟩
    · exact ⟨rfl, _, rfl, rfl⟩
  · exact ⟨rfl, _, rfl, rfl⟩

theorem proceedStart?_goes {activity after : Activity} {index : Nat} {call : StartCall}
    {effects : List Effect} (moved : activity.proceedStart? index call = some (after, effects)) :
    ∃ phase, after.phases = activity.phases.set index phase ∧
      Goes index activity.server call.stage.phase phase after.server := by
  unfold proceedStart? at moved
  cases stage : call.stage with
  | load certificatePath keyPath | bind | listen | await | returned ending =>
      rw [stage] at moved
      cases moved
  | enter =>
      simp only [stage] at moved
      split at moved
      · rename_i running
        cases moved
        exact ⟨_, phases_setStart .., .refused running⟩
      · rename_i stopped
        cases moved
        exact ⟨_, phases_setStart .., .admitted (by simpa using stopped)⟩
  | publish =>
      simp only [stage] at moved
      cases moved
      exact ⟨_, phases_setStart .., .publishes⟩
  | recheck =>
      simp only [stage] at moved
      split at moved
      all_goals
        cases moved
        exact ⟨_, phases_setStart .., .rechecks⟩
  | startPool =>
      simp only [stage] at moved
      split at moved
      · cases moved
        exact ⟨_, phases_setStart .., .serves fun _ => running_start _⟩
      · rename_i inline
        cases moved
        exact ⟨_, phases_setStart .., .serves fun threaded => absurd threaded inline⟩
  | announce =>
      simp only [stage] at moved
      cases moved
      exact ⟨_, phases_setStart .., .accepts rfl (.inl rfl)⟩
  | loop =>
      simp only [stage] at moved
      cases moved
      refine ⟨_, phases_setStart .., .accepts rfl ?_⟩
      dsimp only
      split
      · exact .inl rfl
      · exact .inr rfl
  | received arrival =>
      simp only [stage] at moved
      split at moved
      · cases arrival with
        | ok connection =>
            cases moved
            exact ⟨_, phases_setStart .., .accepts rfl (.inl rfl)⟩
        | error error =>
            cases moved
            exact ⟨_, phases_setStart .., .accepts rfl (.inl rfl)⟩
      · cases moved
        exact ⟨_, phases_setStart .., .accepts rfl (.inr rfl)⟩
  | hand connection =>
      simp only [stage, Option.some.injEq] at moved
      have handed :=
        hand_spec (activity.setStart index { call with stage := .loop }) index connection
      rw [moved] at handed
      obtain ⟨phases, pool, kept, server⟩ := handed
      refine ⟨_, phases.trans (phases_setStart ..), ?_⟩
      rw [server]
      exact .accepts kept (.inl rfl)
  | stopPool =>
      simp only [stage] at moved
      cases moved
      exact ⟨_, phases_setStart .., .closes⟩
  | conclude | fail error =>
      simp only [stage] at moved
      cases moved
      exact ⟨_, phases_setStart .., .leaves rfl⟩
  | clearRunning ending | withdraw ending =>
      simp only [stage] at moved
      cases moved
      exact ⟨_, phases_setStart .., .resets (.inl rfl)⟩
  | releasePool ending =>
      simp only [stage] at moved
      cases moved
      exact ⟨_, phases_setStart .., .resets (.inr rfl)⟩

theorem proceedStop?_change {activity after : Activity} {index : Nat} {stage : StopStage}
    (here : activity.stops[index]? = some stage)
    (moved : activity.proceedStop? index stage = some after) :
    Change activity (.proceedStop index) after.phases after.server := by
  unfold proceedStop? at moved
  cases stage with
  | clear =>
      dsimp only at moved
      split at moved
      · cases moved
        exact .cleared here
      · cases moved
        exact .kept
  | lookUp =>
      dsimp only at moved
      split at moved
      all_goals
        cases moved
        exact .kept
  | close start =>
      cases moved
      rw [phases_stopStart, server_stopStart]
      exact .kept
  | returned => cases moved

theorem isEngaged_of_isInside {stage : StartStage} (inside : stage.isInside = true) :
    stage.phase.isEngaged = true := by
  cases stage with
  | load certificatePath keyPath | enter | clearRunning ending | withdraw ending
  | releasePool ending | returned ending => cases inside
  | _ => rfl

theorem phase_made (host : String) (port : Nat) (identity : Option (String × String)) :
    (StartCall.made host port identity).stage.phase = .waiting := by
  cases identity <;> rfl

theorem step_change {activity after : Activity} {move : Move} {effects : List Effect}
    (moved : activity.step move = some (after, effects)) :
    Change activity move after.phases after.server := by
  cases move with
  | start host port identity =>
      cases moved
      have phases : ({ activity with
          starts := activity.starts ++ [StartCall.made host port identity] } : Activity).phases =
            activity.phases ++ [.waiting] := by
        simp [Activity.phases, phase_made]
      rw [phases]
      exact .called
  | stop =>
      cases moved
      exact .kept
  | loaded index library files =>
      obtain ⟨call, here, moved⟩ := Option.bind_eq_some_iff.mp moved
      have phase := phases_getElem? here
      cases stage : call.stage with
      | load certificatePath keyPath =>
          rw [stage] at moved phase
          dsimp only at moved
          split at moved
          all_goals
            cases moved
            rw [phases_setStart]
          · exact .loaded phase (.inl rfl)
          · exact .loaded phase (.inr rfl)
      | _ =>
          rw [stage] at moved
          cases moved
  | bound index opens =>
      obtain ⟨call, here, moved⟩ := Option.bind_eq_some_iff.mp moved
      have phase := phases_getElem? here
      cases stage : call.stage with
      | bind =>
          rw [stage] at moved phase
          dsimp only at moved
          split at moved
          all_goals
            cases moved
            rw [phases_setStart]
          · exact .went phase (.opens (.inl rfl)) nofun
          · exact .went phase (.opens (.inr rfl)) nofun
      | _ =>
          rw [stage] at moved
          cases moved
  | listened index failure =>
      obtain ⟨call, here, moved⟩ := Option.bind_eq_some_iff.mp moved
      have phase := phases_getElem? here
      cases stage : call.stage with
      | listen =>
          rw [stage] at moved phase
          dsimp only at moved
          split at moved
          all_goals
            cases moved
            rw [phases_setStart]
          · exact .went phase (.opens (.inl rfl)) nofun
          · exact .went phase (.opens (.inr rfl)) nofun
      | _ =>
          rw [stage] at moved
          cases moved
  | arrived index arrival =>
      obtain ⟨call, here, moved⟩ := Option.bind_eq_some_iff.mp moved
      have phase := phases_getElem? here
      cases stage : call.stage with
      | await =>
          rw [stage] at moved phase
          cases moved
          rw [phases_setStart]
          exact .went phase (.accepts rfl (.inl rfl)) nofun
      | _ =>
          rw [stage] at moved
          cases moved
  | proceed index =>
      obtain ⟨call, here, moved⟩ := Option.bind_eq_some_iff.mp moved
      obtain ⟨phase, phases, goes⟩ := proceedStart?_goes moved
      rw [phases]
      exact .went (phases_getElem? here) goes fun _ => rfl
  | panic index =>
      obtain ⟨call, here, moved⟩ := Option.bind_eq_some_iff.mp moved
      split at moved
      · rename_i inside
        cases moved
        rw [phases_setStart]
        have engaged := isEngaged_of_isInside inside
        exact .went (phases_getElem? here) (.leaves engaged) fun waiting => by
          rw [waiting] at engaged
          cases engaged
      · cases moved
  | proceedStop index =>
      obtain ⟨stage, here, moved⟩ := Option.bind_eq_some_iff.mp moved
      obtain ⟨next, stopped, same⟩ := Option.bind_eq_some_iff.mp moved
      cases same
      exact proceedStop?_change here stopped
  | startPool =>
      cases moved
      exact .pooled fun _ => running_start _
  | stopPool =>
      cases moved
      exact .poolStopped
  | resizePool requested =>
      cases moved
      exact .pooled fun running => running_resize running requested

/-! ### One run at a time -/

theorem mem_engagedOf_iff {phases : List Phase} {index : Nat} : index ∈ engagedOf phases ↔
    ∃ phase, phases[index]? = some phase ∧ phase.isEngaged = true := by
  simp only [engagedOf, List.mem_filter, List.mem_range, Option.any_eq_true]
  constructor
  · exact fun inside => inside.2
  · rintro ⟨phase, here, engaged⟩
    exact ⟨(List.getElem?_eq_some_iff.mp here).1, phase, here, engaged⟩

theorem mem_engagedOf_set {phases : List Phase} {index other : Nat} {phase : Phase}
    (different : other ≠ index) :
    other ∈ engagedOf (phases.set index phase) ↔ other ∈ engagedOf phases := by
  rw [mem_engagedOf_iff, mem_engagedOf_iff, List.getElem?_set_ne different.symm]

theorem Goes.keeps {index : Nat} {server reset : Server} {before after : Phase}
    (goes : Goes index server before after reset) (serves : server.Serves index before) :
    reset.Serves index after := by
  cases goes with
  | refused running => trivial
  | admitted idle => rfl
  | opens which =>
      rcases which with rfl | rfl
      · exact serves
      · exact serves
  | publishes => exact ⟨serves, rfl⟩
  | rechecks => exact serves
  | serves started => exact ⟨serves.1, serves.2, started⟩
  | accepts kept which =>
      rcases which with rfl | rfl
      · exact ⟨serves.1, serves.2.1, fun threaded => kept.trans (serves.2.2 threaded)⟩
      · exact serves.1
  | closes => exact serves
  | leaves engaged => trivial
  | resets which =>
      rcases which with rfl | rfl
      · trivial
      · trivial

/-- At most one start call is under way, and as long as it is not stopped the server is as it
needs it. -/
structure Single (stopped : List Nat) (phases : List Phase) (server : Server) : Prop where
  one : ∀ first ∈ engagedOf phases, ∀ second ∈ engagedOf phases, first = second
  serves : ∀ index ∉ stopped, ∀ phase, phases[index]? = some phase → server.Serves index phase

theorem serves_of_not_engaged {phase : Phase} (idle : ¬phase.isEngaged = true) (server : Server)
    (index : Nat) : server.Serves index phase := by
  cases phase with
  | waiting | gone | leaving => trivial
  | _ => exact absurd rfl idle

namespace Single

variable {stopped : List Nat} {phases : List Phase} {server : Server}

theorem running (single : Single stopped phases server) {index : Nat}
    (engaged : index ∈ engagedOf phases) (stays : phases[index]? ≠ some .leaving)
    (unstopped : index ∉ stopped) : server.running = true := by
  obtain ⟨phase, here, engaged⟩ := mem_engagedOf_iff.mp engaged
  have serves := single.serves index unstopped phase here
  cases phase with
  | waiting | gone => cases engaged
  | opening | closing => exact serves
  | known | serving => exact serves.1
  | leaving => exact absurd here stays

theorem mono (single : Single stopped phases server) (more : List Nat) :
    Single (stopped ++ more) phases server where
  one := single.one
  serves := fun index unstopped =>
    single.serves index fun member => unstopped (List.mem_append_left more member)

theorem pooled (single : Single stopped phases server) {pool : Pool ConnectionTask}
    (kept : server.pool.running = true → pool.running = true) :
    Single stopped phases { server with pool } where
  one := single.one
  serves := by
    intro index unstopped phase here
    have serves := single.serves index unstopped phase here
    cases phase with
    | serving => exact ⟨serves.1, serves.2.1, fun threaded => kept (serves.2.2 threaded)⟩
    | _ => exact serves

theorem cleared (single : Single stopped phases server) :
    Single (stopped ++ engagedOf phases) phases { server with running := false } where
  one := single.one
  serves := by
    intro index unstopped phase here
    refine serves_of_not_engaged (fun engaged => unstopped ?_) _ _
    exact List.mem_append_right _ (mem_engagedOf_iff.mpr ⟨phase, here, engaged⟩)

theorem of_entries (single : Single stopped phases server) {others : List Phase}
    (entries : ∀ (index : Nat) (phase : Phase), others[index]? = some phase →
      phases[index]? = some phase ∨ ¬phase.isEngaged = true) : Single stopped others server := by
  have still : ∀ index ∈ engagedOf others, index ∈ engagedOf phases := by
    intro index member
    obtain ⟨phase, here, busy⟩ := mem_engagedOf_iff.mp member
    rcases entries index phase here with same | idle
    · exact mem_engagedOf_iff.mpr ⟨phase, same, busy⟩
    · exact absurd busy idle
  refine ⟨fun first begun second also =>
    single.one first (still first begun) second (still second also), ?_⟩
  intro index unstopped phase here
  rcases entries index phase here with same | idle
  · exact single.serves index unstopped phase same
  · exact serves_of_not_engaged idle server index

theorem called (single : Single stopped phases server) :
    Single stopped (phases ++ [.waiting]) server := by
  refine single.of_entries fun index phase here => ?_
  rw [List.getElem?_append] at here
  split at here
  · exact .inl here
  · rw [List.mem_singleton.mp (List.mem_of_getElem? here)]
    exact .inr nofun

theorem set_idle (single : Single stopped phases server) (index : Nat) {phase : Phase}
    (idle : ¬phase.isEngaged = true) : Single stopped (phases.set index phase) server := by
  refine single.of_entries fun other found here => ?_
  by_cases same : other = index
  · subst same
    have within : other < phases.length := by
      simpa using (List.getElem?_eq_some_iff.mp here).1
    rw [List.getElem?_set_self within, Option.some.injEq] at here
    exact .inr (here ▸ idle)
  · rw [List.getElem?_set_ne (Ne.symm same)] at here
    exact .inl here

theorem of_only {index : Nat} {after : Phase} {reset : Server} (within : index < phases.length)
    (only : ∀ other ∈ engagedOf phases, other = index)
    (serves : index ∉ stopped → reset.Serves index after) :
    Single stopped (phases.set index after) reset := by
  have still : ∀ other ∈ engagedOf (phases.set index after), other = index := by
    intro other member
    by_contra different
    exact different (only other ((mem_engagedOf_set different).mp member))
  refine ⟨fun first begun second also => (still first begun).trans (still second also).symm, ?_⟩
  intro other unstopped phase found
  by_cases same : other = index
  · subst same
    rw [List.getElem?_set_self within, Option.some.injEq] at found
    subst found
    exact serves unstopped
  · rw [List.getElem?_set_ne (Ne.symm same)] at found
    refine serves_of_not_engaged (fun busy => same (only other ?_)) _ _
    exact mem_engagedOf_iff.mpr ⟨phase, found, busy⟩

theorem went (single : Single stopped phases server) {index : Nat} {before after : Phase}
    {reset : Server} (here : phases[index]? = some before) (busy : before.isEngaged = true)
    (goes : Goes index server before after reset) :
    Single stopped (phases.set index after) reset := by
  refine of_only (List.getElem?_eq_some_iff.mp here).1 ?_ ?_
  · intro other member
    exact single.one other member index (mem_engagedOf_iff.mpr ⟨before, here, busy⟩)
  · intro unstopped
    exact goes.keeps (single.serves index unstopped before here)

theorem checked (single : Single stopped phases server) {index : Nat} {after : Phase}
    {reset : Server} (here : phases[index]? = some .waiting)
    (careful : ∀ other ∈ engagedOf phases, phases[other]? ≠ some .leaving ∧ other ∉ stopped)
    (goes : Goes index server .waiting after reset) :
    Single stopped (phases.set index after) reset := by
  cases goes with
  | refused running => exact single.set_idle index nofun
  | admitted idle =>
      refine of_only (List.getElem?_eq_some_iff.mp here).1 ?_ fun _ => rfl
      intro other member
      obtain ⟨stays, unstopped⟩ := careful other member
      have running := single.running member stays unstopped
      rw [idle] at running
      cases running
  | leaves busy => cases busy

end Single

theorem Goes.before_cases {index : Nat} {server reset : Server} {before after : Phase}
    (goes : Goes index server before after reset) :
    before = .waiting ∨ before.isEngaged = true := by
  cases goes with
  | refused | admitted => exact .inl rfl
  | leaves busy => exact .inr busy
  | _ => exact .inr rfl

theorem Change.single {activity : Activity} {move : Move} {phases : List Phase} {server : Server}
    (change : Change activity move phases server) {stopped : List Nat}
    (single : Single stopped activity.phases activity.server)
    (careful : activity.Careful stopped move) :
    Single (stopped ++ activity.stopped move) phases server := by
  cases change with
  | called => exact single.called.mono _
  | went here goes checks =>
      -- Only a check can bring a second call under way, so it is set apart from all other steps.
      rcases goes.before_cases with rfl | busy
      · rw [checks rfl] at careful ⊢
        exact (single.checked here (careful here) goes).mono _
      · exact (single.went here busy goes).mono _
  | loaded _ which =>
      rcases which with rfl | rfl
      · exact (single.set_idle _ (by decide)).mono _
      · exact (single.set_idle _ (by decide)).mono _
  | kept => exact single.mono _
  | cleared clears =>
      simp only [Activity.stopped, clears, ↓reduceIte]
      exact single.cleared
  | pooled kept => exact (single.pooled kept).mono _
  | poolStopped => cases careful

theorem run_cons {activity last : Activity} {move : Move} {rest : List Move}
    {effects : List Effect} (ran : activity.run (move :: rest) = some (last, effects)) :
    ∃ next first later, activity.step move = some (next, first) ∧
      next.run rest = some (last, later) ∧ effects = first ++ later := by
  obtain ⟨⟨next, first⟩, moved, ran⟩ := Option.bind_eq_some_iff.mp ran
  obtain ⟨⟨reached, later⟩, continued, same⟩ := Option.bind_eq_some_iff.mp ran
  cases same
  exact ⟨next, first, later, moved, continued, rfl⟩

theorem single_of_run {activity last : Activity} {moves : List Move} {effects : List Effect}
    (ran : activity.run moves = some (last, effects)) {stopped : List Nat}
    (single : Single stopped activity.phases activity.server)
    (careful : activity.CarefulAlong stopped moves) :
    Single (stopped ++ activity.stoppedAlong moves) last.phases last.server := by
  induction moves generalizing activity effects stopped with
  | nil =>
      cases ran
      exact single.mono _
  | cons move rest ih =>
      obtain ⟨next, first, later, moved, continued, rfl⟩ := run_cons ran
      simp only [CarefulAlong, stoppedAlong, moved] at careful ⊢
      have now := (step_change moved).single single careful.1
      rw [← List.append_assoc]
      exact ih continued now careful.2

/-- If a start call makes its check only while no call under way was stopped or is on its way out,
then at most one is under way, and a call in its accept loop at which no stop was directed finds
the server running, its own listener known, and the pool running. -/
theorem single_run (server : Server) {moves : List Move} {activity : Activity}
    {effects : List Effect} (ran : ({ server } : Activity).run moves = some (activity, effects))
    (careful : ({ server } : Activity).CarefulAlong [] moves) :
    (∀ first ∈ activity.engaged, ∀ second ∈ activity.engaged, first = second) ∧
    ∀ index, activity.phases[index]? = some .serving →
      index ∉ ({ server } : Activity).stoppedAlong moves →
      activity.server.running = true ∧ activity.server.published = some index ∧
        (activity.server.options.threaded = true → activity.server.pool.running = true) := by
  have begun : Single [] ({ server } : Activity).phases server := by
    constructor
    · rintro first ⟨⟩
    · rintro index - phase ⟨⟩
  have single := single_of_run ran begun careful
  refine ⟨single.one, ?_⟩
  intro index serving unstopped
  exact single.serves index unstopped .serving serving

def opening (index : Nat) : List Move :=
  [.start "127.0.0.1" 8080 none, .proceed index, .bound index .ok, .listened index none] ++
    List.replicate 5 (.proceed index)

def stopping (index : Nat) : List Move :=
  .stop :: List.replicate 3 (.proceedStop index)

def closing (index : Nat) : List Move :=
  .arrived index (.error closedError) :: List.replicate 6 (.proceed index)

def successive : List Move :=
  opening 0 ++ ([.start "::1" 80 none, .proceed 1] ++ (stopping 0 ++ (closing 0 ++ opening 2)))

def idleServer : Server :=
  .ofOptions { workers := 2 }

theorem single_run_successive : ∃ activity effects,
    ({ server := idleServer } : Activity).run successive = some (activity, effects) ∧
      activity.phases = [.gone, .gone, .serving] ∧
      activity.server.running = true ∧ activity.server.published = some 2 ∧
      (activity.server.options.threaded = true → activity.server.pool.running = true) := by
  have careful : ({ server := idleServer } : Activity).CarefulAlong [] successive := by decide
  have unstopped : 2 ∉ ({ server := idleServer } : Activity).stoppedAlong successive := by decide
  have possible : (({ server := idleServer } : Activity).run successive).map
      (fun reached => reached.1.phases) = some [.gone, .gone, .serving] := by decide
  cases ran : ({ server := idleServer } : Activity).run successive with
  | none =>
      rw [ran] at possible
      cases possible
  | some reached =>
      rw [ran, Option.map_some, Option.some.injEq] at possible
      have serving : reached.1.phases[2]? = some .serving := by rw [possible]; rfl
      have served := (single_run idleServer ran careful).2 2 serving unstopped
      exact ⟨reached.1, reached.2, rfl, possible, served⟩

/-- A start call that comes between a stop and the end of the run that was stopped is let in. The
first run then takes the mark, the listener and the pool from the second. -/
theorem runs_overlap :
    (∃ activity effects, ({ server := idleServer } : Activity).run
      (opening 0 ++ (stopping 0 ++ opening 1)) = some (activity, effects) ∧
        activity.engaged = [0, 1]) ∧
    ∃ activity effects, ({ server := idleServer } : Activity).run
      (opening 0 ++ (stopping 0 ++ (opening 1 ++ closing 0))) = some (activity, effects) ∧
        activity.phases = [.gone, .serving] ∧
        1 ∉ ({ server := idleServer } : Activity).stoppedAlong
          (opening 0 ++ (stopping 0 ++ (opening 1 ++ closing 0))) ∧
        activity.server.running = false ∧ activity.server.published = none ∧
        activity.server.pool.running = false := by
  refine ⟨⟨_, _, rfl, ?_⟩, _, _, rfl, ?_⟩
  · decide
  · decide

end Activity

end HttpServer
