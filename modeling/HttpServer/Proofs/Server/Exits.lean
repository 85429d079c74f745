import HttpServer.Proofs.Server.Steps

/-!
How a start call comes to its end. Whatever ends it, a start call that was let in takes the mark,
the listener and the pool back on its way out, and the server can be started again; a start call
that was refused, or whose identity was not loaded, changes nothing, whoever runs the server
meanwhile.
-/

namespace HttpServer

def RunEnding.isRefusal : RunEnding → Bool
  | .failed error => error.isRefusal
  | _ => false

def StartStage.isAdmitted : StartStage → Bool
  | .load .. | .enter => false
  | .fail error => !error.isRefusal
  | .clearRunning ending | .withdraw ending | .releasePool ending | .returned ending =>
    !ending.isRefusal
  | _ => true

namespace Activity

/-- What can become of a server between one start call and the next. -/
inductive Reached : Server → Prop
  | made (options : ServerOptions) : Reached (.ofOptions options)
  | routed {server : Server} (reached : Reached server) (router : Router) :
      Reached { server with router }
  | timed {server : Server} (reached : Reached server) (seconds : Nat) :
      Reached (server.setTimeout seconds)
  | limited {server : Server} (reached : Reached server) (maximum : Nat) :
      Reached (server.setMaxConnections maximum).1
  | ran {server : Server} {moves : List Move} {activity : Activity} {effects : List Effect}
      (reached : Reached server)
      (ran : ({ server } : Activity).run moves = some (activity, effects))
      (ended : ∀ call ∈ activity.starts, ∃ ending, call.stage = .returned ending)
      (stopped : ∀ stop ∈ activity.stops, stop = .returned) : Reached activity.server

/-- A server that is stopped and can be started again. -/
structure AtRest (activity : Activity) : Prop where
  unmarked : activity.server.running = false
  hidden : activity.address? = none
  idle : activity.server.pool.running = false
  staffless : activity.server.pool.live = 0
  emptied : activity.server.pool.queue = []
  admits : ∀ host port, ∃ again effects call,
    activity.run [.start host port none, .proceed activity.starts.length] =
        some (again, effects) ∧
      again.starts[activity.starts.length]? = some call ∧ call.stage = .bind

/-! ### What stays as it is -/

structure Frame (before after : Server) : Prop where
  router : after.router = before.router
  options : after.options = before.options
  tidy : before.pool.Tidy → after.pool.Tidy

theorem Proceeds.frame {index : Nat} {server after : Server} {call next : StartCall} {move : Move}
    {effects : List Effect} (proceeds : Proceeds index server call move next after effects) :
    Frame server after ∧ after.pool.size = server.pool.size := by
  cases proceeds with
  | served caller before after kept => exact ⟨⟨rfl, rfl, kept.tidy⟩, kept.size⟩
  | stopped | released =>
      have kept := keeps_stop server.pool
      exact ⟨⟨rfl, rfl, kept.tidy⟩, kept.size⟩
  | _ => exact ⟨⟨rfl, rfl, id⟩, rfl⟩

theorem step_frame {activity after : Activity} {move : Move} {effects : List Effect}
    (moved : activity.step move = some (after, effects)) :
    Frame activity.server after.server ∧ ((∀ requested, move ≠ .resizePool requested) →
      after.server.pool.size = activity.server.pool.size) := by
  cases step_moved moved with
  | proceeded here proceeds => exact ⟨proceeds.frame.1, fun _ => proceeds.frame.2⟩
  | closed =>
      rw [server_stopStart]
      exact ⟨⟨rfl, rfl, id⟩, fun _ => rfl⟩
  | pooled pooling tidy size => exact ⟨⟨rfl, rfl, tidy⟩, size⟩
  | _ => exact ⟨⟨rfl, rfl, id⟩, fun _ => rfl⟩

theorem run_frame {activity last : Activity} {moves : List Move} {effects : List Effect}
    (ran : activity.run moves = some (last, effects)) :
    Frame activity.server last.server ∧ ((∀ requested, .resizePool requested ∉ moves) →
      last.server.pool.size = activity.server.pool.size) := by
  induction moves generalizing activity effects with
  | nil =>
      cases ran
      exact ⟨⟨rfl, rfl, id⟩, fun _ => rfl⟩
  | cons move rest ih =>
      obtain ⟨reached, first, later, moved, continued, -⟩ := run_cons ran
      obtain ⟨now, size⟩ := step_frame moved
      obtain ⟨onward, sizes⟩ := ih continued
      refine ⟨⟨onward.router.trans now.router, onward.options.trans now.options,
        fun tidy => onward.tidy (now.tidy tidy)⟩, fun kept => ?_⟩
      rw [sizes fun requested member => kept requested (List.mem_cons_of_mem _ member)]
      exact size fun requested same => kept requested (same ▸ List.mem_cons_self)

/-! ### Who was let in -/

/-- A start call is let in or refused, and has no socket as long as it is not let in. -/
inductive Standing (call : StartCall) : Prop
  | waiting (waits : call.stage.phase = .waiting) (fresh : call.listener = {})
  | admitted (admitted : call.stage.isAdmitted = true)
  | refused {ending : RunEnding} (stage : call.stage = .returned ending)
      (refusal : ending.isRefusal = true) (fresh : call.listener = {})

inductive Outside (call : StartCall) : StartCall → List Effect → Prop
  | loaded : Outside call { call with stage := .enter } [.log loadedLine]
  | unloaded (error : TlsError) :
      Outside call { call with stage := .returned (.failed (.tls error)) }
        [.log (notLoadedLine error)]
  | refused : Outside call { call with stage := .returned (.failed .alreadyRunning) } []

theorem Outside.standing {call next : StartCall} {effects : List Effect}
    (outside : Outside call next effects) (fresh : call.listener = {}) : Standing next := by
  cases outside with
  | loaded => exact .waiting rfl fresh
  | unloaded error => exact .refused rfl rfl fresh
  | refused => exact .refused rfl rfl fresh

theorem Outside.listener {call next : StartCall} {effects : List Effect}
    (outside : Outside call next effects) : next.listener = call.listener := by
  cases outside <;> rfl

theorem Outside.lines {call next : StartCall} {effects : List Effect}
    (outside : Outside call next effects) :
    ∀ effect ∈ effects, ∃ line, effect = .log line := by
  cases outside with
  | loaded | unloaded error => exact fun effect member => ⟨_, List.mem_singleton.mp member⟩
  | refused => exact List.forall_mem_nil _

theorem isAdmitted_of_isServing {stage : StartStage} (serving : stage.isServing = true) :
    stage.isAdmitted = true := by
  cases stage with
  | startPool | announce | loop | await | received arrival | hand connection => rfl
  | _ => cases serving

theorem isAdmitted_of_waiting {stage : StartStage} (waits : stage.phase = .waiting) :
    stage.isAdmitted = false := by
  cases stage with
  | load certificatePath keyPath | enter => rfl
  | _ => cases waits

theorem Standing.fresh {call : StartCall} (standing : Standing call)
    (waits : call.stage.phase = .waiting) : call.listener = {} := by
  cases standing with
  | waiting _ fresh | refused _ _ fresh => exact fresh
  | admitted admitted => exact nomatch admitted.symm.trans (isAdmitted_of_waiting waits)

theorem Standing.proceeds {index : Nat} {server after : Server} {call next : StartCall}
    {move : Move} {effects : List Effect} (standing : Standing call)
    (proceeds : Proceeds index server call move next after effects) :
    next.stage.isAdmitted = true ∨
      (call.stage.isAdmitted = false ∧ after = server ∧ call.listener = {} ∧
        Outside call next effects) := by
  have outside (waits : call.stage.phase = .waiting) (out : Outside call next effects)
      (same : after = server) : call.stage.isAdmitted = false ∧ after = server ∧
        call.listener = {} ∧ Outside call next effects :=
    ⟨isAdmitted_of_waiting waits, same, standing.fresh waits, out⟩
  -- Any other step is made by a call that was let in.
  have admitted (onward : call.stage.phase ≠ .waiting) (stays : call.stage.phase ≠ .gone) :
      call.stage.isAdmitted = true := by
    cases standing with
    | waiting waits => exact absurd waits onward
    | admitted admitted => exact admitted
    | refused stage => exact absurd (by rw [stage]; rfl) stays
  cases proceeds with
  | loaded stage => exact .inr (outside (by rw [stage]; rfl) .loaded rfl)
  | unloaded stage => exact .inr (outside (by rw [stage]; rfl) (.unloaded _) rfl)
  | refused stage => exact .inr (outside (by rw [stage]; rfl) .refused rfl)
  | denied caller stage other => exact .inl (by simp [StartStage.isAdmitted, other])
  | served caller before after => exact .inl (isAdmitted_of_isServing after)
  | failed stage | cleared stage | withdrew stage | released stage =>
      have earlier := admitted (by rw [stage]; nofun) (by rw [stage]; nofun)
      rw [stage] at earlier
      exact .inl earlier
  | _ => exact .inl rfl

theorem Moved.proceeds {activity after : Activity} {move : Move} {index : Nat}
    {effects : List Effect} (moved : Moved activity move after effects)
    (caller : move.caller? = some index) :
    ∃ call next server, activity.starts[index]? = some call ∧
      Proceeds index activity.server call move next server effects ∧
      after = (activity.setStart index next).setServer server := by
  cases moved with
  | proceeded here proceeds =>
      cases caller.symm.trans proceeds.caller
      exact ⟨_, _, _, here, proceeds, rfl⟩
  | pooled pooling => cases caller.symm.trans (caller?_of_isPooling pooling)
  | _ => cases caller

def AllStand (activity : Activity) : Prop :=
  ∀ (index : Nat) (call : StartCall), activity.starts[index]? = some call → Standing call

theorem standing_made (host : String) (port : Nat) (identity : Option (String × String)) :
    Standing (.made host port identity) := by
  cases identity with
  | none => exact .waiting rfl rfl
  | some paths => exact .waiting rfl rfl

theorem step_stand {activity after : Activity} {move : Move} {effects : List Effect}
    (moved : activity.step move = some (after, effects)) (stand : activity.AllStand) :
    after.AllStand := by
  cases step_moved moved with
  | called host port identity =>
      intro index call here
      rw [List.getElem?_append] at here
      split at here
      · exact stand index call here
      · obtain rfl := List.mem_singleton.mp (List.mem_of_getElem? here)
        exact standing_made host port identity
  | @proceeded move index call next server effects there proceeds =>
      intro other found here
      by_cases same : index = other
      · subst same
        have bound := (List.getElem?_eq_some_iff.mp there).1
        cases (List.getElem?_set_self bound).symm.trans here
        rcases (stand _ _ there).proceeds proceeds with admitted | ⟨-, -, fresh, outside⟩
        · exact .admitted admitted
        · exact outside.standing fresh
      · exact stand other found ((List.getElem?_set_ne same).symm.trans here)
  | stopCalled | cleared | idled | found | missed => exact stand
  | @closed stop closed =>
      intro other call here
      rw [getElem?_stopStart] at here
      obtain ⟨found, there, rfl⟩ := Option.map_eq_some_iff.mp here
      have standing := stand other found there
      split
      · cases standing with
        | waiting waits fresh => exact .waiting waits (by rw [fresh]; rfl)
        | admitted admitted => exact .admitted admitted
        | refused stage refusal fresh => exact .refused stage refusal (by rw [fresh]; rfl)
      · exact standing
  | pooled => exact stand

def LetIn (activity : Activity) (index : Nat) : Prop :=
  ∃ call, activity.starts[index]? = some call ∧ call.stage.isAdmitted = true

theorem step_letIn {activity after : Activity} {index : Nat} {move : Move} {effects : List Effect}
    (moved : activity.step move = some (after, effects)) (letIn : activity.LetIn index) :
    after.LetIn index := by
  obtain ⟨call, here, admitted⟩ := letIn
  obtain ⟨next, found, proceeds | ⟨-, stage, -⟩⟩ := step_entry moved here
  · refine ⟨next, found, ?_⟩
    rcases (Standing.admitted admitted).proceeds proceeds with onward | ⟨outside, -⟩
    · exact onward
    · exact nomatch admitted.symm.trans outside
  · exact ⟨next, found, stage ▸ admitted⟩

/-! ### The way out -/

def AloneIn (activity : Activity) (index : Nat) : Prop :=
  ∀ (other : Nat) (call : StartCall), other ≠ index → activity.starts[other]? = some call →
    call.stage.isAdmitted = false

theorem AloneIn.earlier {activity last : Activity} {index : Nat} {moves : List Move}
    {effects : List Effect} (alone : last.AloneIn index)
    (ran : activity.run moves = some (last, effects)) : activity.AloneIn index := by
  intro other call different here
  cases admitted : call.stage.isAdmitted with
  | false => rfl
  | true =>
      obtain ⟨next, found, still⟩ := run_keeps step_letIn ran ⟨call, here, admitted⟩
      exact nomatch still.symm.trans (alone other next different found)

def Resigns (server : Server) : StartStage → Prop
  | .withdraw _ => server.running = false
  | .releasePool _ => server.running = false ∧ server.published = none
  | _ => True

theorem Resigns.mono {server after : Server} {stage : StartStage} (resigns : Resigns server stage)
    (idle : server.running = false → after.running = false)
    (published : after.published = server.published) : Resigns after stage := by
  cases stage with
  | withdraw ending => exact idle resigns
  | releasePool ending => exact ⟨idle resigns.1, published.trans resigns.2⟩
  | _ => trivial

theorem Resigns.proceeds {index : Nat} {server after : Server} {call next : StartCall}
    {move : Move} {effects : List Effect} (resigns : Resigns server call.stage)
    (proceeds : Proceeds index server call move next after effects) :
    Resigns after next.stage := by
  cases proceeds with
  | @served move stage pool effects caller before serving =>
      cases stage with
      | withdraw ending | releasePool ending => cases serving
      | _ => trivial
  | cleared stage => rfl
  | withdrew stage =>
      rw [stage] at resigns
      exact ⟨resigns, rfl⟩
  | _ => trivial

theorem server_beside {activity after : Activity} {index : Nat} {move : Move}
    {effects : List Effect} (moved : activity.step move = some (after, effects))
    (stand : activity.AllStand) (alone : after.AloneIn index)
    (others : move.caller? ≠ some index) :
    (activity.server.running = false → after.server.running = false) ∧
      after.server.published = activity.server.published := by
  cases step_moved moved with
  | @proceeded move other call next server effects there proceeds =>
      have different : other ≠ index := by
        rintro rfl
        exact others proceeds.caller
      have outside := alone other next different
        (List.getElem?_set_self (List.getElem?_eq_some_iff.mp there).1)
      rcases (stand other call there).proceeds proceeds with admitted | ⟨-, rfl, -⟩
      · exact nomatch admitted.symm.trans outside
      · exact ⟨id, rfl⟩
  | cleared => exact ⟨fun _ => rfl, rfl⟩
  | closed =>
      rw [server_stopStart]
      exact ⟨id, rfl⟩
  | _ => exact ⟨id, rfl⟩

theorem step_resigns {activity after : Activity} {index : Nat} {call : StartCall} {move : Move}
    {effects : List Effect} (moved : activity.step move = some (after, effects))
    (stand : activity.AllStand) (alone : after.AloneIn index)
    (here : activity.starts[index]? = some call) (resigns : Resigns activity.server call.stage) :
    ∃ next, after.starts[index]? = some next ∧ Resigns after.server next.stage := by
  obtain ⟨next, found, proceeds | ⟨others, stage, -⟩⟩ := step_entry moved here
  · exact ⟨next, found, resigns.proceeds proceeds⟩
  · obtain ⟨idle, published⟩ := server_beside moved stand alone others
    exact ⟨next, found, stage ▸ resigns.mono idle published⟩

theorem run_resigns {activity last : Activity} {index : Nat} {call : StartCall}
    {moves : List Move} {effects : List Effect} (ran : activity.run moves = some (last, effects))
    (stand : activity.AllStand) (alone : last.AloneIn index)
    (here : activity.starts[index]? = some call) (resigns : Resigns activity.server call.stage) :
    ∃ next, last.starts[index]? = some next ∧ Resigns last.server next.stage := by
  induction moves generalizing activity call effects with
  | nil =>
      cases ran
      exact ⟨call, here, resigns⟩
  | cons move rest ih =>
      obtain ⟨reached, first, later, moved, continued, -⟩ := run_cons ran
      obtain ⟨next, found, still⟩ :=
        step_resigns moved stand (alone.earlier continued) here resigns
      exact ih continued (step_stand moved stand) found still

theorem Proceeds.returns {index : Nat} {server after : Server} {call next : StartCall}
    {move : Move} {effects : List Effect} {ending : RunEnding}
    (proceeds : Proceeds index server call move next after effects)
    (returned : next.stage = .returned ending) (admitted : ending.isRefusal = false) :
    call.stage = .releasePool ending ∧ after = { server with pool := server.pool.stop } := by
  cases proceeds with
  | refused | unloaded =>
      cases returned
      cases admitted
  | released stage =>
      cases returned
      exact ⟨stage, rfl⟩
  | served caller before serving =>
      dsimp only at returned
      rw [returned] at serving
      cases serving
  | _ => cases returned

/-! ### Between one start call and the next -/

def holdsMark : StartStage → Bool
  | .load .. | .enter | .withdraw _ | .releasePool _ | .returned _ => false
  | _ => true

def holdsListener : StartStage → Bool
  | .load .. | .enter | .releasePool _ | .returned _ => false
  | _ => true

def Held (starts : List StartCall) (holds : StartStage → Bool) : Prop :=
  ∃ (index : Nat) (call : StartCall), starts[index]? = some call ∧ holds call.stage = true

/-- Whoever runs the server holds its mark, and whoever is known by it holds a listener. -/
structure Owned (activity : Activity) : Prop where
  mark : activity.server.running = true → Held activity.starts holdsMark
  listener : activity.server.published ≠ none → Held activity.starts holdsListener

theorem holds_of_isServing {stage : StartStage} (serving : stage.isServing = true) :
    holdsMark stage = true ∧ holdsListener stage = true := by
  cases stage with
  | startPool | announce | loop | await | received arrival | hand connection => exact ⟨rfl, rfl⟩
  | _ => cases serving

theorem Proceeds.mark {index : Nat} {server after : Server} {call next : StartCall} {move : Move}
    {effects : List Effect} (proceeds : Proceeds index server call move next after effects)
    (running : after.running = true) : holdsMark next.stage = true ∨
      (server.running = true ∧ holdsMark call.stage = false) := by
  cases proceeds with
  | loaded stage | unloaded stage | refused stage =>
      exact .inr ⟨running, by rw [stage]; rfl⟩
  | served caller before serving => exact .inl (holds_of_isServing serving).1
  | cleared => cases running
  | withdrew stage | released stage => exact .inr ⟨running, by rw [stage]; rfl⟩
  | _ => exact .inl rfl

theorem Proceeds.listener {index : Nat} {server after : Server} {call next : StartCall}
    {move : Move} {effects : List Effect}
    (proceeds : Proceeds index server call move next after effects)
    (known : after.published ≠ none) : holdsListener next.stage = true ∨
      (server.published ≠ none ∧ holdsListener call.stage = false) := by
  cases proceeds with
  | loaded stage | unloaded stage | refused stage => exact .inr ⟨known, by rw [stage]; rfl⟩
  | served caller before serving => exact .inl (holds_of_isServing serving).2
  | withdrew stage => exact absurd rfl known
  | released stage => exact .inr ⟨known, by rw [stage]; rfl⟩
  | _ => exact .inl rfl

theorem Held.set {starts : List StartCall} {holds : StartStage → Bool} {index : Nat}
    {call next : StartCall} (here : starts[index]? = some call)
    (held : holds next.stage = true ∨ (Held starts holds ∧ holds call.stage = false)) :
    Held (starts.set index next) holds := by
  have bound := (List.getElem?_eq_some_iff.mp here).1
  rcases held with now | ⟨⟨other, holder, there, had⟩, nothing⟩
  · exact ⟨index, next, List.getElem?_set_self bound, now⟩
  · have different : index ≠ other := by
      rintro rfl
      cases here.symm.trans there
      exact nomatch had.symm.trans nothing
    exact ⟨other, holder, (List.getElem?_set_ne different).trans there, had⟩

theorem Held.append {starts : List StartCall} {holds : StartStage → Bool}
    (held : Held starts holds) (more : List StartCall) : Held (starts ++ more) holds := by
  obtain ⟨index, holder, here, had⟩ := held
  have bound := (List.getElem?_eq_some_iff.mp here).1
  exact ⟨index, holder, (List.getElem?_append_left bound).trans here, had⟩

theorem Held.stopStart {activity : Activity} {holds : StartStage → Bool}
    (held : Held activity.starts holds) (closed : Nat) :
    Held (activity.stopStart closed).starts holds := by
  obtain ⟨index, holder, here, had⟩ := held
  refine ⟨index, _, (getElem?_stopStart activity closed index).trans (congrArg _ here), ?_⟩
  split
  · exact had
  · exact had

theorem step_owned {activity after : Activity} {move : Move} {effects : List Effect}
    (moved : activity.step move = some (after, effects)) (owned : activity.Owned) :
    after.Owned := by
  cases step_moved moved with
  | called =>
      exact ⟨fun running => (owned.mark running).append _,
        fun known => (owned.listener known).append _⟩
  | proceeded here proceeds =>
      refine ⟨fun running => Held.set here ?_, fun known => Held.set here ?_⟩
      · exact (proceeds.mark running).imp id fun earlier => ⟨owned.mark earlier.1, earlier.2⟩
      · exact (proceeds.listener known).imp id fun earlier => ⟨owned.listener earlier.1, earlier.2⟩
  | stopCalled | idled | found | missed | pooled => exact ⟨owned.mark, owned.listener⟩
  | cleared => exact ⟨nofun, owned.listener⟩
  | @closed stop closed =>
      refine ⟨fun running => Held.stopStart ?_ closed, fun known => Held.stopStart ?_ closed⟩
      · rw [server_stopStart] at running
        exact owned.mark running
      · rw [server_stopStart] at known
        exact owned.listener known

theorem Reached.idle {server : Server} (reached : Reached server) :
    server.running = false ∧ server.published = none ∧ server.pool.Tidy := by
  induction reached with
  | made options => exact ⟨rfl, rfl, fun _ => ⟨rfl, rfl⟩⟩
  | routed reached router ih => exact ih
  | timed reached seconds ih => exact ih
  | limited reached maximum ih => exact ih
  | @ran server moves activity effects reached ran ended stopped ih =>
      obtain ⟨unmarked, hidden, tidy⟩ := ih
      have begun : ({ server } : Activity).Owned :=
        ⟨fun running => (nomatch running.symm.trans unmarked), fun known => absurd hidden known⟩
      have owned := run_keeps step_owned ran begun
      refine ⟨?_, ?_, (run_frame ran).1.tidy tidy⟩
      · cases running : activity.server.running with
        | false => rfl
        | true =>
            obtain ⟨index, call, here, holds⟩ := owned.mark running
            obtain ⟨ending, returned⟩ := ended call (List.mem_of_getElem? here)
            rw [returned] at holds
            cases holds
      · by_contra known
        obtain ⟨index, call, here, holds⟩ := owned.listener known
        obtain ⟨ending, returned⟩ := ended call (List.mem_of_getElem? here)
        rw [returned] at holds
        cases holds

/-! ### Every exit -/

theorem run_append {activity last : Activity} {front back : List Move} {effects : List Effect}
    (ran : activity.run (front ++ back) = some (last, effects)) :
    ∃ reached early late, activity.run front = some (reached, early) ∧
      reached.run back = some (last, late) := by
  induction front generalizing activity effects with
  | nil => exact ⟨activity, [], effects, rfl, ran⟩
  | cons move rest ih =>
      obtain ⟨next, first, later, moved, continued, -⟩ := run_cons ran
      obtain ⟨reached, early, late, reaches, ends⟩ := ih continued
      exact ⟨reached, first ++ early, late, by simp [run, moved, reaches], ends⟩

theorem stop_emptied {pool : Pool ConnectionTask} (tidy : pool.Tidy) :
    pool.stop.running = false ∧ pool.stop.live = 0 ∧ pool.stop.queue = [] := by
  have idle : pool.stop.running = false := by
    unfold Pool.stop
    split
    · rfl
    · rename_i idle
      simpa using idle
  obtain ⟨workers, queue⟩ := (keeps_stop pool).tidy tidy idle
  exact ⟨idle, by simp [Pool.live, workers], queue⟩

theorem atRest_of {activity : Activity} (unmarked : activity.server.running = false)
    (hidden : activity.server.published = none) (idle : activity.server.pool.running = false)
    (staffless : activity.server.pool.live = 0) (emptied : activity.server.pool.queue = []) :
    activity.AtRest where
  unmarked := unmarked
  hidden := by simp [address?, hidden]
  idle := idle
  staffless := staffless
  emptied := emptied
  admits host port := by
    simp [run, step, proceedStart?, setStart, setServer, StartCall.made, unmarked]

theorem address?_eq (activity : Activity) :
    activity.address? = activity.server.published.bind fun run =>
      (activity.starts[run]?.map StartCall.listener).bind Listener.address := by
  unfold address?
  cases activity.server.published with
  | none => rfl
  | some run =>
      cases here : activity.starts[run]? with
      | none => simp [here]
      | some call => simp [here]

theorem address?_setStart {activity : Activity} {index : Nat} {call next : StartCall}
    (here : activity.starts[index]? = some call) (same : next.listener = call.listener) :
    (activity.setStart index next).address? = activity.address? := by
  have listeners (run : Nat) : (activity.starts.set index next)[run]?.map StartCall.listener =
      activity.starts[run]?.map StartCall.listener := by
    by_cases ours : index = run
    · subst ours
      rw [List.getElem?_set_self (List.getElem?_eq_some_iff.mp here).1, here]
      exact congrArg some same
    · rw [List.getElem?_set_ne ours]
  simp only [address?_eq, setStart, listeners]

/-- What a start call leaves alone that is refused. -/
structure Untouched (index : Nat) (before after : Activity) : Prop where
  server : after.server = before.server
  address : after.address? = before.address?
  stops : after.stops = before.stops
  others : ∀ other ≠ index, after.starts[other]? = before.starts[other]?

theorem allStand_calling (server : Server) (host : String) (port : Nat)
    (identity : Option (String × String)) : (calling server host port identity).AllStand := by
  intro index call here
  obtain rfl := List.mem_singleton.mp (List.mem_of_getElem? here)
  exact standing_made host port identity

theorem resigns_made (server : Server) (host : String) (port : Nat)
    (identity : Option (String × String)) :
    Resigns server (StartCall.made host port identity).stage := by
  cases identity <;> trivial

theorem atRest_of_returned {server : Server} (tidy : server.pool.Tidy) {host : String} {port : Nat}
    {identity : Option (String × String)} {during : List Move} {activity : Activity}
    {effects : List Effect} {call : StartCall} {ending : RunEnding}
    (ran : (calling server host port identity).run (during ++ [.proceed 0]) =
      some (activity, effects))
    (here : activity.starts[0]? = some call) (returned : call.stage = .returned ending)
    (admitted : ending.isRefusal = false) (alone : activity.AloneIn 0) :
    activity.AtRest := by
  obtain ⟨reached, early, late, reaches, ends⟩ := run_append ran
  obtain ⟨next, first, rest, moved, done, -⟩ := run_cons ends
  cases done
  obtain ⟨last, there, resigns⟩ := run_resigns reaches (allStand_calling server host port identity)
    (alone.earlier ends) rfl (resigns_made server host port identity)
  obtain ⟨found, next, after, same, proceeds, rfl⟩ := (step_moved moved).proceeds rfl
  cases there.symm.trans same
  cases here.symm.trans (List.getElem?_set_self (List.getElem?_eq_some_iff.mp there).1)
  obtain ⟨stage, rfl⟩ := proceeds.returns returned admitted
  rw [stage] at resigns
  obtain ⟨idle, staffless, emptied⟩ := stop_emptied ((run_frame reaches).1.tidy tidy)
  exact atRest_of resigns.1 resigns.2 idle staffless emptied

theorem untouched_of_refused {server : Server} {early late : List Move} {move : Move}
    {index : Nat} {before after last : Activity} {seen brought more : List Effect}
    {call : StartCall} {ending : RunEnding}
    (ran : ({ server } : Activity).run early = some (before, seen))
    (moved : before.step move = some (after, brought)) (caller : move.caller? = some index)
    (onward : after.run late = some (last, more)) (here : last.starts[index]? = some call)
    (returned : call.stage = .returned ending) (refusal : ending.isRefusal = true) :
    Untouched index before after ∧ (∀ effect ∈ brought, ∃ line, effect = .log line) ∧
      call.listener.socket = none := by
  have begun : ({ server } : Activity).AllStand := by
    rintro index call ⟨⟩
  have stand := run_keeps step_stand ran begun
  have outside : call.stage.isAdmitted = false := by simp [returned, StartStage.isAdmitted, refusal]
  obtain ⟨found, next, changed, there, proceeds, rfl⟩ := (step_moved moved).proceeds caller
  have bound := (List.getElem?_eq_some_iff.mp there).1
  rcases (stand index found there).proceeds proceeds with admitted | ⟨-, rfl, fresh, step⟩
  · have letIn : ((before.setStart index next).setServer changed).LetIn index :=
      ⟨next, List.getElem?_set_self bound, admitted⟩
    obtain ⟨still, now, admitted⟩ := run_keeps step_letIn onward letIn
    cases here.symm.trans now
    exact nomatch admitted.symm.trans outside
  · refine ⟨⟨rfl, ?_, rfl, fun other different => ?_⟩, step.lines, ?_⟩
    · exact address?_setStart there step.listener
    · exact List.getElem?_set_ne (Ne.symm different)
    · cases run_keeps step_stand onward (step_stand moved stand) index call here with
      | waiting _ fresh | refused _ _ fresh => rw [fresh]
      | admitted admitted => exact nomatch admitted.symm.trans outside

theorem getElem?_concat_of_ne {starts : List StartCall} {call : StartCall} {index : Nat}
    (different : index ≠ starts.length) : (starts ++ [call])[index]? = starts[index]? := by
  rcases Nat.lt_or_gt_of_ne different with before | behind
  · exact List.getElem?_append_left before
  · have beyond : (starts ++ [call]).length ≤ index := by
      rw [List.length_append]
      exact behind
    rw [List.getElem?_eq_none beyond, List.getElem?_eq_none (Nat.le_of_lt behind)]

theorem untouched_of_unloaded {library : Tls.Library} {files : FileTree}
    {certificatePath keyPath : String} {error : TlsError}
    (failed : TlsIdentity.load library files certificatePath keyPath = .error error)
    (activity : Activity) (host : String) (port : Nat) :
    ∃ after, activity.run [.start host port (some (certificatePath, keyPath)),
        .loaded activity.starts.length library files] =
          some (after, [.log (notLoadedLine error)]) ∧
      after.starts = activity.starts ++
        [{ host, port, secure := true, stage := .returned (.failed (.tls error)) }] ∧
      Untouched activity.starts.length activity after := by
  refine ⟨{ activity with starts := activity.starts ++
    [{ host, port, secure := true, stage := .returned (.failed (.tls error)) }] }, ?_, rfl, ?_⟩
  · simp [run, step, StartCall.made, failed, setStart]
  · refine ⟨rfl, ?_, rfl, fun other => getElem?_concat_of_ne⟩
    simp only [address?_eq]
    cases activity.server.published with
    | none => rfl
    | some known =>
        by_cases ours : known = activity.starts.length
        · subst ours
          simp
        · rw [Option.bind_some, Option.bind_some, getElem?_concat_of_ne ours]

/-- Whatever ends a start call that was let in, with TLS or without, and whatever stops and pool
calls went on beside it, the server is then at rest, with its tables, its options and the size of
its pool as before. A start call that is refused opens no socket and touches nothing by any of its
steps, also while another one runs the server, and neither does one whose identity is not
loaded. -/
theorem exits_at_rest {server : Server} (reached : Reached server) :
    (∀ {host : String} {port : Nat} {identity : Option (String × String)} {during : List Move}
        {activity : Activity} {effects : List Effect} {call : StartCall} {ending : RunEnding},
      (calling server host port identity).run (during ++ [.proceed 0]) =
          some (activity, effects) →
        activity.starts[0]? = some call → call.stage = .returned ending →
          ending.isRefusal = false → activity.AloneIn 0 →
            activity.AtRest ∧ activity.server.router = server.router ∧
              activity.server.options = server.options ∧
              ((∀ requested, .resizePool requested ∉ during) →
                activity.server.pool.size = server.pool.size)) ∧
    (∀ {early late : List Move} {move : Move} {index : Nat} {before after last : Activity}
        {seen brought more : List Effect} {call : StartCall} {ending : RunEnding},
      ({ server } : Activity).run early = some (before, seen) →
        before.step move = some (after, brought) → move.caller? = some index →
          after.run late = some (last, more) → last.starts[index]? = some call →
            call.stage = .returned ending → ending.isRefusal = true →
              Untouched index before after ∧ (∀ effect ∈ brought, ∃ line, effect = .log line) ∧
                call.listener.socket = none) ∧
    ∀ {library : Tls.Library} {files : FileTree} {certificatePath keyPath : String}
        {error : TlsError},
      TlsIdentity.load library files certificatePath keyPath = .error error →
        ∀ (activity : Activity) (host : String) (port : Nat), ∃ after,
          activity.run [.start host port (some (certificatePath, keyPath)),
              .loaded activity.starts.length library files] =
            some (after, [.log (notLoadedLine error)]) ∧
          after.starts = activity.starts ++
            [{ host, port, secure := true, stage := .returned (.failed (.tls error)) }] ∧
          Untouched activity.starts.length activity after := by
  refine ⟨?_, untouched_of_refused, untouched_of_unloaded⟩
  intro host port identity during activity effects call ending ran here returned admitted alone
  obtain ⟨frame, size⟩ := run_frame ran
  refine ⟨atRest_of_returned reached.idle.2.2 ran here returned admitted alone, frame.router,
    frame.options, fun kept => size (by simpa using kept)⟩

def staffedServer : Server :=
  { idleServer with pool := idleServer.pool.start.resize 3 }

theorem reached_staffedServer : Reached staffedServer := by
  have ran : ({ server := idleServer } : Activity).run [.startPool, .resizePool 3] =
    some ({ server := staffedServer }, [.log (Server.sizeLine 3)]) := rfl
  exact .ran (.made { workers := 2 }) ran (List.forall_mem_nil _) (List.forall_mem_nil _)

def outcome (call : StartCall) : Phase × Option RunEnding :=
  (call.stage.phase, call.stage.ending?)

theorem stage_of_outcome {call : StartCall} {ending : RunEnding}
    (ended : outcome call = (.gone, some ending)) : call.stage = .returned ending := by
  unfold outcome at ended
  cases stage : call.stage with
  | returned other =>
      rw [stage] at ended
      cases ended
      rfl
  | _ =>
      rw [stage] at ended
      cases ended

theorem getElem?_of_outcomes {starts : List StartCall} {outcomes : List (Phase × Option RunEnding)}
    (known : starts.map outcome = outcomes) (index : Nat) {ended : Phase × Option RunEnding}
    (there : outcomes[index]? = some ended) :
    ∃ call, starts[index]? = some call ∧ outcome call = ended := by
  rw [← known, List.getElem?_map] at there
  exact Option.map_eq_some_iff.mp there

def blankLibrary : Tls.Library where
  certificates _ := []
  items _ := []
  keyFault? _ := none
  agreement _ _ := .unknown
  settingsFault? _ _ := none

def stoppedRun : List Move :=
  (opening 0).tail ++ ([.start "::1" 80 none, .proceed 1] ++ (stopping 0 ++ (closing 0).dropLast))

theorem exits_at_rest_stopped :
    (∃ activity effects, (calling staffedServer "127.0.0.1" 8080 none).run
      (stoppedRun ++ [.proceed 0]) = some (activity, effects) ∧ activity.AtRest ∧
        activity.server.pool.size = staffedServer.pool.size) ∧
    (∃ before after seen brought, ({ server := staffedServer } : Activity).run
      (opening 0 ++ [.start "::1" 80 none]) = some (before, seen) ∧
        before.step (.proceed 1) = some (after, brought) ∧ Untouched 1 before after) ∧
    ∃ after, (calling staffedServer "127.0.0.1" 8080 none).run
        [.start "" 443 (some ("cert.pem", "key.pem")), .loaded 1 blankLibrary {}] =
      some (after, [.log (notLoadedLine
        (.certificateFile "cert.pem" FileError.missing.asIoError))]) ∧
      Untouched 1 (calling staffedServer "127.0.0.1" 8080 none) after := by
  obtain ⟨admitted, refused, unloaded⟩ := exits_at_rest reached_staffedServer
  refine ⟨?_, ?_, ?_⟩
  · have possible : ((calling staffedServer "127.0.0.1" 8080 none).run
        (stoppedRun ++ [.proceed 0])).map (fun reached => reached.1.starts.map outcome) =
          some [(.gone, some .finished), (.gone, some (.failed .alreadyRunning))] := by decide
    obtain ⟨⟨activity, effects⟩, ran, outcomes⟩ := Option.map_eq_some_iff.mp possible
    obtain ⟨call, here, finished⟩ := getElem?_of_outcomes outcomes 0 rfl
    have alone : activity.AloneIn 0 := by
      intro other beside different there
      have ended : (activity.starts.map outcome)[other]? = some (outcome beside) := by
        rw [List.getElem?_map, there, Option.map_some]
      rw [outcomes] at ended
      match other with
      | 0 => exact absurd rfl different
      | 1 => rw [stage_of_outcome (Option.some.inj ended).symm]; rfl
      | more + 2 => cases ended
    have unsized : ∀ requested, Move.resizePool requested ∉ stoppedRun := by
      simp [stoppedRun, opening, stopping, closing]
    obtain ⟨rests, -, -, size⟩ := admitted ran here (stage_of_outcome finished) rfl alone
    exact ⟨activity, effects, ran, rests, size unsized⟩
  · have possible : (({ server := staffedServer } : Activity).run
        (opening 0 ++ [.start "::1" 80 none])).map (fun before =>
          (before.1.step (.proceed 1)).map fun after => after.1.starts.map outcome) =
        some (some [(.serving, none), (.gone, some (.failed .alreadyRunning))]) := by decide
    obtain ⟨⟨before, seen⟩, ran, possible⟩ := Option.map_eq_some_iff.mp possible
    obtain ⟨⟨after, brought⟩, moved, outcomes⟩ := Option.map_eq_some_iff.mp possible
    obtain ⟨call, here, ended⟩ := getElem?_of_outcomes outcomes 1 rfl
    refine ⟨before, after, seen, brought, ran, moved, ?_⟩
    have onward : after.run [] = some (after, []) := rfl
    exact (refused ran moved rfl onward here (stage_of_outcome ended) rfl).1
  · have failed : TlsIdentity.load blankLibrary {} "cert.pem" "key.pem" =
        .error (.certificateFile "cert.pem" FileError.missing.asIoError) := rfl
    obtain ⟨after, ran, -, untouched⟩ :=
      unloaded failed (calling staffedServer "127.0.0.1" 8080 none) "" 443
    exact ⟨after, ran, untouched⟩

end Activity

end HttpServer
