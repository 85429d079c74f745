import HttpServer.Proofs.Listener
import HttpServer.Proofs.Server.SingleRun

/-!
What a move can do, said once: to the call that makes it, to the server, and what it brings about.
The phases of `Goes` tell which start calls are under way; here are their listeners too, and the
way they end.
-/

namespace HttpServer

/-! ### The pool of a server -/

def Pool.Tidy {α : Type} (pool : Pool α) : Prop :=
  pool.running = false → pool.workers = [] ∧ pool.queue = []

/-- What a whole call may leave of a pool, unless it gives it a new size. -/
structure Pool.Keeps {α : Type} (before after : Pool α) : Prop where
  size : after.size = before.size
  tidy : before.Tidy → after.Tidy

namespace Activity

theorem tidy_of_running {pool : Pool ConnectionTask} (running : pool.running = true) : pool.Tidy :=
  fun stopped => nomatch running.symm.trans stopped

theorem keeps_start (pool : Pool ConnectionTask) : pool.Keeps pool.start where
  size := by
    unfold Pool.start
    split
    · rfl
    · rfl
  tidy := fun _ => tidy_of_running (running_start pool)

theorem keeps_stop (pool : Pool ConnectionTask) : pool.Keeps pool.stop where
  size := by
    unfold Pool.stop
    split
    · rfl
    · rfl
  tidy := by
    unfold Pool.stop
    split
    · exact fun _ _ => ⟨rfl, rfl⟩
    · exact id

theorem keeps_enqueue (pool : Pool ConnectionTask) (task : ConnectionTask) :
    pool.Keeps (pool.enqueue task).1 := by
  unfold Pool.enqueue
  split
  · rename_i running
    exact ⟨rfl, fun _ => tidy_of_running running⟩
  · exact ⟨rfl, id⟩

theorem tidy_resize {pool : Pool ConnectionTask} (tidy : pool.Tidy) (requested : Nat) :
    (pool.resize requested).Tidy := by
  unfold Pool.resize
  split
  · exact tidy_of_running (running_start _)
  · exact tidy

end Activity

/-! ### One step of a start call -/

def StartStage.ending? : StartStage → Option RunEnding
  | .clearRunning ending | .withdraw ending | .releasePool ending | .returned ending => some ending
  | _ => none

def StartStage.isServing : StartStage → Bool
  | .startPool | .announce | .loop | .await | .received _ | .hand _ => true
  | _ => false

def StartStage.isHanding : StartStage → Bool
  | .hand _ => true
  | _ => false

namespace Activity

def Effect.hander? : Effect → Option Nat
  | .queued index _ | .ran index _ | .dropped index _ => some index
  | .log _ => none

def handers (effects : List Effect) : List Nat :=
  effects.filterMap Effect.hander?

def Move.caller? : Move → Option Nat
  | .loaded index .. | .bound index _ | .listened index _ | .arrived index _ | .proceed index
  | .panic index => some index
  | _ => none

def Move.isPooling : Move → Bool
  | .startPool | .stopPool | .resizePool _ => true
  | _ => false

/-- What one step makes of a start call and of the server. -/
inductive Proceeds (index : Nat) (server : Server) (call : StartCall) :
    Move → StartCall → Server → List Effect → Prop
  | loaded {library : Tls.Library} {files : FileTree} {certificatePath keyPath : String}
      (stage : call.stage = .load certificatePath keyPath) :
      Proceeds index server call (.loaded index library files) { call with stage := .enter }
        server [.log loadedLine]
  | unloaded {library : Tls.Library} {files : FileTree} {certificatePath keyPath : String}
      {error : TlsError} (stage : call.stage = .load certificatePath keyPath)
      (failed : TlsIdentity.load library files certificatePath keyPath = .error error) :
      Proceeds index server call (.loaded index library files)
        { call with stage := .returned (.failed (.tls error)) } server [.log (notLoadedLine error)]
  | refused (stage : call.stage = .enter) (running : server.running = true) :
      Proceeds index server call (.proceed index)
        { call with stage := .returned (.failed .alreadyRunning) } server []
  | admitted (stage : call.stage = .enter) (idle : server.running = false) :
      Proceeds index server call (.proceed index) { call with stage := .bind }
        { server with running := true } []
  | bound {opens : SocketAddress → Except IoError SocketAddress} {listener : Listener}
      (stage : call.stage = .bind) (silent : listener.running = call.listener.running) :
      Proceeds index server call (.bound index opens) { call with listener, stage := .listen }
        server []
  | listened {failure : Option IoError} {listener : Listener} (stage : call.stage = .listen) :
      Proceeds index server call (.listened index failure)
        { call with listener, stage := .publish } server []
  | denied {move : Move} {error : ServerError} (caller : move.caller? = some index)
      (stage : call.stage = .bind ∨ call.stage = .listen) (other : error.isRefusal = false) :
      Proceeds index server call move { call with stage := .fail error } server []
  | published (stage : call.stage = .publish) :
      Proceeds index server call (.proceed index) { call with stage := .recheck }
        { server with published := some index } []
  | confirmed (stage : call.stage = .recheck) (running : server.running = true) :
      Proceeds index server call (.proceed index) { call with stage := .startPool } server []
  | recalled (stage : call.stage = .recheck) (stopped : server.running = false) :
      Proceeds index server call (.proceed index)
        { call with listener := call.listener.stop, stage := .startPool } server []
  | served {move : Move} {stage : StartStage} {pool : Pool ConnectionTask} {effects : List Effect}
      (caller : move.caller? = some index) (before : call.stage.isServing = true)
      (after : stage.isServing = true) (kept : server.pool.Keeps pool)
      (takes : stage.isHanding = true → call.listener.running = true)
      (hands : ∀ caller ∈ handers effects, caller = index ∧ call.stage.isHanding = true) :
      Proceeds index server call move { call with stage } { server with pool } effects
  | closed (before : call.stage.isServing = true) (silent : call.listener.running = false) :
      Proceeds index server call (.proceed index) { call with stage := .stopPool } server []
  | stopped (stage : call.stage = .stopPool) :
      Proceeds index server call (.proceed index) { call with stage := .conclude }
        { server with pool := server.pool.stop } []
  | concluded {line : Log.Line} (stage : call.stage = .conclude) :
      Proceeds index server call (.proceed index) { call with stage := .clearRunning .finished }
        server [.log line]
  | failed {error : ServerError} {line : Log.Line} (stage : call.stage = .fail error) :
      Proceeds index server call (.proceed index)
        { call with stage := .clearRunning (.failed error) } server [.log line]
  | panicked (inside : call.stage.isInside = true) :
      Proceeds index server call (.panic index) { call with stage := .clearRunning .panicked }
        server []
  | cleared {ending : RunEnding} (stage : call.stage = .clearRunning ending) :
      Proceeds index server call (.proceed index) { call with stage := .withdraw ending }
        { server with running := false } []
  | withdrew {ending : RunEnding} (stage : call.stage = .withdraw ending) :
      Proceeds index server call (.proceed index) { call with stage := .releasePool ending }
        { server with published := none } []
  | released {ending : RunEnding} (stage : call.stage = .releasePool ending) :
      Proceeds index server call (.proceed index) { call with stage := .returned ending }
        { server with pool := server.pool.stop } []

theorem Proceeds.caller {index : Nat} {server after : Server} {call next : StartCall} {move : Move}
    {effects : List Effect} (proceeds : Proceeds index server call move next after effects) :
    move.caller? = some index := by
  cases proceeds with
  | denied caller => exact caller
  | served caller => exact caller
  | _ => rfl

theorem hand_keeps (activity : Activity) (index : Nat) (connection : Connection) :
    (∃ pool, activity.server.pool.Keeps pool ∧
      (activity.hand index connection).1 = activity.setServer { activity.server with pool }) ∧
    handers (activity.hand index connection).2 = [index] := by
  have enqueued := keeps_enqueue activity.server.pool
    { router := activity.server.router, connection }
  unfold hand
  dsimp only
  split
  · split
    · exact ⟨⟨_, enqueued, rfl⟩, rfl⟩
    · exact ⟨⟨_, ⟨rfl, id⟩, rfl⟩, rfl⟩
  · exact ⟨⟨_, ⟨rfl, id⟩, rfl⟩, rfl⟩

theorem proceedStart?_proceeds {activity after : Activity} {index : Nat} {call : StartCall}
    {effects : List Effect} (moved : activity.proceedStart? index call = some (after, effects)) :
    ∃ next server, Proceeds index activity.server call (.proceed index) next server effects ∧
      after = (activity.setStart index next).setServer server := by
  unfold proceedStart? at moved
  cases stage : call.stage with
  | load certificatePath keyPath | bind | listen | await | returned ending =>
      rw [stage] at moved
      cases moved
  | enter =>
      simp only [stage] at moved
      split at moved
      · rename_i running
        cases moved
        exact ⟨_, _, .refused stage running, rfl⟩
      · rename_i idle
        cases moved
        exact ⟨_, _, .admitted stage (by simpa using idle), rfl⟩
  | publish =>
      simp only [stage] at moved
      cases moved
      exact ⟨_, _, .published stage, rfl⟩
  | recheck =>
      simp only [stage] at moved
      split at moved
      · rename_i running
        cases moved
        exact ⟨_, _, .confirmed stage running, rfl⟩
      · rename_i stopped
        cases moved
        exact ⟨_, _, .recalled stage (by simpa using stopped), rfl⟩
  | startPool =>
      have before : call.stage.isServing = true := by rw [stage]; rfl
      simp only [stage] at moved
      split at moved
      all_goals cases moved
      · exact ⟨_, _, .served rfl before rfl (keeps_start _) (by nofun) (by nofun), rfl⟩
      · exact ⟨_, _, .served rfl before rfl ⟨rfl, id⟩ (by nofun) (by nofun), rfl⟩
  | announce =>
      have before : call.stage.isServing = true := by rw [stage]; rfl
      simp only [stage] at moved
      cases moved
      exact ⟨_, _, .served rfl before rfl ⟨rfl, id⟩ (by nofun) (by nofun), rfl⟩
  | loop =>
      have before : call.stage.isServing = true := by rw [stage]; rfl
      simp only [stage] at moved
      cases moved
      cases silent : call.listener.running with
      | true => exact ⟨_, _, .served rfl before rfl ⟨rfl, id⟩ (by nofun) (by nofun), rfl⟩
      | false => exact ⟨_, _, .closed before silent, rfl⟩
  | received arrival =>
      have before : call.stage.isServing = true := by rw [stage]; rfl
      simp only [stage] at moved
      split at moved
      · rename_i running
        cases arrival with
        | ok connection =>
            cases moved
            exact ⟨_, _, .served rfl before rfl ⟨rfl, id⟩ (fun _ => running) (by nofun), rfl⟩
        | error error =>
            cases moved
            exact ⟨_, _, .served rfl before rfl ⟨rfl, id⟩ (by nofun) (by nofun), rfl⟩
      · rename_i silent
        cases moved
        exact ⟨_, _, .closed before (by simpa using silent), rfl⟩
  | hand connection =>
      have before : call.stage.isServing = true := by rw [stage]; rfl
      simp only [stage, Option.some.injEq] at moved
      obtain ⟨⟨pool, kept, handed⟩, hander⟩ :=
        hand_keeps (activity.setStart index { call with stage := .loop }) index connection
      rw [moved] at handed hander
      refine ⟨_, _, .served rfl before rfl kept (by nofun) ?_, handed⟩
      intro caller member
      rw [hander] at member
      exact ⟨List.mem_singleton.mp member, by rw [stage]; rfl⟩
  | stopPool =>
      simp only [stage] at moved
      cases moved
      exact ⟨_, _, .stopped stage, rfl⟩
  | conclude =>
      simp only [stage] at moved
      cases moved
      exact ⟨_, _, .concluded stage, rfl⟩
  | fail error =>
      simp only [stage] at moved
      cases moved
      exact ⟨_, _, .failed stage, rfl⟩
  | clearRunning ending =>
      simp only [stage] at moved
      cases moved
      exact ⟨_, _, .cleared stage, rfl⟩
  | withdraw ending =>
      simp only [stage] at moved
      cases moved
      exact ⟨_, _, .withdrew stage, rfl⟩
  | releasePool ending =>
      simp only [stage] at moved
      cases moved
      exact ⟨_, _, .released stage, rfl⟩

theorem bind_running (listener : Listener) (host : String) (port : Nat)
    (opens : SocketAddress → Except IoError SocketAddress) :
    (listener.bind host port opens).1.running = listener.running := by
  rcases listener.bind_cases host port opens with ⟨_, -, -, failed⟩ | ⟨_, -, done⟩
  · rw [failed]
  · rw [done]

theorem bind_error {listener : Listener} {host : String} {port : Nat}
    {opens : SocketAddress → Except IoError SocketAddress} {error : ServerError}
    (denied : (listener.bind host port opens).2 = .error error) : error.isRefusal = false := by
  rcases listener.bind_cases host port opens with ⟨_, other, -, failed⟩ | ⟨_, -, done⟩
  · rw [failed] at denied
    exact Except.error.inj denied ▸ other
  · rw [done] at denied
    cases denied

theorem listen_error {listener : Listener} {failure : Option IoError} {error : ServerError}
    (denied : (listener.listen failure).2 = .error error) : error.isRefusal = false := by
  rcases listener.listen_cases failure with ⟨-, failed⟩ | ⟨_, -, -, failed⟩ | ⟨-, -, done⟩
  · rw [failed] at denied
    cases denied
    rfl
  · rw [failed] at denied
    cases denied
    rfl
  · rw [done] at denied
    cases denied

/-! ### One move -/

theorem getElem?_stopStart (activity : Activity) (closed index : Nat) :
    (activity.stopStart closed).starts[index]? = activity.starts[index]?.map fun call =>
      if closed = index then { call with listener := call.listener.stop } else call := by
  by_cases same : closed = index
  · subst same
    simp only [↓reduceIte]
    cases here : activity.starts[closed]? with
    | none => simp [stopStart, here]
    | some call =>
        simp only [stopStart, here]
        exact List.getElem?_set_self (List.getElem?_eq_some_iff.mp here).1
  · simp only [same, ↓reduceIte, Option.map_id_fun', id]
    unfold stopStart
    split
    · exact List.getElem?_set_ne same
    · rfl

inductive Moved (activity : Activity) : Move → Activity → List Effect → Prop
  | called (host : String) (port : Nat) (identity : Option (String × String)) :
      Moved activity (.start host port identity)
        { activity with starts := activity.starts ++ [.made host port identity] } []
  | proceeded {move : Move} {index : Nat} {call next : StartCall} {server : Server}
      {effects : List Effect} (here : activity.starts[index]? = some call)
      (proceeds : Proceeds index activity.server call move next server effects) :
      Moved activity move ((activity.setStart index next).setServer server) effects
  | stopCalled : Moved activity .stop { activity with stops := activity.stops ++ [.clear] } []
  | cleared {stop : Nat} (here : activity.stops[stop]? = some .clear)
      (running : activity.server.running = true) :
      Moved activity (.proceedStop stop)
        { activity with
          server := { activity.server with running := false }
          stops := activity.stops.set stop .lookUp } []
  | idled {stop : Nat} (here : activity.stops[stop]? = some .clear)
      (idle : activity.server.running = false) :
      Moved activity (.proceedStop stop)
        { activity with stops := activity.stops.set stop .returned } []
  | found {stop index : Nat} (here : activity.stops[stop]? = some .lookUp)
      (published : activity.server.published = some index) :
      Moved activity (.proceedStop stop)
        { activity with stops := activity.stops.set stop (.close index) } []
  | missed {stop : Nat} (here : activity.stops[stop]? = some .lookUp)
      (hidden : activity.server.published = none) :
      Moved activity (.proceedStop stop)
        { activity with stops := activity.stops.set stop .returned } []
  | closed {stop index : Nat} (here : activity.stops[stop]? = some (.close index)) :
      Moved activity (.proceedStop stop)
        ({ activity with stops := activity.stops.set stop .returned }.stopStart index) []
  | pooled {move : Move} {pool : Pool ConnectionTask} {effects : List Effect}
      (pooling : move.isPooling = true) (tidy : activity.server.pool.Tidy → pool.Tidy)
      (size : (∀ requested, move ≠ .resizePool requested) → pool.size = activity.server.pool.size)
      (nothing : handers effects = []) :
      Moved activity move (activity.setServer { activity.server with pool }) effects

theorem proceedStop?_moved {activity after : Activity} {index : Nat} {stage : StopStage}
    (here : activity.stops[index]? = some stage)
    (moved : activity.proceedStop? index stage = some after) :
    Moved activity (.proceedStop index) after [] := by
  unfold proceedStop? at moved
  cases stage with
  | clear =>
      dsimp only at moved
      split at moved
      · rename_i running
        cases moved
        exact .cleared here running
      · rename_i idle
        cases moved
        exact .idled here (by simpa using idle)
  | lookUp =>
      dsimp only at moved
      split at moved
      · rename_i start published
        cases moved
        exact .found here published
      · rename_i hidden
        cases moved
        exact .missed here hidden
  | close start =>
      cases moved
      exact .closed here
  | returned => cases moved

theorem step_moved {activity after : Activity} {move : Move} {effects : List Effect}
    (moved : activity.step move = some (after, effects)) : Moved activity move after effects := by
  cases move with
  | start host port identity =>
      cases moved
      exact .called host port identity
  | stop =>
      cases moved
      exact .stopCalled
  | loaded index library files =>
      obtain ⟨call, here, moved⟩ := Option.bind_eq_some_iff.mp moved
      cases stage : call.stage with
      | load certificatePath keyPath =>
          rw [stage] at moved
          dsimp only at moved
          split at moved
          · cases moved
            exact .proceeded here (.loaded stage)
          · rename_i failed
            cases moved
            exact .proceeded here (.unloaded stage failed)
      | _ =>
          rw [stage] at moved
          cases moved
  | bound index opens =>
      obtain ⟨call, here, moved⟩ := Option.bind_eq_some_iff.mp moved
      cases stage : call.stage with
      | bind =>
          have silent := bind_running call.listener call.host call.port opens
          rw [stage] at moved
          dsimp only at moved
          split at moved
          · rename_i listener address answer
            rw [answer] at silent
            cases moved
            exact .proceeded here (.bound stage silent)
          · rename_i listener error answer
            cases moved
            exact .proceeded here (.denied rfl (.inl stage) (bind_error (by rw [answer])))
      | _ =>
          rw [stage] at moved
          cases moved
  | listened index failure =>
      obtain ⟨call, here, moved⟩ := Option.bind_eq_some_iff.mp moved
      cases stage : call.stage with
      | listen =>
          rw [stage] at moved
          dsimp only at moved
          split at moved
          · cases moved
            exact .proceeded here (.listened stage)
          · rename_i listener error answer
            cases moved
            exact .proceeded here (.denied rfl (.inr stage) (listen_error (by rw [answer])))
      | _ =>
          rw [stage] at moved
          cases moved
  | arrived index arrival =>
      obtain ⟨call, here, moved⟩ := Option.bind_eq_some_iff.mp moved
      cases stage : call.stage with
      | await =>
          have before : call.stage.isServing = true := by rw [stage]; rfl
          rw [stage] at moved
          cases moved
          exact .proceeded here (.served rfl before rfl ⟨rfl, id⟩ (by nofun) (by nofun))
      | _ =>
          rw [stage] at moved
          cases moved
  | proceed index =>
      obtain ⟨call, here, moved⟩ := Option.bind_eq_some_iff.mp moved
      obtain ⟨next, server, proceeds, rfl⟩ := proceedStart?_proceeds moved
      exact .proceeded here proceeds
  | panic index =>
      obtain ⟨call, here, moved⟩ := Option.bind_eq_some_iff.mp moved
      split at moved
      · rename_i inside
        cases moved
        exact .proceeded here (.panicked inside)
      · cases moved
  | proceedStop index =>
      obtain ⟨stage, here, moved⟩ := Option.bind_eq_some_iff.mp moved
      obtain ⟨next, stopped, same⟩ := Option.bind_eq_some_iff.mp moved
      cases same
      exact proceedStop?_moved here stopped
  | startPool =>
      cases moved
      have kept := keeps_start activity.server.pool
      exact .pooled rfl kept.tidy (fun _ => kept.size) rfl
  | stopPool =>
      cases moved
      have kept := keeps_stop activity.server.pool
      exact .pooled rfl kept.tidy (fun _ => kept.size) rfl
  | resizePool requested =>
      cases moved
      exact .pooled rfl (fun tidy => tidy_resize tidy requested)
        (fun other => absurd rfl (other requested)) rfl

theorem caller?_of_isPooling {move : Move} (pooling : move.isPooling = true) :
    move.caller? = none := by
  cases move with
  | startPool | stopPool | resizePool requested => rfl
  | _ => cases pooling

theorem step_entry {activity after : Activity} {index : Nat} {call : StartCall} {move : Move}
    {effects : List Effect} (moved : activity.step move = some (after, effects))
    (here : activity.starts[index]? = some call) :
    ∃ next, after.starts[index]? = some next ∧
      (Proceeds index activity.server call move next after.server effects ∨
        (move.caller? ≠ some index ∧ next.stage = call.stage ∧
          (next.listener = call.listener ∨ next.listener = call.listener.stop))) := by
  have bound := (List.getElem?_eq_some_iff.mp here).1
  cases step_moved moved with
  | called =>
      exact ⟨call, (List.getElem?_append_left bound).trans here, .inr ⟨nofun, rfl, .inl rfl⟩⟩
  | @proceeded move other found next server effects there proceeds =>
      by_cases same : other = index
      · subst same
        cases here.symm.trans there
        exact ⟨next, List.getElem?_set_self bound, .inl proceeds⟩
      · refine ⟨call, (List.getElem?_set_ne same).trans here, .inr ⟨?_, rfl, .inl rfl⟩⟩
        rw [proceeds.caller]
        exact fun ours => same (Option.some.inj ours)
  | stopCalled | cleared | idled | found | missed =>
      exact ⟨call, here, .inr ⟨nofun, rfl, .inl rfl⟩⟩
  | @closed stop other =>
      refine ⟨_, (getElem?_stopStart _ other index).trans (congrArg _ here), .inr ⟨nofun, ?_⟩⟩
      split
      · exact ⟨rfl, .inr rfl⟩
      · exact ⟨rfl, .inl rfl⟩
  | pooled pooling =>
      refine ⟨call, here, .inr ⟨?_, rfl, .inl rfl⟩⟩
      rw [caller?_of_isPooling pooling]
      nofun

theorem run_keeps {Kept : Activity → Prop}
    (keeps : ∀ {activity after : Activity} {move : Move} {effects : List Effect},
      activity.step move = some (after, effects) → Kept activity → Kept after)
    {activity last : Activity} {moves : List Move} {effects : List Effect}
    (ran : activity.run moves = some (last, effects)) (kept : Kept activity) : Kept last := by
  induction moves generalizing activity effects with
  | nil =>
      cases ran
      exact kept
  | cons move rest ih =>
      obtain ⟨reached, first, later, moved, continued, -⟩ := run_cons ran
      exact ih continued (keeps moved kept)

def calling (server : Server) (host : String) (port : Nat)
    (identity : Option (String × String)) : Activity :=
  { server, starts := [.made host port identity] }

end Activity

end HttpServer
