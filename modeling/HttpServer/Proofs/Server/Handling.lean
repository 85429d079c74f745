import HttpServer.Proofs.Connection.Faults
import HttpServer.Proofs.Framing.Segmentation
import HttpServer.Proofs.Pool.Conservation
import HttpServer.Server.Run

/-!
Connections that are handled by a server. Whoever handles one, at once or as a worker of the pool,
sends what the server answers to the same bytes without a connection, and logs the same lines.
-/

namespace HttpServer

/-! ### Tasks that are taken -/

namespace Pool

variable {α : Type}

theorem run_trans {pool middle last : Pool α} {before after : List (Move α)}
    {first later : List (Effect α)} (begun : pool.run before = some (middle, first))
    (continued : middle.run after = some (last, later)) :
    pool.run (before ++ after) = some (last, first ++ later) := by
  induction before generalizing pool first with
  | nil =>
      cases begun
      exact continued
  | cons move rest ih =>
      obtain ⟨next, now, remaining, moved, rested, rfl⟩ := run_cons begun
      simp [run, moved, ih rested]

theorem exists_awake {pool : Pool α} {index : Nat} {worker : Worker α}
    (there : pool.workers[index]? = some worker) (live : worker.isLive = true) :
    ∃ moves last effects generation, pool.run moves = some (last, effects) ∧
      last.workers[index]? = some ⟨generation, .awake⟩ ∧ last.running = pool.running ∧
      last.queue = pool.queue := by
  have within := (List.getElem?_eq_some_iff.mp there).1
  obtain ⟨generation, state⟩ := worker
  cases state with
  | awake => exact ⟨[], pool, [], generation, rfl, there, rfl, rfl⟩
  | asleep =>
      refine ⟨[.wake index], pool.setWorker index ⟨generation, .awake⟩, [], generation, ?_, ?_⟩
      · simp [run, step, there, Worker.isAsleep, Worker.wake]
      · exact ⟨List.getElem?_set_self within, rfl, rfl⟩
  | busy task =>
      refine ⟨[.finish index none], pool.setWorker index ⟨generation, .awake⟩, [], generation,
        ?_, ?_⟩
      · simp [run, step, there, afterTask]
      · exact ⟨List.getElem?_set_self within, rfl, rfl⟩
  | finished => cases live

theorem exists_took_first {pool : Pool α} {index : Nat} {worker : Worker α} {task : α}
    {rest : List α} (running : pool.running = true) (there : pool.workers[index]? = some worker)
    (live : worker.isLive = true) (queued : pool.queue = task :: rest) :
    ∃ moves last effects generation, pool.run moves = some (last, effects) ∧
      .took index task ∈ effects ∧ last.workers[index]? = some ⟨generation, .busy task⟩ ∧
      last.running = true ∧ last.queue = rest := by
  obtain ⟨moves, ready, effects, generation, ran, awake, same, kept⟩ := exists_awake there live
  rw [queued] at kept
  rw [running] at same
  have within := (List.getElem?_eq_some_iff.mp awake).1
  have looked : ready.run [.look index] =
      some ({ ready with queue := rest }.setWorker index ⟨generation, .busy task⟩,
        [.took index task]) := by
    simp [run, step, look, awake, same, kept]
  exact ⟨_, _, _, generation, run_trans ran looked, List.mem_append_right _ List.mem_cons_self,
    List.getElem?_set_self within, same, rfl⟩

theorem exists_took {pool : Pool α} {index : Nat} {worker : Worker α} {front rest : List α}
    {task : α} (running : pool.running = true) (there : pool.workers[index]? = some worker)
    (live : worker.isLive = true) (queued : pool.queue = front ++ task :: rest) :
    ∃ moves last effects, pool.run moves = some (last, effects) ∧ .took index task ∈ effects := by
  -- The worker takes what waits in front, and is live again when it has done with it.
  induction front generalizing pool worker with
  | nil =>
      obtain ⟨moves, last, effects, _, ran, took, -⟩ := exists_took_first running there live queued
      exact ⟨moves, last, effects, ran, took⟩
  | cons first front ih =>
      obtain ⟨moves, next, effects, generation, ran, -, busy, same, kept⟩ :=
        exists_took_first running there live queued
      obtain ⟨more, last, later, continued, took⟩ := ih same busy rfl kept
      exact ⟨_, _, _, run_trans ran continued, List.mem_append_right _ took⟩

end Pool

/-! ### Connections on which nothing fails -/

namespace Connection

structure Smooth (connection : Connection) : Prop where
  readTimeout : connection.readTimeout = none
  writeTimeout : connection.writeTimeout = none
  handshake : connection.secure = true → connection.handshake = none
  accepted : ∀ error, .failure error ∉ connection.acceptances
  moving : .taken 0 ∉ connection.acceptances
  flush : connection.flush = none
  close : connection.close = none

theorem Smooth.opened {connection : Connection} (smooth : Smooth connection) :
    failureOf connection.opening = none :=
  connection.opened_iff.mpr ⟨smooth.readTimeout, smooth.writeTimeout, smooth.handshake⟩

theorem Smooth.written {connection : Connection} (smooth : Smooth connection) (answer : Bytes) :
    (writeAll answer connection.acceptances).failure = none := by
  by_contra failed
  obtain ⟨error, failed⟩ := Option.ne_none_iff_exists'.mp failed
  rcases writeFrom_failure failed with refused | ⟨-, stalled⟩
  · exact smooth.accepted error refused
  · exact smooth.moving stalled

theorem Smooth.sent {connection : Connection} (smooth : Smooth connection) (answer : Bytes)
    (events : List Event) : failureOf (connection.send answer events).steps = none ∧
      (connection.send answer events).trail connection.peer = { sent := some answer, events } := by
  have written := smooth.written answer
  have complete := (writeAll_spec answer connection.acceptances).2.mp written
  have ok : failureOf (connection.send answer events).steps = none := by
    simp [send, Course.failureOf_after, written, smooth.flush, smooth.close]
  refine ⟨ok, ?_⟩
  rw [Course.trail, ok]
  simp [send, complete]

def Trail.ofReply (reply : Router.Reply) : Trail :=
  match reply.bytes with
  | .ok answer => { sent := some answer, events := reply.events }
  | .error payload => { events := reply.events, escaped := some payload }

theorem Smooth.responded {connection : Connection} (smooth : Smooth connection) (router : Router)
    (files : FileTree) (input : Bytes) :
    (connection.respond router files input).trail connection.peer =
      .ofReply (router.answer files input) := by
  cases reply : (router.answer files input).bytes with
  | ok answer =>
      obtain ⟨ok, trail⟩ := smooth.sent answer (router.answer files input).events
      simp only [Trail.ofReply, reply]
      rw [← trail, connection.respond_of_ok router files reply]
      simp only [Course.trail, failureOf_cons, Option.none_or]
  | error payload =>
      rw [connection.respond_of_error router files reply]
      simp [Course.trail, Trail.ofReply, reply, Fault.line?, Fault.payload?]

theorem Smooth.handled {connection : Connection} (smooth : Smooth connection) {input : Bytes}
    (something : input ≠ [])
    (read : (Framing.readRequest connection.deliveries).result = .ok input) (router : Router)
    (files : FileTree) :
    connection.handle router files = .ofReply (router.answer files input) ∧
      ∀ answer, (router.answer files input).bytes = .ok answer →
        ∃ writes, (connection.course router files).steps.map Step.operation =
          plan connection.secure (Framing.readRequest connection.deliveries).reads input
            writes := by
  constructor
  · rw [connection.handle_eq, smooth.opened, read]
    cases input with
    | nil => exact absurd rfl something
    | cons byte rest => exact smooth.responded router files (byte :: rest)
  · intro answer returned
    have ok : failureOf (connection.respond router files input).steps = none := by
      rw [connection.respond_of_ok router files returned, failureOf_cons, Option.none_or]
      exact (smooth.sent answer _).1
    obtain ⟨writes, operations⟩ := connection.operations_respond_of_none router files input ok
    refine ⟨writes, ?_⟩
    rw [connection.course_of_opened router files smooth.opened,
      connection.serve_of_input router files something read]
    simp only [List.map_append, operations, operations_opening, operations_calls,
      Option.toList_none, List.length_nil, Nat.add_zero, plan, List.append_assoc]

theorem Smooth.handled_nothing {connection : Connection} (smooth : Smooth connection)
    (nothing : (Framing.readRequest connection.deliveries).result = .ok []) (router : Router)
    (files : FileTree) :
    connection.handle router files = .logged (emptyLine connection.peer) ∧
      ∀ input, .answer input ∉ (connection.course router files).steps.map Step.operation := by
  constructor
  · rw [connection.handle_eq, smooth.opened, nothing]
  · rw [connection.course_of_opened router files smooth.opened,
      connection.serve_of_nothing router files nothing, List.map_append, operations_opening,
      operations_calls]
    intro input member
    rcases List.mem_append.mp member with greeted | read
    · rw [greeting] at greeted
      split at greeted <;> simp at greeted
    · cases List.eq_of_mem_replicate read

end Connection

/-! ### What is read -/

namespace Framing

theorem Carries.read {sent : Bytes} {deliveries : List Delivery}
    (carries : Carries sent deliveries) (framed : sent.length ≤ wanted sent) :
    (readRequest deliveries).result = .ok sent := by
  obtain ⟨received, read, receivable⟩ := carries.receivable
  have whole := receivable.eq_take (.inl framed)
  rw [List.take_of_length_le framed] at whole
  rw [read, whole]

theorem readRequest_exact {reads : List Delivery}
    (goesOn : ∀ delivery ∈ reads, delivery.GoesOn)
    (exact : (gathered reads).length = wanted (gathered reads)) (later : List Delivery) :
    (readRequest (reads ++ later)).result = .ok (gathered reads) ∧
      (readRequest (reads ++ later)).reads ≤ reads.length := by
  obtain ⟨before, after, completes⟩ := exists_completes (Nat.le_of_eq exact.symm)
  have all := completes.gathered_eq exact
  have split : gathered reads = [] ++ (gathered before ++ gathered after) := by
    simp [completes.split]
  have first : ∀ delivery ∈ before, delivery.GoesOn := fun delivery member =>
    goesOn delivery (by simp [completes.split, member])
  have portions := flatMap_portions goesOn .silence
  simp only [Ending.deliveries, List.append_nil] at portions
  have done := readFrom_completes first split completes.enough completes.first 0
    (after ++ later.flatMap Delivery.portions)
  have room : (gathered reads).length ≤ maxRequest := exact ▸ wanted_le (gathered reads)
  rw [readRequest, List.flatMap_append, portions, completes.split, List.append_assoc, done]
  rw [← completes.split, List.nil_append, all, List.take_of_length_le room, Nat.zero_add]
  refine ⟨rfl, ?_⟩
  rw [completes.split, List.length_append]
  exact Nat.le_add_right _ _

end Framing

/-! ### Who handles a connection -/

namespace Activity

/-- What comes of a connection that a start call hands over, as a task: the start call runs it at
once, or a worker takes it from the pool, whatever else the pool does before and beside. -/
inductive Handled (activity : Activity) (index : Nat) (files : FileTree)
    (connection : Connection) : Connection.Trail → Prop
  | direct {task : ConnectionTask} (ran : .ran index task ∈ (activity.hand index connection).2) :
      Handled activity index files connection (task.run files)
  | pooled {moves : List (Pool.Move ConnectionTask)} {pool : Pool ConnectionTask}
      {effects : List (Pool.Effect ConnectionTask)} {worker : Nat} {task : ConnectionTask}
      (queued : .queued index task ∈ (activity.hand index connection).2)
      (ran : (activity.hand index connection).1.server.pool.run moves = some (pool, effects))
      (took : .took worker task ∈ effects) :
      Handled activity index files connection (task.run files)

def Staffed (server : Server) : Prop :=
  server.options.threaded = true → server.pool.running = true ∧ 0 < server.pool.live

section

variable {activity : Activity} {index : Nat} {files : FileTree} {connection : Connection}

theorem hand_of_unthreaded (unthreaded : activity.server.options.threaded = false) :
    activity.hand index connection =
      (activity, [.ran index ⟨activity.server.router, connection⟩]) := by
  simp [hand, unthreaded]

theorem hand_of_running (threaded : activity.server.options.threaded = true)
    (running : activity.server.pool.running = true) :
    activity.hand index connection =
      (activity.setServer
        { activity.server with
          pool := { activity.server.pool with
            queue := activity.server.pool.queue ++ [⟨activity.server.router, connection⟩] } },
        [.queued index ⟨activity.server.router, connection⟩]) := by
  simp [hand, threaded, Pool.enqueue, running]

theorem hand_of_halted (threaded : activity.server.options.threaded = true)
    (halted : activity.server.pool.running = false) :
    activity.hand index connection =
      (activity, [.dropped index ⟨activity.server.router, connection⟩,
        .log (droppedLine connection)]) := by
  simp [hand, threaded, Pool.enqueue, halted]

theorem task_of_hand {task : ConnectionTask}
    (handed : .queued index task ∈ (activity.hand index connection).2 ∨
      .ran index task ∈ (activity.hand index connection).2) :
    task = ⟨activity.server.router, connection⟩ := by
  cases threaded : activity.server.options.threaded with
  | false =>
      rw [hand_of_unthreaded threaded] at handed
      simpa using handed
  | true =>
      cases running : activity.server.pool.running with
      | true =>
          rw [hand_of_running threaded running] at handed
          simpa using handed
      | false =>
          rw [hand_of_halted threaded running] at handed
          simp at handed

theorem Handled.trail_eq {trail : Connection.Trail}
    (handled : Handled activity index files connection trail) :
    trail = connection.handle activity.server.router files := by
  cases handled with
  | direct ran => rw [task_of_hand (.inr ran), ConnectionTask.run]
  | pooled queued => rw [task_of_hand (.inl queued), ConnectionTask.run]

theorem Staffed.exists_handled (staffed : Staffed activity.server) :
    ∃ trail, Handled activity index files connection trail := by
  let task : ConnectionTask := ⟨activity.server.router, connection⟩
  cases threaded : activity.server.options.threaded with
  | false =>
      have ran : .ran index task ∈ (activity.hand index connection).2 := by
        rw [hand_of_unthreaded threaded]
        exact List.mem_singleton_self _
      exact ⟨_, .direct ran⟩
  | true =>
      obtain ⟨running, staff⟩ := staffed threaded
      obtain ⟨worker, member, live⟩ := List.countP_pos_iff.mp staff
      obtain ⟨number, there⟩ := List.getElem?_of_mem member
      have handed : .queued index task ∈ (activity.hand index connection).2 := by
        rw [hand_of_running threaded running]
        exact List.mem_singleton_self _
      have pool : (activity.hand index connection).1.server.pool =
          { activity.server.pool with queue := activity.server.pool.queue ++ task :: [] } := by
        rw [hand_of_running threaded running]
        rfl
      rw [← congrArg Pool.running pool] at running
      rw [← congrArg Pool.workers pool] at there
      obtain ⟨moves, last, effects, ran, took⟩ :=
        Pool.exists_took running there live (congrArg Pool.queue pool)
      exact ⟨_, .pooled handed ran took⟩

variable (activity index files) in
/-- A connection on which nothing fails, and which brings no more than the request needs, is sent
just what the server answers to those bytes, with the same lines, however they are divided and
whoever handles it. A request that has come whole is answered without another read. If nothing
comes, nothing is sent and the router is not called. -/
theorem handled_as_answered (smooth : connection.Smooth) {sent : Bytes} {need : Nat}
    (needs : Framing.Needs sent need) (framed : sent.length ≤ need)
    (carries : Framing.Carries sent connection.deliveries) :
    (Staffed activity.server → ∃ trail, Handled activity index files connection trail) ∧
    (sent ≠ [] → ∀ trail, Handled activity index files connection trail →
      trail = .ofReply (activity.server.answer files sent) ∧
      ∀ answer, (activity.server.answer files sent).bytes = .ok answer → ∃ reads writes,
        (connection.course activity.server.router files).steps.map Connection.Step.operation =
          Connection.plan connection.secure reads sent writes) ∧
    (sent.length = need → ∀ reads later, (∀ delivery ∈ reads, delivery.GoesOn) →
      Framing.gathered reads = sent →
      ∀ trail, Handled activity index files { connection with deliveries := reads ++ later } trail →
        trail = .ofReply (activity.server.answer files sent) ∧
        ∀ answer, (activity.server.answer files sent).bytes = .ok answer → ∃ made writes,
          made ≤ reads.length ∧
          (Connection.course activity.server.router files
            { connection with deliveries := reads ++ later }).steps.map
              Connection.Step.operation =
            Connection.plan connection.secure made sent writes) ∧
    (sent = [] → ∀ trail, Handled activity index files connection trail →
      trail = .logged (Connection.emptyLine connection.peer) ∧
      ∀ input, .answer input ∉
        (connection.course activity.server.router files).steps.map
          Connection.Step.operation) := by
  obtain rfl := Framing.needs_iff.mp needs
  have read := carries.read framed
  refine ⟨Staffed.exists_handled, ?_, ?_, ?_⟩
  · intro something trail handled
    obtain ⟨same, complete⟩ := smooth.handled something read activity.server.router files
    exact ⟨handled.trail_eq.trans same, fun answer returned => ⟨_, complete answer returned⟩⟩
  · intro exact reads later goesOn gathers trail handled
    subst gathers
    have something : Framing.gathered reads ≠ [] := by
      intro nothing
      have positive := Framing.wanted_pos (Framing.gathered reads)
      rw [← exact, nothing] at positive
      exact absurd positive (Nat.lt_irrefl 0)
    obtain ⟨now, few⟩ := Framing.readRequest_exact goesOn exact later
    have smooth' : Connection.Smooth { connection with deliveries := reads ++ later } :=
      ⟨smooth.readTimeout, smooth.writeTimeout, smooth.handshake, smooth.accepted, smooth.moving,
        smooth.flush, smooth.close⟩
    obtain ⟨same, complete⟩ := smooth'.handled something now activity.server.router files
    refine ⟨handled.trail_eq.trans same, fun answer returned => ?_⟩
    obtain ⟨writes, operations⟩ := complete answer returned
    exact ⟨_, writes, few, operations⟩
  · rintro rfl trail handled
    obtain ⟨same, silent⟩ := smooth.handled_nothing read activity.server.router files
    exact ⟨handled.trail_eq.trans same, silent⟩

end

def pooledActivity : Activity :=
  { server := { options := { workers := 1 }, pool := (Pool.ofSize 1).start } }

def wholeRequest : Bytes :=
  Utf8.bytes "GET / HTTP/1.1\r\n\r\n"

def piecemeal : Connection where
  peer := "127.0.0.1:50000"
  deliveries := [.data (wholeRequest.take 17), .interrupted, .data (wholeRequest.drop 17),
    .data []]
  acceptances := [.taken 3, .interrupted]

theorem handled_as_answered_piecemeal :
    piecemeal.Smooth ∧ Framing.Needs wholeRequest 18 ∧ wholeRequest.length ≤ 18 ∧
    Framing.Carries wholeRequest piecemeal.deliveries ∧
    (∃ trail, Handled pooledActivity 0 {} piecemeal trail) ∧
    ∀ trail, Handled pooledActivity 0 {} piecemeal trail →
      trail = .ofReply (pooledActivity.server.answer {} wholeRequest) := by
  have smooth : piecemeal.Smooth :=
    ⟨rfl, rfl, by decide, by simp [piecemeal], by decide, rfl, rfl⟩
  have needs : Framing.Needs wholeRequest 18 := Framing.needs_iff.mpr (by decide)
  have framed : wholeRequest.length ≤ 18 := by decide
  have carries : Framing.Carries wholeRequest piecemeal.deliveries :=
    ⟨[.data (wholeRequest.take 17), .interrupted, .data (wholeRequest.drop 17)], .closed, rfl,
      by decide, by decide, .inr rfl⟩
  have agrees := handled_as_answered pooledActivity 0 {} smooth needs framed carries
  refine ⟨smooth, needs, framed, carries, agrees.1 ?_, ?_⟩
  · intro _
    exact ⟨rfl, by decide⟩
  · intro trail handled
    exact (agrees.2.1 (by decide) trail handled).1

end Activity

end HttpServer
