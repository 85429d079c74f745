import HttpServer.Proofs.Connection.Steps
import HttpServer.Proofs.Framing.Reading
import HttpServer.Proofs.Router.Visits

/-!
The faults of a connection. Whatever becomes of its operations, the first that fails is the last
that is made, and is logged once. The router is called at most once, on exactly the bytes that
were read, and only what it answers is sent. A panic that the router lets through ends the
connection unlogged, and goes on.
-/

namespace HttpServer

/-! ### What is read -/

namespace Framing

theorem readFrom_ok {received input : Bytes} {reads : Nat} {deliveries : List Delivery}
    (read : (readFrom received reads deliveries).result = .ok input) :
    ∃ made, deliveries = made ++ (readFrom received reads deliveries).left ∧
      (∀ error, .failure error ∉ made) ∧ input = (received ++ gathered made).take maxRequest := by
  fun_induction readFrom received reads deliveries with
  | case1 received reads enough =>
      cases read
      exact ⟨[], rfl, by simp, by simp⟩
  | case2 received reads short =>
      cases read
      exact ⟨[], rfl, by simp, by simp⟩
  | case3 received reads delivery rest enough =>
      cases read
      exact ⟨[], rfl, by simp, by simp⟩
  | case4 received reads rest short ih =>
      obtain ⟨made, split, sound, same⟩ := ih read
      exact ⟨.interrupted :: made, congrArg _ split, by simpa using sound, same⟩
  | case5 received reads rest short error => cases read
  | case6 received reads rest short =>
      cases read
      exact ⟨[.data []], rfl, by simp, by simp [Delivery.bytes]⟩
  | case7 received reads rest short bytes filled ih =>
      obtain ⟨made, split, sound, same⟩ := ih read
      refine ⟨.data bytes :: made, congrArg _ split, by simpa using sound, ?_⟩
      rw [same, gathered_cons, List.append_assoc]
      rfl

theorem readFrom_error {received : Bytes} {reads : Nat} {deliveries : List Delivery}
    {error : IoError} (failed : (readFrom received reads deliveries).result = .error error) :
    ∃ made, deliveries = made ++ .failure error :: (readFrom received reads deliveries).left ∧
      ∀ other, .failure other ∉ made := by
  fun_induction readFrom received reads deliveries with
  | case1 received reads enough => cases failed
  | case2 received reads short => cases failed
  | case3 received reads delivery rest enough => cases failed
  | case4 received reads rest short ih =>
      obtain ⟨made, split, sound⟩ := ih failed
      exact ⟨.interrupted :: made, congrArg _ split, by simpa using sound⟩
  | case5 received reads rest short error =>
      cases failed
      exact ⟨[], rfl, by simp⟩
  | case6 received reads rest short => cases failed
  | case7 received reads rest short bytes filled ih =>
      obtain ⟨made, split, sound⟩ := ih failed
      exact ⟨.data bytes :: made, congrArg _ split, by simpa using sound⟩

end Framing

namespace Connection

open Framing (readRequest gathered)

/-! ### What is written -/

theorem writeFrom_spec (taken left : Bytes) (calls : Nat) (acceptances : List Acceptance) :
    ∃ more, (writeFrom taken left calls acceptances).taken = taken ++ more ∧ more <+: left ∧
      ((writeFrom taken left calls acceptances).failure = none ↔ more = left) := by
  fun_induction writeFrom taken left calls acceptances with
  | case1 taken left calls nothing =>
      have empty : [] = left := (List.isEmpty_iff.mp nothing).symm
      exact ⟨[], by simp, List.nil_prefix, by simpa using empty⟩
  | case2 taken left calls something => exact ⟨left, by simp⟩
  | case3 taken left calls acceptance rest nothing =>
      have empty : [] = left := (List.isEmpty_iff.mp nothing).symm
      exact ⟨[], by simp, List.nil_prefix, by simpa using empty⟩
  | case4 taken left calls rest something ih => exact ih
  | case5 taken left calls rest something error =>
      have full : [] ≠ left := fun empty => something (List.isEmpty_iff.mpr empty.symm)
      exact ⟨[], by simp, List.nil_prefix, by simpa using full⟩
  | case6 taken left calls rest something =>
      have full : [] ≠ left := fun empty => something (List.isEmpty_iff.mpr empty.symm)
      exact ⟨[], by simp, List.nil_prefix, by simpa using full⟩
  | case7 taken left calls rest something count positive ih =>
      obtain ⟨more, same, begins, complete⟩ := ih
      have split := List.take_append_drop count left
      refine ⟨left.take count ++ more, by rw [same, List.append_assoc], ?_, ?_⟩
      · have longer := (List.prefix_append_right_inj (left.take count)).mpr begins
        rwa [split] at longer
      · rw [complete, ← List.append_right_inj (left.take count), split]

/-- What is taken of an answer is its beginning, and all of it exactly if no write fails. -/
theorem writeAll_spec (answer : Bytes) (acceptances : List Acceptance) :
    (writeAll answer acceptances).taken <+: answer ∧
      ((writeAll answer acceptances).failure = none ↔
        (writeAll answer acceptances).taken = answer) := by
  obtain ⟨more, same, begins, complete⟩ := writeFrom_spec [] answer 0 acceptances
  rw [List.nil_append] at same
  rw [writeAll, same]
  exact ⟨begins, complete⟩

theorem writeFrom_failure {taken left : Bytes} {calls : Nat} {acceptances : List Acceptance}
    {error : IoError} (failed : (writeFrom taken left calls acceptances).failure = some error) :
    .failure error ∈ acceptances ∨ error = stalledError ∧ .taken 0 ∈ acceptances := by
  fun_induction writeFrom taken left calls acceptances with
  | case1 => cases failed
  | case2 => cases failed
  | case3 => cases failed
  | case4 taken left calls rest something ih =>
      rcases ih failed with refused | ⟨same, stalled⟩
      · exact .inl (List.mem_cons_of_mem _ refused)
      · exact .inr ⟨same, List.mem_cons_of_mem _ stalled⟩
  | case5 taken left calls rest something other =>
      cases failed
      exact .inl List.mem_cons_self
  | case6 taken left calls rest something =>
      cases failed
      exact .inr ⟨rfl, List.mem_cons_self⟩
  | case7 taken left calls rest something count positive ih =>
      rcases ih failed with refused | ⟨same, stalled⟩
      · exact .inl (List.mem_cons_of_mem _ refused)
      · exact .inr ⟨same, List.mem_cons_of_mem _ stalled⟩

/-! ### Operations in their order -/

def Step.input? (step : Step) : Option Bytes :=
  match step.operation with
  | .answer input => some input
  | _ => none

def greeting (secure : Bool) : List Operation :=
  [.limitReads, .limitWrites] ++ if secure then [.shakeHands] else []

def plan (secure : Bool) (reads : Nat) (input : Bytes) (writes : Nat) : List Operation :=
  greeting secure ++ List.replicate reads .read ++
    .answer input :: (List.replicate writes .write ++ [.flush, .close])

/-- A step fails as it is given beforehand, or as the router does. -/
def Scripted (router : Router) (files : FileTree) (connection : Connection) (step : Step) : Prop :=
  match step.operation with
  | .limitReads => step.failure = connection.readTimeout.map .io
  | .limitWrites => step.failure = connection.writeTimeout.map .io
  | .shakeHands => connection.secure = true ∧ step.failure = connection.handshake.map .tls
  | .read => ∀ fault, step.failure = some fault →
      ∃ error, fault = .io error ∧ .failure error ∈ connection.deliveries
  | .answer input => step.failure =
      match (router.answer files input).bytes with
      | .ok _ => none
      | .error payload => some (.panic payload)
  | .write => ∀ fault, step.failure = some fault → ∃ error, fault = .io error ∧
      (.failure error ∈ connection.acceptances ∨
        error = stalledError ∧ .taken 0 ∈ connection.acceptances)
  | .flush => step.failure = connection.flush.map .io
  | .close => step.failure = connection.close.map .io

theorem operations_calls (operation : Operation) (done : Nat) (failure : Option IoError) :
    (calls operation done failure).map Step.operation =
      List.replicate (done + failure.toList.length) operation := by
  cases failure with
  | none => simp [calls]
  | some error => simp [calls, List.replicate_succ']

theorem mem_calls {operation : Operation} {done : Nat} {failure : Option IoError} {step : Step}
    (member : step ∈ calls operation done failure) :
    step.operation = operation ∧ (step.failure = none ∨ step.failure = failure.map .io) := by
  rcases List.mem_append.mp member with done | last
  · rw [List.eq_of_mem_replicate done]
    exact ⟨rfl, .inl rfl⟩
  · cases failure with
    | none => cases last
    | some error =>
        rw [List.mem_singleton.mp last]
        exact ⟨rfl, .inr rfl⟩

theorem inputs_of_forall {steps : List Step} (none_given : ∀ step ∈ steps, step.input? = none) :
    steps.filterMap Step.input? = [] :=
  List.filterMap_eq_nil_iff.mpr none_given

theorem inputs_calls_read (done : Nat) (failure : Option IoError) :
    (calls .read done failure).filterMap Step.input? = [] := by
  apply inputs_of_forall
  intro step member
  simp only [Step.input?, (mem_calls member).1]

section

variable (router : Router) (files : FileTree) (connection : Connection)

theorem operations_opening :
    connection.opening.map Step.operation = greeting connection.secure := by
  rw [opening, greeting, List.map_append]
  split <;> rfl

theorem scripted_opening :
    ∀ step ∈ connection.opening, Scripted router files connection step := by
  intro step member
  rcases List.mem_append.mp member with limit | shake
  · simp only [List.mem_cons, List.not_mem_nil, or_false] at limit
    rcases limit with rfl | rfl
    · rfl
    · rfl
  · split at shake
    · rename_i secure
      rw [List.mem_singleton.mp shake]
      exact ⟨secure, rfl⟩
    · cases shake

theorem inputs_opening {steps : List Step} (begins : steps <+: connection.opening) :
    steps.filterMap Step.input? = [] := by
  apply inputs_of_forall
  intro step member
  rcases List.mem_append.mp (begins.subset member) with limit | shake
  · simp only [List.mem_cons, List.not_mem_nil, or_false] at limit
    rcases limit with rfl | rfl
    · rfl
    · rfl
  · split at shake
    · rw [List.mem_singleton.mp shake]
      rfl
    · cases shake

theorem opening_calm {fault : Fault} (refused : failureOf connection.opening = some fault) :
    fault.payload? = none := by
  obtain ⟨step, member, failed⟩ := List.exists_of_findSome?_eq_some refused
  rcases List.mem_append.mp member with limit | shake
  · simp only [List.mem_cons, List.not_mem_nil, or_false] at limit
    rcases limit with rfl | rfl <;>
      obtain ⟨error, -, rfl⟩ := Option.map_eq_some_iff.mp failed <;> rfl
  · split at shake
    · rw [List.mem_singleton.mp shake] at failed
      obtain ⟨error, -, rfl⟩ := Option.map_eq_some_iff.mp failed
      rfl
    · cases shake

def Opens : Prop :=
  connection.readTimeout = none ∧ connection.writeTimeout = none ∧
    (connection.secure = true → connection.handshake = none)

theorem opened_iff : failureOf connection.opening = none ↔ connection.Opens := by
  cases secure : connection.secure <;> simp [opening, Opens, secure]

/-! ### Sending -/

variable (answer : Bytes) (events : List Event)

theorem operations_send : ∃ writes, (connection.send answer events).steps.map Step.operation <+:
    List.replicate writes .write ++ [.flush, .close] := by
  let writing := writeAll answer connection.acceptances
  refine ⟨writing.calls + writing.failure.toList.length, ?_⟩
  rw [← operations_calls]
  exact Course.operations_after _ (Course.operations_after [⟨.flush, _⟩]
    (Course.operations_after [⟨.close, _⟩] List.nil_prefix))

theorem operations_send_of_none
    (ok : failureOf (connection.send answer events).steps = none) :
    ∃ writes, (connection.send answer events).steps.map Step.operation =
      List.replicate writes .write ++ [.flush, .close] := by
  simp only [send, Course.failureOf_after, Option.or_eq_none_iff] at ok ⊢
  obtain ⟨written, flushed, closed, -⟩ := ok
  rw [Course.after_of_none written, Course.after_of_none flushed, Course.after_of_none closed]
  exact ⟨_, by rw [List.map_append, operations_calls]; rfl⟩

theorem failsLast_send : FailsLast (connection.send answer events).steps :=
  Course.failsLast_after (failsLast_calls _ _ _) <|
    Course.failsLast_after (failsLast_singleton _) <|
      Course.failsLast_after (failsLast_singleton _) <|
        failsLast_of_none failureOf_nil

theorem forall_send (holds : Step → Prop)
    (write : ∀ failure, (failure = none ∨ failure =
      (writeAll answer connection.acceptances).failure.map .io) → holds ⟨.write, failure⟩)
    (flush : holds ⟨.flush, connection.flush.map .io⟩)
    (close : holds ⟨.close, connection.close.map .io⟩) :
    ∀ step ∈ (connection.send answer events).steps, holds step := by
  refine Course.forall_after ?_ (Course.forall_after ?_ (Course.forall_after ?_ ?_))
  · rintro ⟨operation, failure⟩ member
    obtain ⟨rfl, either⟩ := mem_calls member
    exact write failure either
  · simpa using flush
  · simpa using close
  · simp

theorem inputs_send : (connection.send answer events).steps.filterMap Step.input? = [] :=
  inputs_of_forall <|
    connection.forall_send answer events (fun step => step.input? = none) (fun _ _ => rfl) rfl rfl

theorem calm_send :
    (failureOf (connection.send answer events).steps).bind Fault.payload? = none := by
  simp only [send, Course.failureOf_after, failureOf_calls, failureOf_cons, failureOf_nil,
    Option.or_none]
  cases (writeAll answer connection.acceptances).failure <;> cases connection.flush <;>
    cases connection.close <;> rfl

theorem scripted_send :
    ∀ step ∈ (connection.send answer events).steps, Scripted router files connection step := by
  apply connection.forall_send answer events (Scripted router files connection)
  · rintro failure (rfl | rfl) fault failed
    · cases failed
    · obtain ⟨error, written, rfl⟩ := Option.map_eq_some_iff.mp failed
      exact ⟨error, rfl, writeFrom_failure written⟩
  · rfl
  · rfl

theorem writes_send : (∀ step ∈ (connection.send answer events).steps,
    step.operation = .write → step.failure = none) ↔
      (writeAll answer connection.acceptances).taken = answer := by
  rw [← (writeAll_spec answer connection.acceptances).2]
  constructor
  · intro ok
    by_contra failed
    obtain ⟨error, failed⟩ := Option.ne_none_iff_exists'.mp failed
    -- The write that fails is the last step of all.
    have stop : failureOf (calls .write (writeAll answer connection.acceptances).calls
        (writeAll answer connection.acceptances).failure) = some (.io error) := by
      rw [failureOf_calls, failed]
      rfl
    have last : ⟨.write, some (.io error)⟩ ∈ (connection.send answer events).steps := by
      simp only [send]
      rw [Course.after_of_some stop, calls, failed]
      exact List.mem_append_right _ (List.mem_singleton.mpr rfl)
    cases ok _ last rfl
  · intro ok
    apply connection.forall_send answer events fun step =>
      step.operation = .write → step.failure = none
    · rintro failure (rfl | rfl) -
      · rfl
      · rw [ok, Option.map_none]
    · intro other
      cases other
    · intro other
      cases other

end

/-! ### Reading -/

theorem failure_of_portions {error : IoError} {deliveries : List Framing.Delivery}
    (member : .failure error ∈ deliveries.flatMap Framing.Delivery.portions) :
    .failure error ∈ deliveries := by
  obtain ⟨delivery, there, portion⟩ := List.mem_flatMap.mp member
  cases delivery with
  | data bytes => simp [Framing.Delivery.portions] at portion
  | interrupted => simp [Framing.Delivery.portions] at portion
  | failure other =>
      cases List.mem_singleton.mp portion
      exact there

theorem scripted_calls_read (router : Router) (files : FileTree) (connection : Connection)
    {done : Nat} {failure : Option IoError}
    (failed : ∀ error, failure = some error → .failure error ∈ connection.deliveries) :
    ∀ step ∈ calls .read done failure, Scripted router files connection step := by
  rintro ⟨operation, fault?⟩ member
  obtain ⟨rfl, rfl | rfl⟩ := mem_calls member
  · intro fault failed
    cases failed
  · intro fault found
    obtain ⟨error, is, rfl⟩ := Option.map_eq_some_iff.mp found
    exact ⟨error, rfl, failed error is⟩

/-! ### Responding -/

section

variable (router : Router) (files : FileTree) (connection : Connection) (input : Bytes)

theorem inputs_respond :
    (connection.respond router files input).steps.filterMap Step.input? = [input] := by
  cases reply : (router.answer files input).bytes with
  | error payload =>
      rw [connection.respond_of_error router files reply]
      rfl
  | ok answer =>
      rw [connection.respond_of_ok router files reply, List.filterMap_cons, inputs_send]
      rfl

theorem operations_respond :
    ∃ writes, (connection.respond router files input).steps.map Step.operation <+:
      .answer input :: (List.replicate writes .write ++ [.flush, .close]) := by
  cases reply : (router.answer files input).bytes with
  | error payload =>
      rw [connection.respond_of_error router files reply]
      exact ⟨0, List.prefix_append [_] _⟩
  | ok answer =>
      rw [connection.respond_of_ok router files reply]
      obtain ⟨writes, later⟩ := connection.operations_send answer (router.answer files input).events
      exact ⟨writes, List.cons_prefix_cons.mpr ⟨rfl, later⟩⟩

theorem operations_respond_of_none
    (ok : failureOf (connection.respond router files input).steps = none) :
    ∃ writes, (connection.respond router files input).steps.map Step.operation =
      .answer input :: (List.replicate writes .write ++ [.flush, .close]) := by
  cases reply : (router.answer files input).bytes with
  | error payload =>
      rw [connection.respond_of_error router files reply] at ok
      cases ok
  | ok answer =>
      rw [connection.respond_of_ok router files reply] at ok ⊢
      obtain ⟨writes, later⟩ := connection.operations_send_of_none answer _ ok
      exact ⟨writes, congrArg _ later⟩

theorem failsLast_respond : FailsLast (connection.respond router files input).steps := by
  cases reply : (router.answer files input).bytes with
  | error payload =>
      rw [connection.respond_of_error router files reply]
      exact failsLast_singleton _
  | ok answer =>
      rw [connection.respond_of_ok router files reply]
      have given : failureOf [⟨.answer input, none⟩] = none := rfl
      exact failsLast_append given (connection.failsLast_send answer _)

theorem scripted_respond : ∀ step ∈ (connection.respond router files input).steps,
    Scripted router files connection step := by
  intro step member
  cases reply : (router.answer files input).bytes with
  | error payload =>
      rw [connection.respond_of_error router files reply] at member
      rw [List.mem_singleton.mp member, Scripted]
      simp only [reply]
  | ok answer =>
      rw [connection.respond_of_ok router files reply] at member
      rcases List.mem_cons.mp member with rfl | sending
      · rw [Scripted]
        simp only [reply]
      · exact connection.scripted_send router files answer _ step sending

variable {input}

theorem sent_respond {answer : Bytes}
    (returned : (router.answer files input).bytes = .ok answer) :
    ∃ taken, (connection.respond router files input).sent = some taken ∧ taken <+: answer ∧
      ((∀ step ∈ (connection.respond router files input).steps,
        step.operation = .write → step.failure = none) ↔ taken = answer) := by
  rw [connection.respond_of_ok router files returned]
  refine ⟨_, rfl, (writeAll_spec answer connection.acceptances).1, ?_⟩
  rw [← connection.writes_send answer (router.answer files input).events]
  simp

variable (input)

theorem events_respond :
    (connection.respond router files input).events = (router.answer files input).events := by
  cases reply : (router.answer files input).bytes with
  | error payload => rw [connection.respond_of_error router files reply]
  | ok answer =>
      rw [connection.respond_of_ok router files reply]
      rfl

theorem escapes_respond (payload : PanicPayload) :
    (failureOf (connection.respond router files input).steps).bind Fault.payload? = some payload ↔
      (router.answer files input).bytes = .error payload := by
  cases reply : (router.answer files input).bytes with
  | error first =>
      rw [connection.respond_of_error router files reply]
      simp [Fault.payload?]
  | ok answer =>
      rw [connection.respond_of_ok router files reply]
      simp [connection.calm_send]

end

/-! ### All of a connection -/

/-- What holds of the course of a connection and of its trail, whatever becomes of its
operations. -/
structure Contained (router : Router) (files : FileTree) (connection : Connection)
    (course : Course) (trail : Trail) : Prop where
  order : ∃ reads input writes,
    course.steps.map Step.operation <+: plan connection.secure reads input writes
  scripted : ∀ step ∈ course.steps, Scripted router files connection step
  stops : FailsLast course.steps
  completes : failureOf course.steps = none → ∃ reads,
    course.steps.map Step.operation = greeting connection.secure ++ List.replicate reads .read ∨
      ∃ input writes, course.steps.map Step.operation = plan connection.secure reads input writes
  once : (course.steps.filterMap Step.input?).length ≤ 1
  called : ∀ input, input ∈ course.steps.filterMap Step.input? ↔ connection.Opens ∧
    (Framing.readRequest connection.deliveries).result = .ok input ∧ input ≠ []
  received : ∀ input ∈ course.steps.filterMap Step.input?, ∃ made,
    connection.deliveries.flatMap Framing.Delivery.portions =
        made ++ (Framing.readRequest connection.deliveries).left ∧
      (∀ error, .failure error ∉ made) ∧ input = (gathered made).take Framing.maxRequest
  sent : ∀ input ∈ course.steps.filterMap Step.input?, ∀ answer,
    (router.answer files input).bytes = .ok answer → ∃ taken,
      trail.sent = some taken ∧ taken <+: answer ∧
        ((∀ step ∈ course.steps, step.operation = .write → step.failure = none) ↔ taken = answer)
  escapes : ∀ payload, trail.escaped = some payload ↔
    ∃ input ∈ course.steps.filterMap Step.input?, (router.answer files input).bytes = .error payload
  breaks : trail.escaped ≠ none → trail.sent = none
  returns : router.Quiet → trail.escaped = none
  unsent : course.steps.filterMap Step.input? = [] → trail.sent = none ∧
    ∀ (other : Router) (tree : FileTree), connection.handle other tree = trail
  empty : failureOf course.steps = none ∧ course.steps.filterMap Step.input? = [] ↔
    connection.Opens ∧ (Framing.readRequest connection.deliveries).result = .ok []
  unread : ∀ error, (Framing.readRequest connection.deliveries).result = .error error →
    (∃ made, connection.deliveries.flatMap Framing.Delivery.portions =
        made ++ .failure error :: (Framing.readRequest connection.deliveries).left ∧
      ∀ other, .failure other ∉ made) ∧
    trail.sent = none ∧ (connection.Opens → failureOf course.steps = some (.io error))
  logged : trail.events =
    (course.steps.filterMap Step.input?).flatMap
      (fun input => (router.answer files input).events) ++
    match failureOf course.steps with
    | some (.io error) =>
      [.log (Log.error ("Connection error with " ++ connection.peer ++ ": " ++ error.message))]
    | some (.tls error) =>
      [.log (Log.error ("TLS handshake failed with " ++ connection.peer ++ ": " ++ error.message))]
    | some (.panic _) => []
    | none =>
      if course.steps.filterMap Step.input? = [] then
        [.log (Log.debug ("Connection from " ++ connection.peer ++ " closed without data"))]
      else []

section

variable (router : Router) (files : FileTree) (connection : Connection)

theorem contained_of_uncalled {steps : List Step} {events : List Event}
    (course : connection.course router files = { steps, events })
    (uncalled : connection.Opens → ∀ input,
      (Framing.readRequest connection.deliveries).result = .ok input → input = [])
    {reads : Nat}
    (order : steps.map Step.operation <+: greeting connection.secure ++ List.replicate reads .read)
    (completes : failureOf steps = none →
      steps.map Step.operation = greeting connection.secure ++ List.replicate reads .read)
    (scripted : ∀ step ∈ steps, Scripted router files connection step) (stops : FailsLast steps)
    (calm : (failureOf steps).bind Fault.payload? = none)
    (silent : steps.filterMap Step.input? = [])
    (empty : failureOf steps = none ↔
      connection.Opens ∧ (Framing.readRequest connection.deliveries).result = .ok [])
    (unread : connection.Opens → ∀ error,
      (Framing.readRequest connection.deliveries).result = .error error →
        failureOf steps = some (.io error))
    (lines : events =
      if failureOf steps = none then [.log (emptyLine connection.peer)] else []) :
    Contained router files connection { steps, events }
      (Course.trail connection.peer { steps, events }) where
  order := ⟨reads, [], 0, order.trans (List.prefix_append _ _)⟩
  scripted := scripted
  stops := stops
  completes ok := ⟨reads, .inl (completes ok)⟩
  once := by rw [silent]; exact Nat.zero_le 1
  called input := by
    rw [silent]
    constructor
    · intro member
      cases member
    · rintro ⟨opens, read, something⟩
      exact absurd (uncalled opens input read) something
  received input member := by
    rw [silent] at member
    cases member
  sent input member := by
    rw [silent] at member
    cases member
  escapes payload := by simp [Course.trail, calm, silent]
  breaks _ := rfl
  returns _ := calm
  unsent _ := ⟨rfl, fun other tree => by
    rw [handle, connection.course_of_uncalled router files
      (fun opened => uncalled (connection.opened_iff.mp opened)), course]⟩
  empty := by rw [← empty, silent, eq_self, and_true]
  unread error failed := by
    obtain ⟨made, split, sound⟩ := Framing.readFrom_error failed
    exact ⟨⟨made, split, sound⟩, rfl, fun opens => unread opens error failed⟩
  logged := by
    simp only [Course.trail, silent, lines]
    cases failureOf steps with
    | none => rfl
    | some fault => cases fault <;> rfl

theorem contained_of_read {input : Bytes} (opened : failureOf connection.opening = none)
    (something : input ≠ [])
    (read : (Framing.readRequest connection.deliveries).result = .ok input) {course : Course}
    (same : course = {
      connection.respond router files input with
      steps := connection.opening ++
        calls .read (Framing.readRequest connection.deliveries).reads none ++
        (connection.respond router files input).steps }) :
    Contained router files connection course (course.trail connection.peer) := by
  subst same
  set reads := (Framing.readRequest connection.deliveries).reads
  have front : failureOf (connection.opening ++ calls .read reads none) = none := by
    simp [opened]
  have whole : failureOf (connection.opening ++ calls .read reads none ++
      (connection.respond router files input).steps) =
        failureOf (connection.respond router files input).steps := by
    rw [failureOf_append, front, Option.none_or]
  have operations : (connection.opening ++ calls .read reads none).map Step.operation =
      greeting connection.secure ++ List.replicate reads .read := by
    rw [List.map_append, operations_opening, operations_calls]
    rfl
  have inputs : (connection.opening ++ calls .read reads none ++
      (connection.respond router files input).steps).filterMap Step.input? = [input] := by
    rw [List.filterMap_append, List.filterMap_append, inputs_calls_read,
      connection.inputs_opening List.prefix_rfl, inputs_respond]
    rfl
  exact {
    order := by
      obtain ⟨writes, later⟩ := connection.operations_respond router files input
      refine ⟨reads, input, writes, ?_⟩
      rw [List.map_append, operations, plan]
      exact (List.prefix_append_right_inj _).mpr later
    scripted := by
      intro step member
      rcases List.mem_append.mp member with early | late
      · rcases List.mem_append.mp early with limit | reading
        · exact connection.scripted_opening router files step limit
        · exact scripted_calls_read router files connection (by simp) step reading
      · exact connection.scripted_respond router files input step late
    stops := failsLast_append front (connection.failsLast_respond router files input)
    completes := by
      intro ok
      rw [whole] at ok
      obtain ⟨writes, later⟩ := connection.operations_respond_of_none router files input ok
      refine ⟨reads, .inr ⟨input, writes, ?_⟩⟩
      rw [List.map_append, operations, later, plan]
    once := by rw [inputs]; exact Nat.le_refl 1
    called := by
      intro other
      rw [inputs, List.mem_singleton]
      constructor
      · rintro rfl
        exact ⟨connection.opened_iff.mp opened, read, something⟩
      · rintro ⟨-, same, -⟩
        rw [read] at same
        cases same
        rfl
    received := by
      intro other member
      rw [inputs, List.mem_singleton] at member
      subst member
      obtain ⟨made, split, sound, same⟩ := Framing.readFrom_ok read
      exact ⟨made, split, sound, same⟩
    sent := by
      intro other member answer returned
      rw [inputs, List.mem_singleton] at member
      subst member
      obtain ⟨taken, sent, begins, complete⟩ :=
        connection.sent_respond router files returned
      refine ⟨taken, sent, begins, ?_⟩
      rw [← complete]
      constructor
      · exact fun ok step sending => ok step (List.mem_append_right _ sending)
      · intro ok step member writing
        rcases List.mem_append.mp member with early | late
        · exact failure_of_failureOf front early
        · exact ok step late writing
    escapes := by
      intro payload
      rw [inputs]
      simp only [Course.trail, whole, List.mem_singleton, exists_eq_left]
      exact connection.escapes_respond router files input payload
    breaks := by
      simp only [Course.trail, whole]
      intro escaped
      obtain ⟨payload, escaped⟩ := Option.ne_none_iff_exists'.mp escaped
      rw [connection.escapes_respond] at escaped
      rw [connection.respond_of_error router files escaped]
    returns := by
      intro quiet
      simp only [Course.trail, whole]
      refine Option.eq_none_iff_forall_ne_some.mpr fun payload escaped => ?_
      rw [connection.escapes_respond] at escaped
      cases (quiet.answer_returns files input).symm.trans escaped
    unsent := by
      intro nothing
      rw [inputs] at nothing
      cases nothing
    empty := by
      rw [inputs, read]
      constructor
      · rintro ⟨-, nothing⟩
        cases nothing
      · rintro ⟨-, nothing⟩
        cases nothing
        exact absurd rfl something
    unread := by
      intro error failed
      rw [read] at failed
      cases failed
    logged := by
      rw [inputs, List.flatMap_singleton]
      simp only [Course.trail, whole, connection.events_respond router files input]
      cases failureOf (connection.respond router files input).steps with
      | none => simp
      | some fault => cases fault <;> rfl }

theorem contained_of_reads {done : Nat} {failure : Option IoError} {events : List Event}
    (opened : failureOf connection.opening = none)
    (course : connection.course router files =
      { steps := connection.opening ++ calls .read done failure, events })
    (result : (Framing.readRequest connection.deliveries).result = failure.elim (.ok []) .error)
    (lines : events = if failure = none then [.log (emptyLine connection.peer)] else []) :
    Contained router files connection
      { steps := connection.opening ++ calls .read done failure, events }
      (Course.trail connection.peer
        { steps := connection.opening ++ calls .read done failure, events }) := by
  have failed : failureOf (connection.opening ++ calls .read done failure) = failure.map .io := by
    rw [failureOf_append, opened, failureOf_calls, Option.none_or]
  have opens := connection.opened_iff.mp opened
  have operations : (connection.opening ++ calls .read done failure).map Step.operation =
      greeting connection.secure ++
        List.replicate (done + failure.toList.length) .read := by
    rw [List.map_append, operations_opening, operations_calls]
  apply contained_of_uncalled router files connection course
  · intro _ input read
    rw [result] at read
    cases failure with
    | some error => cases read
    | none =>
        cases read
        rfl
  · rewrite [operations]
    exact List.prefix_rfl
  · exact fun _ => operations
  · intro step member
    rcases List.mem_append.mp member with limit | reading
    · exact connection.scripted_opening router files step limit
    · refine scripted_calls_read router files connection ?_ step reading
      rintro error rfl
      obtain ⟨made, split, -⟩ := Framing.readFrom_error result
      apply failure_of_portions
      rw [split]
      exact List.mem_append_right _ List.mem_cons_self
  · exact failsLast_append opened (failsLast_calls _ _ _)
  · rw [failed]
    cases failure <;> rfl
  · rw [List.filterMap_append, inputs_calls_read, connection.inputs_opening List.prefix_rfl]
    rfl
  · rw [failed, result]
    cases failure with
    | none => simp [opens]
    | some error => simp
  · intro _ error read
    rw [failed]
    rw [result] at read
    cases failure with
    | none => cases read
    | some other =>
        cases read
        rfl
  · rw [lines, failed]
    simp only [Option.map_eq_none_iff]

/-- Every failure ends its connection, with one line and nothing else. The router answers at most
once, what was read whole, and only its answer is sent. A panic gets out if the router lets it
through, unlogged and with nothing sent, and not otherwise. -/
theorem faults_stay_inside : Contained router files connection
    (connection.course router files) (connection.handle router files) := by
  have went := connection.course_outcome router files
  rw [handle]
  generalize same : connection.course router files = course at went ⊢
  cases went with
  | refused cut =>
      have closed : ¬connection.Opens := by
        rw [← opened_iff, cut.failureOf_planned]
        exact Option.some_ne_none _
      apply contained_of_uncalled router files connection same
      · exact fun opens => absurd opens closed
      · rw [List.replicate_zero, List.append_nil, ← operations_opening]
        exact cut.begins.map _
      · rw [cut.failed]
        intro ok
        cases ok
      · intro step member
        exact connection.scripted_opening router files step (cut.begins.subset member)
      · exact cut.stops
      · rw [cut.failed]
        exact connection.opening_calm cut.failureOf_planned
      · exact connection.inputs_opening cut.begins
      · simp [cut.failed, closed]
      · exact fun opens => absurd opens closed
      · simp [cut.failed]
  | unread opened failed =>
      exact contained_of_reads router files connection opened same failed rfl
  | nothing opened empty =>
      exact contained_of_reads router files connection opened same empty rfl
  | answered opened something read =>
      exact contained_of_read router files connection opened something read rfl

end

/-- Nothing fails here but the dropping of a panic's payload. -/
theorem panic_escapes :
    Connection.handle Router.explosiveRouter {}
        { peer := "127.0.0.1:50000",
          deliveries := [.data (Utf8.bytes "GET / HTTP/1.1\r\n\r\n")] } =
      { escaped := some (.text "dropped") } :=
  rfl

end Connection

end HttpServer
