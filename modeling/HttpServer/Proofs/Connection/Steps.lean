import HttpServer.Connection

/-!
Steps one after another. What holds of the steps of a part, and of those of the rest, holds of the
course that goes through the part first: nothing fails but the last step, and the operations come
in their order.
-/

namespace HttpServer.Connection

/-! ### Failures -/

@[simp] theorem failureOf_nil : failureOf [] = none := rfl

@[simp] theorem failureOf_cons (step : Step) (rest : List Step) :
    failureOf (step :: rest) = step.failure.or (failureOf rest) := by
  rw [failureOf, List.findSome?_cons]
  cases step.failure <;> rfl

@[simp] theorem failureOf_append (first rest : List Step) :
    failureOf (first ++ rest) = (failureOf first).or (failureOf rest) :=
  List.findSome?_append

@[simp] theorem failureOf_calls (operation : Operation) (done : Nat) (failure : Option IoError) :
    failureOf (calls operation done failure) = failure.map .io := by
  have going : failureOf (List.replicate done ⟨operation, none⟩) = none := by
    simp [failureOf]
  rw [calls, failureOf_append, going]
  cases failure <;> rfl

theorem failure_of_failureOf {steps : List Step} (ok : failureOf steps = none) {step : Step}
    (member : step ∈ steps) : step.failure = none :=
  List.findSome?_eq_none_iff.mp ok step member

def FailsLast (steps : List Step) : Prop :=
  ∀ step ∈ steps.dropLast, step.failure = none

theorem failsLast_singleton (step : Step) : FailsLast [step] := by
  intro other member
  cases member

theorem failsLast_of_none {steps : List Step} (ok : failureOf steps = none) : FailsLast steps := by
  intro step member
  exact failure_of_failureOf ok (List.dropLast_subset _ member)

theorem failsLast_append {first rest : List Step} (ok : failureOf first = none)
    (later : FailsLast rest) : FailsLast (first ++ rest) := by
  intro step member
  rw [List.dropLast_append] at member
  split at member
  · exact failure_of_failureOf ok (List.dropLast_subset _ member)
  · rcases List.mem_append.mp member with here | there
    · exact failure_of_failureOf ok here
    · exact later step there

theorem failsLast_calls (operation : Operation) (done : Nat) (failure : Option IoError) :
    FailsLast (calls operation done failure) := by
  cases failure with
  | none => exact failsLast_of_none (failureOf_calls operation done none)
  | some error =>
      intro step member
      rw [calls, Option.map_some, Option.toList_some, List.dropLast_concat] at member
      rw [List.eq_of_mem_replicate member]

/-- What is done of the steps that are planned if one of them fails: the others in front of it, and
itself. -/
structure Cut (planned : List Step) (fault : Fault) (steps : List Step) : Prop where
  begins : steps <+: planned
  stops : FailsLast steps
  failed : failureOf steps = some fault

theorem Cut.failureOf_planned {planned steps : List Step} {fault : Fault}
    (cut : Cut planned fault steps) : failureOf planned = some fault := by
  obtain ⟨⟨rest, rfl⟩, -, failed⟩ := cut
  rw [failureOf_append, failed, Option.some_or]

/-! ### One part and then the rest -/

namespace Course

theorem after_of_none {steps : List Step} (ok : failureOf steps = none) (rest : Course) :
    after steps rest = { rest with steps := steps ++ rest.steps } := by
  simp only [after, ok]

theorem after_of_some {steps : List Step} {fault : Fault} (failed : failureOf steps = some fault)
    (rest : Course) : after steps rest = { steps } := by
  simp only [after, failed]

theorem failureOf_after (steps : List Step) (rest : Course) :
    failureOf (after steps rest).steps = (failureOf steps).or (failureOf rest.steps) := by
  cases failed : failureOf steps with
  | some fault => rw [after_of_some failed, failed, Option.some_or]
  | none => rw [after_of_none failed, failureOf_append, failed]

theorem failsLast_after {steps : List Step} {rest : Course} (first : FailsLast steps)
    (later : FailsLast rest.steps) : FailsLast (after steps rest).steps := by
  cases failed : failureOf steps with
  | some fault => rwa [after_of_some failed]
  | none =>
      rw [after_of_none failed]
      exact failsLast_append failed later

theorem operations_after (steps : List Step) {rest : Course} {planned : List Operation}
    (order : rest.steps.map Step.operation <+: planned) :
    (after steps rest).steps.map Step.operation <+: steps.map Step.operation ++ planned := by
  cases failed : failureOf steps with
  | some fault =>
      rw [after_of_some failed]
      exact List.prefix_append _ _
  | none =>
      rw [after_of_none failed, List.map_append]
      exact (List.prefix_append_right_inj _).mpr order

theorem forall_after {holds : Step → Prop} {steps : List Step} {rest : Course}
    (first : ∀ step ∈ steps, holds step) (later : ∀ step ∈ rest.steps, holds step) :
    ∀ step ∈ (after steps rest).steps, holds step := by
  intro step member
  cases failed : failureOf steps with
  | some fault =>
      rw [after_of_some failed] at member
      exact first step member
  | none =>
      rw [after_of_none failed] at member
      rcases List.mem_append.mp member with here | there
      · exact first step here
      · exact later step there

theorem exists_cut_after {next : Router → FileTree → Course} {first planned : List Step}
    {fault : Fault} (single : FailsLast first) (failed : failureOf (first ++ planned) = some fault)
    (later : failureOf planned = some fault →
      ∃ steps, Cut planned fault steps ∧ ∀ router files, next router files = { steps }) :
    ∃ steps, Cut (first ++ planned) fault steps ∧
      ∀ router files, after first (next router files) = { steps } := by
  rw [failureOf_append] at failed
  cases front : failureOf first with
  | some other =>
      rw [front] at failed
      cases failed
      exact ⟨first, ⟨List.prefix_append _ _, single, front⟩, fun _ _ => after_of_some front _⟩
  | none =>
      rw [front, Option.none_or] at failed
      obtain ⟨steps, cut, same⟩ := later failed
      refine ⟨first ++ steps, ⟨?_, failsLast_append front cut.stops, ?_⟩, ?_⟩
      · exact (List.prefix_append_right_inj _).mpr cut.begins
      · rw [failureOf_append, front, cut.failed, Option.none_or]
      · intro router files
        rw [same, after_of_none front]

end Course

/-! ### All of a connection -/

def opening (connection : Connection) : List Step :=
  [⟨.limitReads, connection.readTimeout.map .io⟩,
    ⟨.limitWrites, connection.writeTimeout.map .io⟩] ++
      if connection.secure then [⟨.shakeHands, connection.handshake.map .tls⟩] else []

section

variable (router : Router) (files : FileTree) (connection : Connection)

theorem course_of_opened (opened : failureOf connection.opening = none) :
    connection.course router files =
      { connection.serve router files with
        steps := connection.opening ++ (connection.serve router files).steps } := by
  simp only [opening, failureOf_append, failureOf_cons, failureOf_nil, Option.or_none,
    Option.or_eq_none_iff] at opened
  obtain ⟨⟨reads, writes⟩, shaken⟩ := opened
  rw [course, Course.after_of_none, Course.after_of_none, Course.after_of_none shaken]
  · simp [opening]
  · simpa using writes
  · simpa using reads

theorem exists_cut_opening {fault : Fault} (refused : failureOf connection.opening = some fault) :
    ∃ steps, Cut connection.opening fault steps ∧
      ∀ router files, connection.course router files = { steps } := by
  refine Course.exists_cut_after (failsLast_singleton _) refused fun refused => ?_
  refine Course.exists_cut_after (failsLast_singleton _) refused fun refused => ?_
  refine ⟨_, ⟨List.prefix_rfl, ?_, refused⟩, fun _ _ => Course.after_of_some refused _⟩
  split
  · exact failsLast_singleton _
  · exact failsLast_of_none failureOf_nil

theorem serve_of_error {error : IoError}
    (failed : (Framing.readRequest connection.deliveries).result = .error error) :
    connection.serve router files =
      { steps := calls .read ((Framing.readRequest connection.deliveries).reads - 1)
          (some error) } := by
  simp only [serve, failed]

theorem serve_of_nothing
    (nothing : (Framing.readRequest connection.deliveries).result = .ok []) :
    connection.serve router files =
      { steps := calls .read (Framing.readRequest connection.deliveries).reads none,
        events := [.log (emptyLine connection.peer)] } := by
  simp only [serve, nothing]

theorem serve_of_input {input : Bytes} (something : input ≠ [])
    (read : (Framing.readRequest connection.deliveries).result = .ok input) :
    connection.serve router files =
      { connection.respond router files input with
        steps := calls .read (Framing.readRequest connection.deliveries).reads none ++
          (connection.respond router files input).steps } := by
  cases input with
  | nil => exact absurd rfl something
  | cons byte rest =>
      simp only [serve, read]
      exact Course.after_of_none (failureOf_calls _ _ _) _

theorem respond_of_ok {input answer : Bytes}
    (returned : (router.answer files input).bytes = .ok answer) :
    connection.respond router files input =
      let sending := connection.send answer (router.answer files input).events
      { sending with steps := ⟨.answer input, none⟩ :: sending.steps } := by
  simp only [respond, returned]
  exact Course.after_of_none rfl _

theorem respond_of_error {input : Bytes} {payload : PanicPayload}
    (panicked : (router.answer files input).bytes = .error payload) :
    connection.respond router files input =
      { steps := [⟨.answer input, some (.panic payload)⟩],
        events := (router.answer files input).events } := by
  simp only [respond, panicked]

/-- The ways that a connection can go. -/
inductive Outcome : Course → Prop
  | refused {steps : List Step} {fault : Fault} (cut : Cut connection.opening fault steps) :
      Outcome { steps }
  | unread {error : IoError} (opened : failureOf connection.opening = none)
      (failed : (Framing.readRequest connection.deliveries).result = .error error) :
      Outcome {
        steps := connection.opening ++
          calls .read ((Framing.readRequest connection.deliveries).reads - 1) (some error) }
  | nothing (opened : failureOf connection.opening = none)
      (empty : (Framing.readRequest connection.deliveries).result = .ok []) :
      Outcome {
        steps := connection.opening ++
          calls .read (Framing.readRequest connection.deliveries).reads none
        events := [.log (emptyLine connection.peer)] }
  | answered {input : Bytes} (opened : failureOf connection.opening = none)
      (something : input ≠ [])
      (read : (Framing.readRequest connection.deliveries).result = .ok input) :
      Outcome {
        connection.respond router files input with
        steps := connection.opening ++
          calls .read (Framing.readRequest connection.deliveries).reads none ++
          (connection.respond router files input).steps }

theorem course_outcome : Outcome router files connection (connection.course router files) := by
  cases opened : failureOf connection.opening with
  | some fault =>
      obtain ⟨steps, cut, same⟩ := connection.exists_cut_opening opened
      rw [same]
      exact .refused cut
  | none =>
      rw [connection.course_of_opened router files opened]
      cases read : (Framing.readRequest connection.deliveries).result with
      | error error =>
          rw [connection.serve_of_error router files read]
          exact .unread opened read
      | ok input =>
          by_cases nothing : input = []
          · subst nothing
            rw [connection.serve_of_nothing router files read]
            exact .nothing opened read
          · rw [connection.serve_of_input router files nothing read]
            have answered : Outcome router files connection _ := .answered opened nothing read
            rwa [List.append_assoc] at answered

theorem course_of_uncalled
    (uncalled : failureOf connection.opening = none → ∀ input,
      (Framing.readRequest connection.deliveries).result = .ok input → input = [])
    (other : Router) (tree : FileTree) :
    connection.course other tree = connection.course router files := by
  cases opened : failureOf connection.opening with
  | some fault =>
      obtain ⟨steps, -, same⟩ := connection.exists_cut_opening opened
      rw [same, same]
  | none =>
      rw [connection.course_of_opened _ _ opened, connection.course_of_opened _ _ opened]
      cases read : (Framing.readRequest connection.deliveries).result with
      | error error => rw [connection.serve_of_error _ _ read, connection.serve_of_error _ _ read]
      | ok input =>
          obtain rfl := uncalled opened input read
          rw [connection.serve_of_nothing _ _ read, connection.serve_of_nothing _ _ read]

theorem handle_eq :
    connection.handle router files =
      match failureOf connection.opening with
      | some _ => Course.trail connection.peer { steps := connection.opening }
      | none =>
        match (Framing.readRequest connection.deliveries).result with
        | .error error => .logged (ioLine connection.peer error)
        | .ok [] => .logged (emptyLine connection.peer)
        | .ok input => (connection.respond router files input).trail connection.peer := by
  have went := connection.course_outcome router files
  rw [handle]
  generalize connection.course router files = course at went ⊢
  cases went with
  | refused cut => simp [Course.trail, cut.failed, cut.failureOf_planned]
  | unread opened failed =>
      simp [Course.trail, opened, failed, Trail.logged, Fault.line?, Fault.payload?]
  | nothing opened empty => simp [Course.trail, opened, empty, Trail.logged]
  | @answered input opened something read =>
      cases input with
      | nil => exact absurd rfl something
      | cons byte rest => simp [Course.trail, opened, read]

end

end HttpServer.Connection
