import HttpServer.Proofs.Response.Length
import HttpServer.Proofs.Router.Passage

/-!
Faults of user code. A call that fails or panics ends the passage of a request. Its message is
logged and goes to the error handler, which is called once, on the response as the failing call
left it. If the error handler panics too, the client is told of a server error and nothing else.
All of this rests on payloads that can be dropped in peace: a volatile one ends the processing
where it is dropped.
-/

namespace HttpServer

inductive PanicPayload.Tells : PanicPayload → String → Prop
  | text (message : String) : Tells (.text message) message
  | other : Tells .other "handler panicked"

inductive HandlerFault.Tells : HandlerFault → String → Prop
  | error (message : String) : Tells (.error message) message
  | panic {payload : PanicPayload} {message : String} :
      payload.Tells message → Tells (.panic payload) message

theorem PanicPayload.Tells.told {payload : PanicPayload} {message : String}
    (tells : payload.Tells message) : payload.told = .ok message := by
  cases tells <;> rfl

theorem HandlerFault.Tells.told {fault : HandlerFault} {message : String}
    (tells : fault.Tells message) : fault.told = .ok message := by
  cases tells with
  | error => rfl
  | panic tells => exact tells.told

theorem PanicPayload.tells_or_volatile (payload : PanicPayload) :
    (∃ message, payload.Tells message) ∨ ∃ next, payload = .volatile next := by
  cases payload with
  | text message => exact .inl ⟨message, .text message⟩
  | other => exact .inl ⟨_, .other⟩
  | volatile next => exact .inr ⟨next, rfl⟩

theorem HandlerFault.tells_or_volatile (fault : HandlerFault) :
    (∃ message, fault.Tells message) ∨ ∃ next, fault = .panic (.volatile next) := by
  cases fault with
  | error message => exact .inl ⟨message, .error message⟩
  | panic payload =>
      rcases payload.tells_or_volatile with ⟨message, tells⟩ | ⟨next, rfl⟩
      · exact .inl ⟨message, .panic tells⟩
      · exact .inr ⟨next, rfl⟩

/-! ### The plain server error -/

namespace Response

/-- `answer` tells the client of a server error. It has kept the version of `left` and all its
headers but those of the body. -/
structure IsPlainError (left answer : Response) : Prop where
  status : answer.status.code = 500
  body : answer.body = Utf8.bytes "Internal Server Error"
  contentType : answer.header? "Content-Type" = some "text/plain; charset=utf-8"
  contentLength : answer.header? "Content-Length" = some "21"
  others : (answer.headers.entries.filter fun entry => isOther entry.1) =
    left.headers.entries.filter fun entry => isOther entry.1
  version : answer.version = left.version

theorem isPlainError_setServerError (left : Response) :
    left.IsPlainError left.setServerError := by
  have told : left.Tells left.setServerError .internalServerError "Internal Server Error" :=
    tells_setText left _ _
  have length : (Utf8.bytes "Internal Server Error").length = 21 := by decide
  have written : decimal 21 = "21" := by simp [decimal, digitsOnto, digitChar]
  refine ⟨congrArg Status.code told.status, told.body, told.contentType, ?_, told.others,
    told.version⟩
  rw [told.contentLength, length, written]

end Response

namespace Router

variable {router : Router} {files : FileTree} {request : Request}

theorem visit_static {response : Response} {ran : Ran HandlerFault Bool}
    (made : router.visit? files request response .static = some ran) : ran.result = .ok false := by
  obtain ⟨mapping, -, rfl⟩ := Option.map_eq_some_iff.mp made
  rfl

theorem visit_middleware {response : Response} {ran : Ran HandlerFault Bool} {index : Nat}
    {fault : HandlerFault}
    (made : router.visit? files request response (.middleware index) = some ran)
    (failed : ran.result = .error fault) : ∃ payload, fault = .panic payload := by
  obtain ⟨middleware, -, rfl⟩ := Option.map_eq_some_iff.mp made
  cases result : (middleware request response).result with
  | error payload =>
      exact ⟨payload, Except.error.inj (failed.symm.trans (ofMiddleware_error result))⟩
  | ok goesOn => cases failed.symm.trans (ofMiddleware_ok result)

theorem Passage.last_made {stations : List Station} {response : Response} {calls : List Call}
    {last : Call} (passage : router.Passage files request stations response calls last) :
    router.visit? files request last.before last.station = some last.ran := by
  induction passage with
  | ends made => exact made
  | goesOn _ _ _ ih => exact ih

theorem recover_of_ok {message : String} {response : Response}
    (handled : (router.errorHandler message request response).result = .ok ()) :
    router.recover message request response = router.errorHandler message request response := by
  simp only [recover, handled]

theorem recover_of_tells {message : String} {response : Response} {payload : PanicPayload}
    (failed : (router.errorHandler message request response).result = .error payload)
    {nested : String} (tells : payload.Tells nested) :
    router.recover message request response =
      { response := (router.errorHandler message request response).response.setServerError
        events := (router.errorHandler message request response).events ++
          [.log (Log.error ("Error handler failed: " ++ nested))]
        result := .ok () } := by
  simp only [recover, failed, tells.told]

theorem recover_of_volatile {message next : String} {response : Response}
    (failed : (router.errorHandler message request response).result = .error (.volatile next)) :
    router.recover message request response =
      { router.errorHandler message request response with result := .error (.text next) } := by
  simp only [recover, failed, PanicPayload.told]

/-- What comes of a fault. If the passage ends without one, the error handler is not called and
nothing is logged but what the calls log. Else the message of the fault is logged once, and the
error handler is called once, with the message and with the response as the failing call left it.
Its answer is final if it returns; if it panics too, that is logged, and the answer is the plain
server error. Only a volatile payload gets out: the fault's before anything is logged, the error
handler's before the second line is. -/
theorem faults_contained (router : Router) (files : FileTree) (request : Request)
    (response : Response) :
    ∃ final calls last, router.Answers request final ∧
      router.Passage files request (router.stations final) response calls last ∧
      let passed := (calls ++ [last]).flatMap fun call => call.ran.events
      (∀ goesOn, last.ran.result = .ok goesOn → router.process files request response =
        { response := last.ran.response, events := passed, result := .ok () }) ∧
      (∀ fault, last.ran.result = .error fault → last.station ≠ .static ∧
        ∀ index, last.station = .middleware index → ∃ payload, fault = .panic payload) ∧
      (∀ fault message, last.ran.result = .error fault → fault.Tells message →
        let handled := router.errorHandler message request last.ran.response
        let events := passed ++
          .log (Log.error ("Error processing " ++ request.method.name ++ " " ++ request.path ++
            ": " ++ message)) :: handled.events
        (handled.result = .ok () → router.process files request response =
          { response := handled.response, events, result := .ok () }) ∧
        (∀ payload nested, handled.result = .error payload → payload.Tells nested →
          (router.process files request response).result = .ok () ∧
          (router.process files request response).events =
            events ++ [.log (Log.error ("Error handler failed: " ++ nested))] ∧
          handled.response.IsPlainError (router.process files request response).response) ∧
        ∀ next, handled.result = .error (.volatile next) →
          router.process files request response =
            { response := handled.response, events, result := .error (.text next) }) ∧
      ∀ next, last.ran.result = .error (.panic (.volatile next)) →
        router.process files request response =
          { response := last.ran.response, events := passed, result := .error (.text next) } := by
  obtain ⟨calls, last, passage, ran⟩ := exists_passage router files request response
  refine ⟨_, calls, last, answers_finalStation router request, passage,
    fun goesOn => process_of_ok ran, ?_, ?_, fun next failed => process_of_untold ran failed rfl⟩
  · intro fault failed
    have made := passage.last_made
    refine ⟨fun static => ?_, fun index middleware => ?_⟩
    · rw [static] at made
      cases (visit_static made).symm.trans failed
    · rw [middleware] at made
      exact visit_middleware made failed
  · intro fault message failed tells
    have processed := process_of_told ran failed tells.told
    refine ⟨?_, ?_, ?_⟩
    · intro handled
      rw [processed, recover_of_ok handled]
      simp [Ran.behind, faultLine, handled]
    · intro payload nested panicked more
      rw [processed, recover_of_tells panicked more]
      exact ⟨rfl, by simp [Ran.behind, faultLine], Response.isPlainError_setServerError _⟩
    · intro next panicked
      rw [processed, recover_of_volatile panicked]
      simp [Ran.behind, faultLine]

def stumbling : Handler := fun _ response =>
  { response := response.setHeader "Content-Length" "5", events := [.note "handler"],
    result := .error (.panic .other) }

def despairing : ErrorHandler := fun message _ response =>
  { response := (response.setHeader "X-Fault" message).setStatus .notFound,
    events := [.note message], result := .error (.text "again") }

def fallenRouter : Router :=
  { middleware := [noting "open" true], routes := [⟨.unknown, ⟨""⟩, stumbling⟩],
    errorHandler := despairing }

theorem faults_contained_twice :
    (fallenRouter.process {} {} {}).events =
      [.note "open", .note "handler",
        .log (Log.error "Error processing UNKNOWN : handler panicked"),
        .note "handler panicked", .log (Log.error "Error handler failed: again")] ∧
    ({ status := .notFound, body := Utf8.bytes "open",
       headers := ⟨[("Content-Length", "5"), ("X-Fault", "handler panicked")]⟩ } :
      Response).IsPlainError (fallenRouter.process {} {} {}).response := by
  obtain ⟨final, calls, last, answers, passage, -, -, faulty, -⟩ :=
    faults_contained fallenRouter {} {} {}
  obtain rfl : final = .route 0 := answers.unique (answers_finalStation fallenRouter {})
  have walked : fallenRouter.Passage {} {} (fallenRouter.stations (.route 0)) {} _ _ :=
    .goesOn rfl rfl (.ends rfl (by simp [stumbling, ofHandler, Except.map]))
  obtain ⟨rfl, rfl⟩ := walked.unique passage
  obtain ⟨-, second, -⟩ := faulty (.panic .other) "handler panicked" rfl (.panic .other)
  exact (second (.text "again") "again" rfl (.text "again")).2

def explosiveRouter : Router :=
  { routes := [⟨.get, ⟨"/"⟩, fun _ response =>
      { response, result := .error (.panic (.volatile "dropped")) }⟩] }

/-- The second panic leaves the processing, and nobody logs the first. -/
theorem fault_escapes :
    explosiveRouter.process {} { method := .get, path := "/" } {} =
      { response := {}, events := [], result := .error (.text "dropped") } :=
  rfl

/-! ### Routers without volatile payloads -/

/-- No user code of the router panics with a payload that panics when it is dropped. -/
structure Quiet (router : Router) : Prop where
  middleware : ∀ middleware ∈ router.middleware, ∀ request response next,
    (middleware request response).result ≠ .error (.volatile next)
  routes : ∀ route ∈ router.routes, ∀ request response next,
    (route.handler request response).result ≠ .error (.panic (.volatile next))
  notFound : ∀ request response next,
    (router.notFound request response).result ≠ .error (.panic (.volatile next))
  errorHandler : ∀ message request response next,
    (router.errorHandler message request response).result ≠ .error (.volatile next)

theorem ofHandler_error {ran : Ran HandlerFault Unit} {fault : HandlerFault}
    (failed : (ofHandler ran).result = .error fault) : ran.result = .error fault := by
  rcases ran with ⟨response, events, failure | done⟩
  · exact congrArg Except.error (Except.error.inj failed)
  · cases failed

theorem Quiet.visit (quiet : router.Quiet) {response : Response} {station : Station}
    {ran : Ran HandlerFault Bool}
    (made : router.visit? files request response station = some ran) (next : String) :
    ran.result ≠ .error (.panic (.volatile next)) := by
  intro failed
  cases station with
  | middleware index =>
      obtain ⟨middleware, there, rfl⟩ := Option.map_eq_some_iff.mp made
      cases result : (middleware request response).result with
      | error payload =>
          cases (ofMiddleware_error result).symm.trans failed
          exact quiet.middleware middleware (List.mem_of_getElem? there) request response next
            result
      | ok goesOn => cases (ofMiddleware_ok result).symm.trans failed
  | static => cases (visit_static made).symm.trans failed
  | route index =>
      obtain ⟨route, there, rfl⟩ := Option.map_eq_some_iff.mp made
      exact quiet.routes route (List.mem_of_getElem? there) request response next
        (ofHandler_error failed)
  | notFound =>
      cases made
      exact quiet.notFound request response next (ofHandler_error failed)

theorem Quiet.recover_returns (quiet : router.Quiet) (message : String) (request : Request)
    (response : Response) : (router.recover message request response).result = .ok () := by
  cases handled : (router.errorHandler message request response).result with
  | ok => rw [recover_of_ok handled, handled]
  | error payload =>
      rcases payload.tells_or_volatile with ⟨nested, tells⟩ | ⟨next, rfl⟩
      · rw [recover_of_tells handled tells]
      · exact absurd handled (quiet.errorHandler message request response next)

theorem Quiet.process_returns (quiet : router.Quiet) (files : FileTree) (request : Request)
    (response : Response) : (router.process files request response).result = .ok () := by
  obtain ⟨calls, last, passage, ran⟩ := exists_passage router files request response
  cases result : last.ran.result with
  | ok goesOn => rw [process_of_ok ran result]
  | error fault =>
      rcases fault.tells_or_volatile with ⟨message, tells⟩ | ⟨next, rfl⟩
      · rw [process_of_told ran result tells.told]
        exact quiet.recover_returns message request last.ran.response
      · exact absurd result (quiet.visit passage.last_made next)

end Router

end HttpServer
