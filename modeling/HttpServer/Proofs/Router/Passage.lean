import HttpServer.Router

/-!
The way of a request through a router, station by station: the middleware in order of
registration, then one final station. The way ends at the first station that does not let the
request go on, and the router adds nothing to what the stations do.
-/

namespace HttpServer

def Route.shape (route : Route) : Method × RoutePattern :=
  (route.method, route.pattern)

namespace Router

/-- What can be called on the way to an answer, by its place in the tables of a router. -/
inductive Station
  | middleware (index : Nat)
  | static
  | route (index : Nat)
  | notFound
deriving DecidableEq, Repr

/-! ### The final station -/

def Mapped (router : Router) (request : Request) : Prop :=
  ∃ mapping ∈ router.statics.mappings, mapping.1.toList <+: request.path.toList

/-- The station that answers a request which all middleware lets pass: the static layer if it has
a mapping, else the first route that serves the request, else the not-found handler. -/
def Answers (router : Router) (request : Request) : Station → Prop
  | .middleware _ => False
  | .static => router.Mapped request
  | .route index => ¬router.Mapped request ∧
      (∃ route, router.routes[index]? = some route ∧ serves router.routes route request = true) ∧
      ∀ earlier < index, ∀ route, router.routes[earlier]? = some route →
        serves router.routes route request = false
  | .notFound => ¬router.Mapped request ∧
      ∀ route ∈ router.routes, serves router.routes route request = false

def finalStation (router : Router) (request : Request) : Station :=
  match router.statics.find? request.path with
  | some _ => .static
  | none =>
    match router.routes.findIdx? fun route => serves router.routes route request with
    | some index => .route index
    | none => .notFound

theorem find_eq_none_iff (router : Router) (request : Request) :
    router.statics.find? request.path = none ↔ ¬router.Mapped request := by
  simp [StaticTable.find?, Mapped]

theorem answers_finalStation (router : Router) (request : Request) :
    router.Answers request (router.finalStation request) := by
  unfold finalStation
  cases mapped : router.statics.find? request.path with
  | some mapping =>
      refine Classical.byContradiction fun unmapped => ?_
      rw [(find_eq_none_iff router request).mpr unmapped] at mapped
      cases mapped
  | none =>
      have unmapped := (find_eq_none_iff router request).mp mapped
      cases found : router.routes.findIdx? fun route => serves router.routes route request with
      | none => exact ⟨unmapped, List.findIdx?_eq_none_iff.mp found⟩
      | some index =>
          obtain ⟨bound, served, first⟩ := List.findIdx?_eq_some_iff_getElem.mp found
          refine ⟨unmapped, ⟨_, List.getElem?_eq_getElem bound, served⟩, ?_⟩
          intro earlier before route there
          obtain ⟨_, rfl⟩ := List.getElem?_eq_some_iff.mp there
          simpa using first earlier before

theorem Answers.unique {router : Router} {request : Request} {one other : Station}
    (first : router.Answers request one) (second : router.Answers request other) :
    one = other := by
  have clash {index : Nat} (here : router.Answers request (.route index))
      (none : ∀ route ∈ router.routes, serves router.routes route request = false) : False := by
    obtain ⟨-, ⟨route, there, served⟩, -⟩ := here
    rw [none route (List.mem_of_getElem? there)] at served
    cases served
  have order {left right : Nat} (here : router.Answers request (.route left))
      (there : router.Answers request (.route right)) : ¬left < right := by
    intro before
    obtain ⟨-, ⟨route, found, served⟩, -⟩ := here
    rw [there.2.2 left before route found] at served
    cases served
  cases one with
  | middleware index => cases first
  | static =>
      cases other with
      | middleware index => cases second
      | static => rfl
      | route index => exact absurd first second.1
      | notFound => exact absurd first second.1
  | route index =>
      cases other with
      | middleware index => cases second
      | static => exact absurd second first.1
      | route another =>
          exact congrArg _ (Nat.le_antisymm (Nat.not_lt.mp (order second first))
            (Nat.not_lt.mp (order first second)))
      | notFound => exact (clash first second.2).elim
  | notFound =>
      cases other with
      | middleware index => cases second
      | static => exact absurd second first.1
      | route index => exact (clash second first.2).elim
      | notFound => rfl

theorem serves_congr {routes others : List Route}
    (shapes : others.map Route.shape = routes.map Route.shape) {route other : Route}
    (shape : other.shape = route.shape) (request : Request) :
    serves others other request = serves routes route request := by
  have covered (table : List Route) (pattern : RoutePattern) :
      (table.any fun known => known.method = request.method && known.pattern = pattern) =
        (table.map Route.shape).any fun known => known.1 = request.method && known.2 = pattern := by
    rw [List.any_map]
    rfl
  obtain ⟨method, pattern⟩ := Prod.mk.inj shape
  rw [serves, serves, covered, covered, shapes, method, pattern]

theorem Answers.of_shapes {router other : Router} {request : Request} {station : Station}
    (answers : router.Answers request station) (statics : other.statics = router.statics)
    (shapes : other.routes.map Route.shape = router.routes.map Route.shape) :
    other.Answers request station := by
  have mapped : other.Mapped request ↔ router.Mapped request := by
    rw [Mapped, Mapped, statics]
  have place (index : Nat) : other.routes[index]?.map Route.shape =
      router.routes[index]?.map Route.shape := by
    rw [← List.getElem?_map, ← List.getElem?_map, shapes]
  have served {index : Nat} {route : Route} (there : other.routes[index]? = some route) :
      ∃ known, router.routes[index]? = some known ∧
        serves other.routes route request = serves router.routes known request := by
    have same := place index
    rw [there] at same
    obtain ⟨known, found, shape⟩ := Option.map_eq_some_iff.mp same.symm
    exact ⟨known, found, serves_congr shapes shape.symm request⟩
  cases station with
  | middleware index => cases answers
  | static => exact mapped.mpr answers
  | route index =>
      obtain ⟨unmapped, ⟨known, found, serving⟩, first⟩ := answers
      refine ⟨fun other => unmapped (mapped.mp other), ?_, ?_⟩
      · have same := place index
        rw [found] at same
        obtain ⟨route, there, shape⟩ := Option.map_eq_some_iff.mp same
        exact ⟨route, there, (serves_congr shapes shape request).trans serving⟩
      · intro earlier before route there
        obtain ⟨other, held, same⟩ := served there
        exact same.trans (first earlier before other held)
  | notFound =>
      refine ⟨fun other => answers.1 (mapped.mp other), ?_⟩
      intro route member
      obtain ⟨index, there⟩ := List.mem_iff_getElem?.mp member
      obtain ⟨known, held, same⟩ := served there
      exact same.trans (answers.2 known (List.mem_of_getElem? held))

/-! ### Calls -/

structure Call where
  station : Station
  before : Response
  ran : Ran HandlerFault Bool

def ofMiddleware (ran : Ran PanicPayload Bool) : Ran HandlerFault Bool :=
  { ran with result := ran.result.mapError .panic }

@[simp]
theorem ofMiddleware_response (ran : Ran PanicPayload Bool) :
    (ofMiddleware ran).response = ran.response :=
  rfl

@[simp]
theorem ofMiddleware_events (ran : Ran PanicPayload Bool) :
    (ofMiddleware ran).events = ran.events :=
  rfl

theorem ofMiddleware_error {ran : Ran PanicPayload Bool} {payload : PanicPayload}
    (result : ran.result = .error payload) :
    (ofMiddleware ran).result = .error (.panic payload) :=
  congrArg (Except.mapError HandlerFault.panic) result

theorem ofMiddleware_ok {ran : Ran PanicPayload Bool} {goesOn : Bool}
    (result : ran.result = .ok goesOn) : (ofMiddleware ran).result = .ok goesOn :=
  congrArg (Except.mapError HandlerFault.panic) result

def ofHandler (ran : Ran HandlerFault Unit) : Ran HandlerFault Bool :=
  { ran with result := ran.result.map fun _ => false }

def visit? (router : Router) (files : FileTree) (request : Request) (response : Response) :
    Station → Option (Ran HandlerFault Bool)
  | .middleware index =>
    router.middleware[index]?.map fun middleware => ofMiddleware (middleware request response)
  | .static =>
    (router.statics.find? request.path).map fun mapping =>
      { response := (StaticTarget.of mapping request.path).serve files response,
        result := .ok false }
  | .route index =>
    router.routes[index]?.map fun route => ofHandler (route.handler request response)
  | .notFound => some (ofHandler (router.notFound request response))

/-- The calls of `stations` one after another, each on the response that the one before it left,
up to the first that does not let the request go on. -/
inductive Passage (router : Router) (files : FileTree) (request : Request) :
    List Station → Response → List Call → Call → Prop
  | ends {station : Station} {rest : List Station} {response : Response}
      {ran : Ran HandlerFault Bool} : router.visit? files request response station = some ran →
      ran.result ≠ .ok true →
      Passage router files request (station :: rest) response [] ⟨station, response, ran⟩
  | goesOn {station : Station} {rest : List Station} {response : Response}
      {ran : Ran HandlerFault Bool} {calls : List Call} {last : Call} :
      router.visit? files request response station = some ran → ran.result = .ok true →
      Passage router files request rest ran.response calls last →
      Passage router files request (station :: rest) response (⟨station, response, ran⟩ :: calls)
        last

def outcome (calls : List Call) (last : Call) : Ran HandlerFault Unit where
  response := last.ran.response
  events := (calls ++ [last]).flatMap fun call => call.ran.events
  result := last.ran.result.map fun _ => ()

def stations (router : Router) (final : Station) : List Station :=
  (List.range router.middleware.length).map .middleware ++ [final]

variable {router : Router} {files : FileTree} {request : Request}

theorem visit_finalStation (response : Response) :
    router.visit? files request response (router.finalStation request) =
      some (ofHandler (router.runFinal files request response)) := by
  unfold finalStation runFinal finalStep
  cases mapped : router.statics.find? request.path with
  | some mapping => simp only [visit?, mapped, Option.map_some, ofHandler, Except.map]
  | none =>
      have find : router.findRoute? request = (router.routes.findIdx? fun route =>
          serves router.routes route request).bind fun index => router.routes[index]? :=
        List.find?_eq_bind_findIdx?_getElem?
      cases found : router.routes.findIdx? fun route => serves router.routes route request with
      | none =>
          rw [found] at find
          simp only [find, Option.bind_none, visit?]
      | some index =>
          rw [found] at find
          obtain ⟨bound, -⟩ := List.findIdx?_eq_some_iff_getElem.mp found
          simp only [find, Option.bind_some, visit?, List.getElem?_eq_getElem bound,
            Option.map_some]

theorem outcome_ofHandler (station : Station) (before : Response) (ran : Ran HandlerFault Unit) :
    outcome [] ⟨station, before, ofHandler ran⟩ = ran := by
  rcases ran with ⟨response, events, fault | done⟩ <;> simp [outcome, ofHandler, Except.map]

theorem exists_passage_behind (before rest : List Middleware)
    (split : router.middleware = before ++ rest) (response : Response) :
    ∃ calls last, router.Passage files request
        ((List.range' before.length rest.length).map .middleware ++
          [router.finalStation request]) response calls last ∧
      runThrough (router.runFinal files) rest request response = outcome calls last := by
  induction rest generalizing before response with
  | nil =>
      refine ⟨[], _, .ends (visit_finalStation response) ?_, (outcome_ofHandler _ _ _).symm⟩
      cases result : (router.runFinal files request response).result <;>
        simp [ofHandler, result, Except.map]
  | cons first rest ih =>
      have made : router.visit? files request response (.middleware before.length) =
          some (ofMiddleware (first request response)) := by
        simp [visit?, split]
      rw [List.length_cons, List.range'_succ, List.map_cons, List.cons_append]
      cases result : (first request response).result with
      | error payload =>
          refine ⟨[], _, .ends made ?_, ?_⟩ <;>
            simp [runThrough, outcome, result, ofMiddleware_error result, Except.map]
      | ok goesOn =>
          have onward := ofMiddleware_ok result
          cases goesOn with
          | false =>
              refine ⟨[], _, .ends made ?_, ?_⟩ <;>
                simp [runThrough, outcome, result, onward, Except.map]
          | true =>
              obtain ⟨calls, last, passage, same⟩ :=
                ih (before ++ [first]) (by simp [split]) (first request response).response
              rw [List.length_append, List.length_singleton] at passage
              refine ⟨_, last, .goesOn made onward passage, ?_⟩
              simp [runThrough, result, same, outcome, Ran.behind]

theorem exists_passage (router : Router) (files : FileTree) (request : Request)
    (response : Response) : ∃ calls last,
      router.Passage files request (router.stations (router.finalStation request)) response calls
        last ∧
      router.dispatch files request response = outcome calls last := by
  rw [stations, List.range_eq_range']
  exact exists_passage_behind [] router.middleware rfl response

/-! ### Processing -/

theorem process_of_ok {response : Response} {calls : List Call} {last : Call}
    (ran : router.dispatch files request response = outcome calls last) {goesOn : Bool}
    (result : last.ran.result = .ok goesOn) :
    router.process files request response =
      { response := last.ran.response
        events := (calls ++ [last]).flatMap fun call => call.ran.events
        result := .ok () } := by
  simp only [process, ran, outcome, result, Except.map]

theorem process_of_told {response : Response} {calls : List Call} {last : Call}
    (ran : router.dispatch files request response = outcome calls last) {fault : HandlerFault}
    (result : last.ran.result = .error fault) {message : String}
    (told : fault.told = .ok message) :
    router.process files request response =
      (router.recover message request last.ran.response).behind
        (((calls ++ [last]).flatMap fun call => call.ran.events) ++
          [.log (faultLine request message)]) := by
  simp only [process, ran, outcome, result, Except.map, told]

theorem process_of_untold {response : Response} {calls : List Call} {last : Call}
    (ran : router.dispatch files request response = outcome calls last) {fault : HandlerFault}
    (result : last.ran.result = .error fault) {next : PanicPayload}
    (untold : fault.told = .error next) :
    router.process files request response =
      { response := last.ran.response
        events := (calls ++ [last]).flatMap fun call => call.ran.events
        result := .error next } := by
  simp only [process, ran, outcome, result, Except.map, untold]

/-! ### The order of the calls -/

theorem Passage.order {stations : List Station} {response : Response} {calls : List Call}
    {last : Call} (passage : router.Passage files request stations response calls last) :
    (calls ++ [last]).map Call.station <+: stations := by
  induction passage with
  | @ends station rest => exact List.prefix_append [station] rest
  | goesOn _ _ _ ih => exact List.cons_prefix_cons.mpr ⟨rfl, ih⟩

theorem Passage.order_cases {final : Station} {response : Response} {calls : List Call}
    {last : Call}
    (passage : router.Passage files request (router.stations final) response calls last) :
    (∃ index < router.middleware.length,
      (calls ++ [last]).map Call.station = (List.range (index + 1)).map .middleware) ∨
    (calls ++ [last]).map Call.station = router.stations final := by
  have length : ((calls ++ [last]).map Call.station).length = calls.length + 1 := by simp
  have first := List.prefix_iff_eq_take.mp passage.order
  rw [length, stations] at first
  rcases Nat.lt_or_ge calls.length router.middleware.length with within | whole
  · refine .inl ⟨calls.length, within, ?_⟩
    have bound : calls.length + 1 ≤
        ((List.range router.middleware.length).map Station.middleware).length := by
      simpa using Nat.succ_le_of_lt within
    rw [first, List.take_append_of_le_length bound, ← List.map_take, List.take_range,
      Nat.min_eq_left (Nat.succ_le_of_lt within)]
  · refine .inr ?_
    rw [first, stations, List.take_of_length_le]
    simpa using whole

theorem Passage.onward {stations : List Station} {response : Response} {calls : List Call}
    {last : Call} (passage : router.Passage files request stations response calls last) :
    (∀ call ∈ calls, call.ran.result = .ok true) ∧ last.ran.result ≠ .ok true := by
  induction passage with
  | ends _ ended => exact ⟨List.forall_mem_nil _, ended⟩
  | goesOn _ onward _ ih => exact ⟨List.forall_mem_cons.mpr ⟨onward, ih.1⟩, ih.2⟩

theorem Passage.unique {stations : List Station} {response : Response}
    {calls others : List Call} {last another : Call}
    (one : router.Passage files request stations response calls last)
    (other : router.Passage files request stations response others another) :
    others = calls ∧ another = last := by
  induction one generalizing others with
  | ends made ended =>
      cases other with
      | ends found =>
          cases made.symm.trans found
          exact ⟨rfl, rfl⟩
      | goesOn found onward =>
          cases made.symm.trans found
          exact absurd onward ended
  | goesOn made onward _ ih =>
      cases other with
      | ends found ended =>
          cases made.symm.trans found
          exact absurd onward ended
      | goesOn found _ later =>
          cases made.symm.trans found
          obtain ⟨rfl, rfl⟩ := ih later
          exact ⟨rfl, rfl⟩

def leave (router : Router) (files : FileTree) (request : Request) (response : Response)
    (station : Station) : Response :=
  ((router.visit? files request response station).map Ran.response).getD response

theorem Passage.foldl_leave {stations : List Station} {response : Response} {calls : List Call}
    {last : Call} (passage : router.Passage files request stations response calls last) :
    ((calls ++ [last]).map Call.station).foldl (router.leave files request) response =
      last.ran.response := by
  induction passage with
  | ends made => simp [leave, made]
  | @goesOn station rest response ran calls last made _ _ ih =>
      have left : router.leave files request response station = ran.response := by
        simp [leave, made]
      rw [List.cons_append, List.map_cons, List.foldl_cons, left, ih]

/-- The order of the calls of user code for a request. Which final station there is depends on
the request and the tables alone. Before any fault is handled, middleware is called in order of
registration up to the first that halts or panics, and if there is none the final station too,
each once and on what the one before it left. If no call fails, nothing else happens, and the
answer is what the calls make of the response one after another. -/
theorem passes_in_order (router : Router) (request : Request) :
    ∃ final, router.Answers request final ∧
      (∀ other, router.Answers request other → other = final) ∧
      (∀ other : Router, other.statics = router.statics →
        other.routes.map Route.shape = router.routes.map Route.shape →
        other.Answers request final) ∧
      ∀ files response, ∃ calls last handling,
        router.Passage files request (router.stations final) response calls last ∧
        (∀ others another,
          router.Passage files request (router.stations final) response others another →
          others = calls ∧ another = last) ∧
        ((∃ index < router.middleware.length,
          (calls ++ [last]).map Call.station = (List.range (index + 1)).map .middleware) ∨
        (calls ++ [last]).map Call.station =
          (List.range router.middleware.length).map .middleware ++ [final]) ∧
        (∀ call ∈ calls, call.ran.result = .ok true) ∧ last.ran.result ≠ .ok true ∧
        (router.process files request response).events =
          ((calls ++ [last]).flatMap fun call => call.ran.events) ++ handling ∧
        ∀ goesOn, last.ran.result = .ok goesOn →
          handling = [] ∧ (router.process files request response).result = .ok () ∧
          (router.process files request response).response = last.ran.response ∧
          (router.process files request response).response =
            ((calls ++ [last]).map Call.station).foldl (router.leave files request) response := by
  have answers := answers_finalStation router request
  refine ⟨router.finalStation request, answers, fun other also => also.unique answers,
    fun other statics shapes => answers.of_shapes statics shapes, ?_⟩
  intro files response
  obtain ⟨calls, last, passage, ran⟩ := exists_passage router files request response
  cases result : last.ran.result with
  | error fault =>
      have events : ∃ handling, (router.process files request response).events =
          ((calls ++ [last]).flatMap fun call => call.ran.events) ++ handling := by
        cases told : fault.told with
        | ok message =>
            rw [process_of_told ran result told]
            exact ⟨_, List.append_assoc _ _ _⟩
        | error next =>
            rw [process_of_untold ran result told]
            exact ⟨[], (List.append_nil _).symm⟩
      obtain ⟨handling, events⟩ := events
      refine ⟨calls, last, handling, passage, fun others another => passage.unique,
        passage.order_cases, passage.onward.1, passage.onward.2, events, ?_⟩
      rintro goesOn failed
      cases result.symm.trans failed
  | ok goesOn =>
      have processed := process_of_ok ran result
      refine ⟨calls, last, [], passage, fun others another => passage.unique,
        passage.order_cases, passage.onward.1, passage.onward.2, ?_, ?_⟩
      · rw [processed, List.append_nil]
      · rintro _ -
        exact ⟨rfl, by rw [processed], by rw [processed], by rw [processed, passage.foldl_leave]⟩

def noting (text : String) (goesOn : Bool) : Middleware := fun _ response =>
  { response := response.append (Utf8.bytes text), events := [.note text], result := .ok goesOn }

def gatedRouter : Router :=
  { middleware := [noting "open" true, noting "gate" false, noting "late" true],
    routes := [⟨.unknown, ⟨""⟩, Handler.defaultNotFound⟩] }

theorem passes_in_order_gated :
    gatedRouter.Answers {} (.route 0) ∧
    ∃ calls last, gatedRouter.Passage {} {} (gatedRouter.stations (.route 0)) {} calls last ∧
      (calls ++ [last]).map Call.station = [.middleware 0, .middleware 1] ∧
      last.ran.result = .ok false ∧
      (gatedRouter.process {} {} {}).response = last.ran.response ∧
      gatedRouter.process {} {} {} =
        { response := { body := Utf8.bytes "opengate" }, events := [.note "open", .note "gate"],
          result := .ok () } := by
  obtain ⟨final, answers, -, -, passages⟩ := passes_in_order gatedRouter {}
  obtain rfl : final = .route 0 := answers.unique (answers_finalStation gatedRouter {})
  obtain ⟨calls, last, handling, passage, same, -, -, -, -, unfailing⟩ := passages {} {}
  obtain ⟨rfl, rfl⟩ := same _ _ (.goesOn rfl rfl (.ends rfl
    (by simp [ofMiddleware_ok, noting])))
  exact ⟨answers, _, _, passage, rfl, rfl, (unfailing false rfl).2.2.1, rfl⟩

end Router

end HttpServer
