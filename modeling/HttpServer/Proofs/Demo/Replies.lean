import HttpServer.Demo
import HttpServer.Proofs.Json.Parsed
import HttpServer.Proofs.Router.Visits

/-!
What the application replies. Without a directory of files it has five endpoints; everything else
is not found. The headers that allow requests from any origin are set before a handler runs, and
stay when it fails.
-/

namespace HttpServer.Demo

/-! ### Endpoints -/

def endpoints : List (Method × String) :=
  [(.get, "/"), (.get, "/api/status"), (.get, "/api/hello"), (.post, "/api/echo"),
    (.get, "/health")]

section

variable (json : Json.Library)

structure Broken (request : Request) (message : String) : Prop where
  method : request.method = .post
  path : request.path = "/api/echo"
  sent : sentJson request = true
  refused : json.parse request.body = .error message

inductive Echoes (request : Request) : Json → Prop
  | document {document : Json} (sent : sentJson request = true)
      (read : json.parse request.body = .ok document) : Echoes request document
  | text (plain : sentJson request = false) : Echoes request (.string request.bodyText)

def jsonType : String := "application/json; charset=utf-8"

/-- The status of a reply, its content type and its body. -/
inductive Replies (now : Nat) (request : Request) : Status → String → Bytes → Prop
  | index (method : request.method = .get) (path : request.path = "/") :
      Replies now request .ok "text/html; charset=utf-8" (Utf8.bytes indexPage)
  | status (method : request.method = .get) (path : request.path = "/api/status") :
      Replies now request .ok jsonType (Utf8.bytes (statusText json now))
  | hello (method : request.method = .get) (path : request.path = "/api/hello") :
      Replies now request .ok jsonType (Utf8.bytes (helloText json (visitor request)))
  | echo {document : Json} (method : request.method = .post) (path : request.path = "/api/echo")
      (echoes : Echoes json request document) :
      Replies now request .ok jsonType (Utf8.bytes (echoText json document))
  | health (method : request.method = .get) (path : request.path = "/health") :
      Replies now request .ok "text/plain; charset=utf-8" (Utf8.bytes "OK")
  | broken {message : String} (broken : Broken json request message) :
      Replies now request .internalServerError "text/plain; charset=utf-8"
        (Utf8.bytes "Internal Server Error")
  | missing (unserved : (request.method, request.path) ∉ endpoints) :
      Replies now request .notFound jsonType (Utf8.bytes (notFoundText json request.path))

end

variable {json : Json.Library}

/-! ### The way of a request -/

def replied (response : Response) (status : Status) (contentType : String) (body : Bytes) :
    Response :=
  ((response.enableCors "*").setStatus status).setContent contentType body

theorem map_routes (now : Nat) :
    (router json none now).routes.map (fun route => (route.method, route.pattern.text)) =
      endpoints :=
  rfl

theorem serves_iff {now : Nat} {route : Route} (member : route ∈ (router json none now).routes)
    (request : Request) : Router.serves (router json none now).routes route request = true ↔
      route.method = request.method ∧ route.pattern.text = request.path := by
  have plain : ∀ endpoint ∈ endpoints,
      (RoutePattern.mk endpoint.2).isWildcard = false ∧ endpoint.1 ≠ .options := by decide
  have listed : (route.method, route.pattern.text) ∈ endpoints := by
    rw [← map_routes now]
    exact List.mem_map_of_mem member
  obtain ⟨literal, method⟩ := plain _ listed
  simp [Router.serves, RoutePattern.fits, literal, method, and_comm]

theorem runFinal_of_none {now : Nat} {request : Request}
    (unserved : (router json none now).findRoute? request = none) (files : FileTree)
    (response : Response) :
    (router json none now).runFinal files request response = notFound json request response := by
  have nothing : (router json none now).finalStep request = .notFound := by
    rw [Router.finalStep, unserved]
    rfl
  rw [Router.runFinal, nothing]
  rfl

theorem runFinal_of_some {now : Nat} {request : Request} {route : Route}
    (served : (router json none now).findRoute? request = some route) (files : FileTree)
    (response : Response) :
    (router json none now).runFinal files request response = route.handler request response := by
  have there : (router json none now).finalStep request = .route route := by
    rw [Router.finalStep, served]
    rfl
  rw [Router.runFinal, there]

def settled (ran : Ran HandlerFault Unit) : Response :=
  match ran.result with
  | .ok () => ran.response
  | .error _ => ran.response.setServerError

theorem echo_ne_panic (request : Request) (response : Response) (payload : PanicPayload) :
    (echo json request response).result ≠ .error (.panic payload) := by
  unfold echo
  cases sentJson request with
  | false => simp
  | true => cases json.parse request.body <;> simp

theorem quiet_router (json : Json.Library) (now : Nat) : (router json none now).Quiet where
  middleware := by
    intro middleware member request response next
    simp only [router, Router.addRoute, Router.addMiddleware, List.nil_append, List.cons_append,
      List.mem_cons, List.not_mem_nil, or_false] at member
    rcases member with rfl | rfl <;> simp [allowAll, logRequest]
  routes := by
    intro route member request response next
    simp only [router, Router.addRoute, Router.addMiddleware, List.nil_append, List.cons_append,
      List.mem_cons, List.not_mem_nil, or_false] at member
    rcases member with rfl | rfl | rfl | rfl | rfl
    · simp [Handler.answering]
    · simp [Handler.answering]
    · simp [Handler.answering]
    · exact echo_ne_panic request response _
    · simp [Handler.answering]
  notFound := by simp [router, Router.addRoute, Router.addMiddleware, notFound, Handler.answering]
  errorHandler := by
    simp [router, Router.addRoute, Router.addMiddleware, ErrorHandler.default]

theorem process_of_runFinal {now : Nat} {files : FileTree} {request : Request}
    {response : Response} {ran : Ran HandlerFault Unit}
    (last : (router json none now).runFinal files request (response.enableCors "*") = ran) :
    ((router json none now).process files request response).response = settled ran := by
  have dispatched : (router json none now).dispatch files request response =
      (ran.behind [.log (Log.info (request.method.name ++ " " ++ request.path))]).behind [] := by
    rw [← last]
    rfl
  have returned := (quiet_router json now).process_returns files request response
  rw [Router.process, dispatched] at returned ⊢
  cases result : ran.result with
  | ok => simp [Ran.behind, result, settled]
  | error fault =>
      simp only [Ran.behind, result] at returned ⊢
      cases told : fault.told with
      | ok message =>
          simp only [settled, result]
          rfl
      | error next =>
          simp only [told] at returned
          cases returned

theorem setStatus_of_eq {response : Response} {status : Status} (same : response.status = status) :
    response.setStatus status = response := by
  rw [← same]
  rfl

theorem echo_replies {request : Request} (now : Nat) (method : request.method = .post)
    (path : request.path = "/api/echo") {response : Response} (fresh : response.status = .ok) :
    ∃ status contentType body, Replies json now request status contentType body ∧
      settled (echo json request response) =
        (response.setStatus status).setContent contentType body := by
  have same := setStatus_of_eq fresh
  cases sent : sentJson request with
  | false =>
      refine ⟨_, _, _, .echo method path (.text sent), ?_⟩
      simp only [echo, sent, same]
      rfl
  | true =>
      cases read : json.parse request.body with
      | ok document =>
          refine ⟨_, _, _, .echo method path (.document sent read), ?_⟩
          simp only [echo, sent, read, same]
          rfl
      | error message =>
          refine ⟨_, _, _, .broken ⟨method, path, sent, read⟩, ?_⟩
          simp only [echo, sent, read]
          rfl

theorem process_replies (json : Json.Library) (now : Nat) (files : FileTree) (request : Request)
    {response : Response} (fresh : response.status = .ok) :
    ∃ status contentType body, Replies json now request status contentType body ∧
      ((router json none now).process files request response).response =
        replied response status contentType body := by
  have same : (response.enableCors "*").setStatus .ok = response.enableCors "*" :=
    setStatus_of_eq fresh
  cases found : (router json none now).findRoute? request with
  | none =>
      have unserved : (request.method, request.path) ∉ endpoints := by
        rw [← map_routes now]
        intro listed
        obtain ⟨route, member, named⟩ := List.mem_map.mp listed
        have other := List.find?_eq_none.mp found route member
        rw [Prod.mk.injEq] at named
        exact other ((serves_iff member request).mpr named)
      refine ⟨_, _, _, .missing unserved, ?_⟩
      rw [process_of_runFinal (runFinal_of_none found files _)]
      rfl
  | some route =>
      have member := List.mem_of_find?_eq_some found
      have fits := List.find?_some found
      obtain ⟨method, path⟩ := (serves_iff member request).mp fits
      rw [process_of_runFinal (runFinal_of_some found files _)]
      simp only [router, Router.addRoute, Router.addMiddleware, List.nil_append, List.cons_append,
        List.mem_cons, List.not_mem_nil, or_false] at member
      -- A case for each of the five routes.
      rcases member with rfl | rfl | rfl | rfl | rfl
      · refine ⟨_, _, _, .index method.symm path.symm, ?_⟩
        rw [replied, same]
        rfl
      · refine ⟨_, _, _, .status method.symm path.symm, ?_⟩
        rw [replied, same]
        rfl
      · refine ⟨_, _, _, .hello method.symm path.symm, ?_⟩
        rw [replied, same]
        rfl
      · exact echo_replies now method.symm path.symm fresh
      · refine ⟨_, _, _, .health method.symm path.symm, ?_⟩
        rw [replied, same]
        rfl

/-! ### What a client reads -/

def fieldsNamed (name : String) (message : Wire.Message) : List (String × String) :=
  message.fields.filter fun field =>
    field.1.toList.map Char.toLower = name.toList.map Char.toLower

theorem Replies.clean {now : Nat} {request : Request} {status : Status} {contentType : String}
    {body : Bytes} (replies : Replies json now request status contentType body) :
    IsCleanValue contentType := by
  cases replies <;> decide

def replyFields (contentType : String) (body : Bytes) : List (String × String) := [
  ("Access-Control-Allow-Origin", "*"),
  ("Access-Control-Allow-Methods", "GET, POST, PUT, DELETE, OPTIONS"),
  ("Access-Control-Allow-Headers", "Content-Type, Authorization"),
  ("Content-Type", contentType),
  ("Content-Length", decimal body.length)]

theorem entries_replied (request : Request) (status : Status) (contentType : String)
    (body : Bytes) :
    (replied (Response.forRequest request) status contentType
      body).updateContentLength.headers.entries = replyFields contentType body := by
  have empty : (Response.forRequest request).headers = {} := by
    unfold Response.forRequest
    split <;> rfl
  simp [replied, Response.enableCors, Response.setStatus, Response.setContent, Response.setBody,
    Response.updateContentLength, Response.setHeader, Fields.set, Fields.setEntry, empty,
    replyFields]

/-- Every input has a reply, and a client finds it in the bytes of the answer. -/
theorem answer_replies (json : Json.Library) {config : Config}
    (unmapped : config.staticDir = none) (now : Nat) (files : FileTree) (input : Bytes) :
    ∃ status contentType body bytes,
      Replies json now (Request.read input) status contentType body ∧
      ((server json config now).answer files input).bytes = .ok bytes ∧
      Wire.read? bytes =
        some ⟨⟨(Response.forRequest (Request.read input)).version, status, status.reason⟩,
          replyFields contentType body, body⟩ := by
  have fresh : (Response.forRequest (Request.read input)).status = .ok := by
    unfold Response.forRequest
    split <;> rfl
  obtain ⟨status, contentType, body, replies, made⟩ :=
    process_replies json now files (Request.read input) fresh
  let final :=
    (replied (Response.forRequest (Request.read input)) status contentType
      body).updateContentLength
  have edited : (Response.forRequest (Request.read input)).Edited none final :=
    ((((((Response.Edited.unchanged.header (by decide) (by decide)).header (by decide)
      (by decide)).header (by decide) (by decide)).status status).setContent replies.clean
        body).updateContentLength)
  have read := (edited.sound (Response.sound_forRequest input)).read_bytes
  have returned : ((server json config now).answer files input).bytes = .ok final.bytes := by
    rw [Server.answer, server, unmapped, (quiet_router json now).answer_returns, made]
  refine ⟨status, contentType, body, final.bytes, replies, returned, ?_⟩
  rw [read, entries_replied]
  rfl

/-! ### The three kinds of replies -/

def IsServed (input : Bytes) : Prop :=
  ∃ request, Request.parse input = .ok request ∧
    (request.method = .get ∧ request.path ∈ ["/", "/api/status", "/api/hello", "/health"] ∨
      request.method = .post ∧ request.path = "/api/echo")

def DeclaresJson (request : Request) : Prop :=
  ∃ contentType, request.header? "Content-Type" = some contentType ∧
    "application/json".toList <+: contentType.toList

def IsBroken (json : Json.Library) (input : Bytes) : Prop :=
  ∃ request, Request.parse input = .ok request ∧ request.method = .post ∧
    request.path = "/api/echo" ∧ DeclaresJson request ∧
    ∀ document, json.parse request.body ≠ .ok document

theorem mem_endpoints_iff (request : Request) : (request.method, request.path) ∈ endpoints ↔
    request.method = .get ∧ request.path ∈ ["/", "/api/status", "/api/hello", "/health"] ∨
      request.method = .post ∧ request.path = "/api/echo" := by
  simp only [endpoints, List.mem_cons, Prod.mk.injEq, List.not_mem_nil, or_false]
  constructor
  · rintro (⟨method, path⟩ | ⟨method, path⟩ | ⟨method, path⟩ | ⟨method, path⟩ | ⟨method, path⟩)
    · exact .inl ⟨method, .inl path⟩
    · exact .inl ⟨method, .inr (.inl path)⟩
    · exact .inl ⟨method, .inr (.inr (.inl path))⟩
    · exact .inr ⟨method, path⟩
    · exact .inl ⟨method, .inr (.inr (.inr path))⟩
  · rintro (⟨method, path | path | path | path⟩ | ⟨method, path⟩)
    · exact .inl ⟨method, path⟩
    · exact .inr (.inl ⟨method, path⟩)
    · exact .inr (.inr (.inl ⟨method, path⟩))
    · exact .inr (.inr (.inr (.inr ⟨method, path⟩)))
    · exact .inr (.inr (.inr (.inl ⟨method, path⟩)))

theorem sentJson_iff (request : Request) : sentJson request = true ↔ DeclaresJson request := by
  unfold sentJson DeclaresJson Request.contentType?
  cases request.header? "Content-Type" with
  | none => simp
  | some contentType => simp [List.isPrefixOf_iff_prefix]

theorem refused_iff {ε α : Type} (result : Except ε α) :
    (∃ fault, result = .error fault) ↔ ∀ value, result ≠ .ok value := by
  cases result <;> simp

theorem read_eq_of_method {input : Bytes} (known : (Request.read input).method ≠ .unknown) :
    Request.parse input = .ok (Request.read input) := by
  unfold Request.read at known ⊢
  cases parsed : Request.parse input with
  | ok request => rfl
  | error fault =>
      rw [parsed] at known
      exact absurd rfl known

theorem isServed_iff (input : Bytes) : IsServed input ↔
    ((Request.read input).method, (Request.read input).path) ∈ endpoints := by
  rw [mem_endpoints_iff]
  constructor
  · rintro ⟨request, parsed, served⟩
    rwa [Request.read_of_parse parsed]
  · intro served
    have known : (Request.read input).method ≠ .unknown := by
      rcases served with ⟨method, -⟩ | ⟨method, -⟩ <;> simp [method]
    exact ⟨_, read_eq_of_method known, served⟩

theorem isBroken_iff (input : Bytes) :
    IsBroken json input ↔ ∃ message, Broken json (Request.read input) message := by
  constructor
  · rintro ⟨request, parsed, method, path, sent, refused⟩
    obtain ⟨message, refused⟩ := (refused_iff _).mpr refused
    rw [Request.read_of_parse parsed]
    exact ⟨message, method, path, (sentJson_iff request).mpr sent, refused⟩
  · rintro ⟨message, method, path, sent, refused⟩
    have known : (Request.read input).method ≠ .unknown := by simp [method]
    exact ⟨_, read_eq_of_method known, method, path, (sentJson_iff _).mp sent,
      (refused_iff _).mp ⟨message, refused⟩⟩

theorem Replies.kind {now : Nat} {request : Request} {status : Status} {contentType : String}
    {body : Bytes} (replies : Replies json now request status contentType body) :
    (status = .internalServerError ∧ body = Utf8.bytes "Internal Server Error" ∧
      (request.method, request.path) ∈ endpoints ∧ ∃ message, Broken json request message) ∨
    (status = .ok ∧ (request.method, request.path) ∈ endpoints ∧
      ¬∃ message, Broken json request message) ∨
    (status = .notFound ∧ body = Utf8.bytes (notFoundText json request.path) ∧
      (request.method, request.path) ∉ endpoints) := by
  have got (method : request.method = .get) :
      ¬∃ message, Broken json request message := by
    rintro ⟨message, broken⟩
    rw [broken.method] at method
    cases method
  cases replies with
  | index method path => exact .inr (.inl ⟨rfl, by simp [method, path, endpoints], got method⟩)
  | status method path => exact .inr (.inl ⟨rfl, by simp [method, path, endpoints], got method⟩)
  | hello method path => exact .inr (.inl ⟨rfl, by simp [method, path, endpoints], got method⟩)
  | health method path => exact .inr (.inl ⟨rfl, by simp [method, path, endpoints], got method⟩)
  | echo method path echoes =>
      refine .inr (.inl ⟨rfl, by simp [method, path, endpoints], ?_⟩)
      rintro ⟨message, broken⟩
      cases echoes with
      | document sent read =>
          rw [broken.refused] at read
          cases read
      | text plain =>
          rw [broken.sent] at plain
          cases plain
  | broken broken =>
      exact .inl ⟨rfl, rfl, by simp [broken.method, broken.path, endpoints], _, broken⟩
  | missing unserved => exact .inr (.inr ⟨rfl, rfl, unserved⟩)

theorem parse_notFoundText (lawful : json.Lawful) (path : String) :
    json.parse (Utf8.bytes (notFoundText json path)) =
      .ok (.object [("error", .string "Not Found"), ("path", .string path)]) := by
  apply lawful.parse_strings
  · exact List.pairwise_pair.mpr (show "error" < "path" by decide)
  · simp

/-- Whatever bytes come, and whatever library reads and writes JSON, a client reads a response with
each header that allows other origins once, and with the length of its body once. A broken request
is a server error and shows nothing of the fault; every other request for an endpoint succeeds;
anything else, and what is no request at all, is not found, which is said in JSON. -/
theorem answers_in_three_ways {json : Json.Library} (lawful : json.Lawful) {config : Config}
    (unmapped : config.staticDir = none) (now : Nat) (files : FileTree) (input : Bytes) :
    ∃ bytes message, ((server json config now).answer files input).bytes = .ok bytes ∧
      Wire.read? bytes = some message ∧
      (∀ field ∈ [
          ("Access-Control-Allow-Origin", "*"),
          ("Access-Control-Allow-Methods", "GET, POST, PUT, DELETE, OPTIONS"),
          ("Access-Control-Allow-Headers", "Content-Type, Authorization"),
          ("Content-Length", decimal message.body.length)],
        fieldsNamed field.1 message = [field]) ∧
      (message.statusLine.status = .internalServerError ∧
        message.body = Utf8.bytes "Internal Server Error" ↔ IsBroken json input) ∧
      (message.statusLine.status = .ok ↔ ¬IsBroken json input ∧ IsServed input) ∧
      (message.statusLine.status = .notFound ∧
        (∃ document, json.parse message.body = .ok document) ↔
          ¬IsBroken json input ∧ ¬IsServed input) := by
  obtain ⟨status, contentType, body, bytes, replies, returned, read⟩ :=
    answer_replies json unmapped now files input
  refine ⟨bytes, _, returned, read, ?_, ?_⟩
  · simp [fieldsNamed, replyFields]
  rw [isServed_iff, isBroken_iff]
  rcases replies.kind with ⟨rfl, rfl, served, broken⟩ | ⟨rfl, served, whole⟩ | ⟨rfl, rfl, unserved⟩
  · simp [served, broken]
  · simp [served, whole]
  · have whole : ¬∃ message, Broken json (Request.read input) message := by
      rintro ⟨message, broken⟩
      exact unserved (by simp [broken.method, broken.path, endpoints])
    simp [unserved, whole, parse_notFoundText lawful]

def brokenInput : Bytes :=
  Utf8.bytes "POST /api/echo HTTP/1.1\r\nContent-Type: application/json\r\n\r\n\x7b"

theorem answers_in_three_ways_broken :
    Json.Library.standard.Lawful ∧ ({ workers := 1 } : Config).staticDir = none ∧
    IsBroken .standard brokenInput ∧
    ∃ bytes message,
      ((server .standard { workers := 1 } 0).answer {} brokenInput).bytes = .ok bytes ∧
      Wire.read? bytes = some message ∧
      message.statusLine.status = .internalServerError ∧
      fieldsNamed "Access-Control-Allow-Origin" message =
        [("Access-Control-Allow-Origin", "*")] := by
  have broken : IsBroken .standard brokenInput := by
    have parsed : ∃ request, Request.parse brokenInput = .ok request ∧ request.method = .post ∧
        request.path = "/api/echo" ∧ request.body = [0x7B] ∧
        request.header? "Content-Type" = some "application/json" :=
      ⟨_, rfl, rfl, by decide, rfl, by decide⟩
    obtain ⟨request, parsed, method, path, body, sent⟩ := parsed
    have refused : ∃ message, Json.Library.standard.parse [0x7B] = .error message := ⟨_, rfl⟩
    exact ⟨request, parsed, method, path, ⟨_, sent, List.prefix_rfl⟩,
      body ▸ (refused_iff _).mp refused⟩
  have unmapped : ({ workers := 1 } : Config).staticDir = none := rfl
  obtain ⟨bytes, message, returned, read, headers, failed, -⟩ :=
    answers_in_three_ways Json.Library.standard_lawful unmapped 0 {} brokenInput
  exact ⟨Json.Library.standard_lawful, unmapped, broken, bytes, message, returned, read,
    (failed.mpr broken).1, headers _ List.mem_cons_self⟩

end HttpServer.Demo
