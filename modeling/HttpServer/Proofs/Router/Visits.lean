import HttpServer.Proofs.Response.Wire
import HttpServer.Proofs.Router.Recovery

/-!
The calls of user code while a request is processed, and what a client reads of the answer. The
router adds nothing to these calls but edits of its own.
-/

namespace HttpServer

structure Visit where
  before : Response
  after : Response
deriving DecidableEq, Repr

def lastOrigin (origin : Visit → Option String) (visits : List Visit) : Option String :=
  visits.reverse.findSome? origin

theorem lastOrigin_append (origin : Visit → Option String) (first rest : List Visit) :
    lastOrigin origin (first ++ rest) = (lastOrigin origin rest).or (lastOrigin origin first) := by
  simp [lastOrigin, List.findSome?_append]

theorem lastOrigin_cons (origin : Visit → Option String) (visit : Visit) (rest : List Visit) :
    lastOrigin origin (visit :: rest) = (lastOrigin origin rest).or (origin visit) := by
  rw [← List.singleton_append, lastOrigin_append]
  cases found : origin visit <;> simp [lastOrigin, found]

namespace Router

/-! ### The calls of a run -/

def visitsThrough (last : Response → List Visit) (request : Request) :
    List Middleware → Response → List Visit
  | [], response => last response
  | middleware :: rest, response =>
    let ran := middleware request response
    ⟨response, ran.response⟩ ::
      match ran.result with
      | .ok true => visitsThrough last request rest ran.response
      | _ => []

def finalVisits (router : Router) (request : Request) (response : Response) : List Visit :=
  match router.finalStep request with
  | .static _ => []
  | .route route => [⟨response, (route.handler request response).response⟩]
  | .notFound => [⟨response, (router.notFound request response).response⟩]

def visits (router : Router) (files : FileTree) (request : Request) (response : Response) :
    List Visit :=
  let ran := router.dispatch files request response
  visitsThrough (router.finalVisits request) request router.middleware response ++
    match ran.result.mapError HandlerFault.told with
    | .error (.ok message) =>
      [⟨ran.response, (router.errorHandler message request ran.response).response⟩]
    | _ => []

/-- Each of these calls edited its response, and `origin` tells what it put in its place. -/
def Recorded (origin : Visit → Option String) (visits : List Visit) : Prop :=
  ∀ visit ∈ visits, visit.before.Edited (origin visit) visit.after

variable {origin : Visit → Option String} {router : Router} {files : FileTree}
  {request : Request}

theorem Recorded.edited {visit : Visit} {rest : List Visit}
    (recorded : Recorded origin (visit :: rest)) :
    visit.before.Edited (origin visit) visit.after :=
  recorded visit List.mem_cons_self

theorem Recorded.tail {visit : Visit} {rest : List Visit}
    (recorded : Recorded origin (visit :: rest)) : Recorded origin rest :=
  fun other member => recorded other (.tail _ member)

theorem Recorded.single {visit : Visit} (recorded : Recorded origin [visit]) :
    visit.before.Edited (lastOrigin origin [visit]) visit.after := by
  rw [lastOrigin_cons]
  exact recorded.edited

/-! ### A run edits its response as its calls do -/

theorem runThrough_edited {last : Handler} {lastVisits : Response → List Visit}
    (ends : ∀ response, Recorded origin (lastVisits response) →
      response.Edited (lastOrigin origin (lastVisits response)) (last request response).response)
    (middleware : List Middleware) (response : Response)
    (recorded : Recorded origin (visitsThrough lastVisits request middleware response)) :
    response.Edited (lastOrigin origin (visitsThrough lastVisits request middleware response))
      (runThrough last middleware request response).response := by
  induction middleware generalizing response with
  | nil => exact ends response recorded
  | cons first rest ih =>
      simp only [visitsThrough, runThrough] at recorded ⊢
      cases result : (first request response).result with
      | error payload =>
          simp only [result] at recorded ⊢
          exact recorded.single
      | ok goes =>
          cases goes with
          | false =>
              simp only [result] at recorded ⊢
              exact recorded.single
          | true =>
              simp only [result] at recorded ⊢
              rw [lastOrigin_cons]
              exact recorded.edited.trans (ih _ recorded.tail)

theorem runFinal_edited (response : Response)
    (recorded : Recorded origin (router.finalVisits request response)) :
    response.Edited (lastOrigin origin (router.finalVisits request response))
      (router.runFinal files request response).response := by
  unfold finalVisits at recorded ⊢
  unfold runFinal
  cases final : router.finalStep request with
  | static target =>
      cases target with
      | file path => exact Response.Edited.unchanged.setFile files path
      | refused => exact Response.Edited.unchanged.setFileNotFound
  | route route =>
      simp only [final] at recorded ⊢
      exact recorded.single
  | notFound =>
      simp only [final] at recorded ⊢
      exact recorded.single

theorem recover_edited {start response : Response} {version : Option String} {message : String}
    (handled : start.Edited version (router.errorHandler message request response).response) :
    start.Edited version (router.recover message request response).response := by
  unfold recover
  dsimp only
  split
  · exact handled
  · split
    · exact handled.setServerError
    · exact handled

theorem process_edited (response : Response)
    (recorded : Recorded origin (router.visits files request response)) :
    response.Edited (lastOrigin origin (router.visits files request response))
      (router.process files request response).response := by
  have passed := fun recorded => @runThrough_edited origin request (router.runFinal files)
    (router.finalVisits request) (runFinal_edited · ·) router.middleware response recorded
  unfold visits at recorded ⊢
  unfold process
  simp only [dispatch] at recorded ⊢
  cases result : (runThrough (router.runFinal files) router.middleware request response).result with
  | ok =>
      simp only [result, Except.mapError, List.append_nil] at recorded ⊢
      exact passed recorded
  | error fault =>
      cases told : fault.told with
      | error next =>
          simp only [result, Except.mapError, told, List.append_nil] at recorded ⊢
          exact passed recorded
      | ok message =>
          simp only [result, Except.mapError, told] at recorded ⊢
          have before := passed fun visit member => recorded visit (List.mem_append_left _ member)
          have handled := recorded _ (List.mem_append_right _ List.mem_cons_self)
          rw [lastOrigin_append, lastOrigin_cons]
          exact recover_edited (before.trans handled)

/-! ### What a client reads -/

theorem read_of_error {input : Bytes} {fault : Request.Fault}
    (parsed : Request.parse input = .error fault) : Request.read input = Request.invalid := by
  simp [Request.read, parsed, Except.toOption]

theorem read_of_ok {input : Bytes} {request : Request}
    (parsed : Request.parse input = .ok request) : Request.read input = request := by
  simp [Request.read, parsed, Except.toOption]

theorem answer_bytes (router : Router) (files : FileTree) (input : Bytes) :
    let ran := router.process files (Request.read input) (Response.forRequest (Request.read input))
    (router.answer files input).bytes =
      ran.result.map fun _ => ran.response.updateContentLength.bytes := by
  unfold answer
  cases parsed : Request.parse input with
  | error fault =>
      rw [read_of_error parsed]
      dsimp only
      cases (router.process files Request.invalid (Response.forRequest Request.invalid)).result <;>
        rfl
  | ok request =>
      rw [read_of_ok parsed]
      dsimp only
      cases (router.process files request (Response.forRequest request)).result <;> rfl

theorem Quiet.answer_returns (quiet : router.Quiet) (files : FileTree) (input : Bytes) :
    (router.answer files input).bytes =
      .ok (router.process files (Request.read input)
        (Response.forRequest (Request.read input))).response.updateContentLength.bytes := by
  rw [answer_bytes, quiet.process_returns]
  rfl

theorem version_forRequest (input : Bytes) :
    (Response.forRequest (Request.read input)).version =
      match Request.parse input with
      | .ok request => request.version
      | .error _ => "HTTP/1.1" := by
  unfold Request.read
  cases parsed : Request.parse input with
  | error fault => rfl
  | ok request =>
      have valid := (Request.version_of_parse parsed).1
      simp [Except.toOption, Response.forRequest, valid]

theorem lastOrigin_mem {visits : List Visit} {version : String}
    (found : lastOrigin origin visits = some version) :
    ∃ visit ∈ visits, origin visit = some version := by
  obtain ⟨visit, member, same⟩ := List.exists_of_findSome?_eq_some found
  exact ⟨visit, List.mem_reverse.mp member, same⟩

theorem lastOrigin_eq_none {visits : List Visit} :
    lastOrigin origin visits = none ↔ ∀ visit ∈ visits, origin visit = none := by
  simp [lastOrigin]

/-- The bytes of an answer, read back. They are returned unless a panic goes through. Whatever the
bytes of the request, and whatever user code did with the response as long as its header fields are
clean, a client that cuts at the first empty line finds the response as it was left, with the
length of its body. -/
theorem answer_decodes (router : Router) (files : FileTree) (input : Bytes)
    (origin : Visit → Option String)
    (recorded : Recorded origin
      (router.visits files (Request.read input) (Response.forRequest (Request.read input)))) :
    let visits :=
      router.visits files (Request.read input) (Response.forRequest (Request.read input))
    let ran := router.process files (Request.read input) (Response.forRequest (Request.read input))
    let final := ran.response.updateContentLength
    (router.answer files input).bytes = ran.result.map (fun _ => final.bytes) ∧
      (router.Quiet → ran.result = .ok ()) ∧
      Wire.read? final.bytes =
        some ⟨⟨final.version, final.status, final.status.reason⟩,
          final.headers.entries, final.body⟩ ∧
      final.headers.names.count "Content-Length" = 1 ∧
      final.header? "Content-Length" = some (decimal final.body.length) ∧
      readNatural final.body.length (decimal final.body.length).toList =
        .ok final.body.length ∧
      final.version =
        (lastOrigin origin visits).getD (Response.forRequest (Request.read input)).version ∧
      ((∀ visit ∈ visits, origin visit = none ∨ origin visit = some "HTTP/1.1") →
        final.version =
          match Request.parse input with
          | .ok request =>
            if ∀ visit ∈ visits, origin visit = none then request.version else "HTTP/1.1"
          | .error _ => "HTTP/1.1") := by
  intro visits ran final
  have edited := (process_edited _ recorded).updateContentLength
  have sound : final.Sound := edited.sound (Response.sound_forRequest input)
  have version : final.version =
      (lastOrigin origin visits).getD (Response.forRequest (Request.read input)).version :=
    edited.version_eq
  have length : final.header? "Content-Length" = some (decimal final.body.length) := by
    rw [Response.header?]
    exact (Fields.get?_set _ _ _ _).trans (if_pos rfl)
  refine ⟨answer_bytes router files input, fun quiet => quiet.process_returns files _ _,
    sound.read_bytes, ?_, length, readNatural_decimal (Nat.le_refl _), version, ?_⟩
  · exact List.count_eq_one_of_mem sound.distinct (Fields.mem_names_of_get? length)
  · intro ordinary
    rw [version]
    have start := version_forRequest input
    cases last : lastOrigin origin visits with
    | none =>
        have kept := lastOrigin_eq_none.mp last
        rw [Option.getD_none, start]
        cases Request.parse input with
        | error fault => rfl
        | ok request => exact (if_pos kept).symm
    | some version =>
        obtain ⟨visit, member, replaced⟩ := lastOrigin_mem last
        have fresh : version = "HTTP/1.1" := by
          simpa [replaced] using ordinary visit member
        have changed : ¬ ∀ visit ∈ visits, origin visit = none := by
          intro kept
          simp [kept visit member] at replaced
        rw [Option.getD_some, fresh]
        cases Request.parse input with
        | error fault => rfl
        | ok request => exact (if_neg changed).symm

def tracing : Middleware := fun _ response =>
  { response := (response.setHeader "X-Trace" "a: b").append [0x0D, 0x0A, 0x0D, 0x0A],
    result := .ok true }

def failing : Handler := fun _ response =>
  { response := response.setHeader "Content-Length" "99", result := .error (.panic .other) }

def apologising : ErrorHandler := fun message _ _ =>
  { response := (Response.ofStatus .serviceUnavailable).append (Utf8.bytes message),
    result := .ok () }

def unrulyRouter : Router :=
  { routes := [⟨.get, ⟨"/x"⟩, failing⟩], middleware := [tracing], errorHandler := apologising }

def oldInput : Bytes :=
  Utf8.bytes "GET /x HTTP/1.0\r\n\r\n"

def unrulyOrigin (visit : Visit) : Option String :=
  if visit.after.status = .serviceUnavailable then some "HTTP/1.1" else none

theorem answer_decodes_unruly :
    ∃ bytes, (unrulyRouter.answer {} oldInput).bytes = .ok bytes ∧
      Wire.read? bytes =
        some ⟨⟨"HTTP/1.1", .serviceUnavailable, "Service Unavailable"⟩,
          [("Content-Length", "16")], Utf8.bytes "handler panicked"⟩ := by
  let start := Response.forRequest (Request.read oldInput)
  let traced := (start.setHeader "X-Trace" "a: b").append [0x0D, 0x0A, 0x0D, 0x0A]
  let failed := traced.setHeader "Content-Length" "99"
  let last := (Response.ofStatus .serviceUnavailable).append (Utf8.bytes "handler panicked")
  have listed : unrulyRouter.visits {} (Request.read oldInput) start =
      [⟨start, traced⟩, ⟨traced, failed⟩, ⟨failed, last⟩] := by rfl
  have recorded : Recorded unrulyOrigin
      (unrulyRouter.visits {} (Request.read oldInput) start) := by
    rw [listed]
    intro visit member
    simp only [List.mem_cons, List.not_mem_nil, or_false] at member
    rcases member with rfl | rfl | rfl
    · exact (Response.Edited.unchanged.header (by decide) (by decide)).body _
    · exact Response.Edited.unchanged.header (by decide) (by decide)
    · exact (Response.Edited.renewed .serviceUnavailable).body _
  obtain ⟨returned, -, decoded, -⟩ := answer_decodes unrulyRouter {} oldInput unrulyOrigin recorded
  have left : unrulyRouter.process {} (Request.read oldInput) start =
      { response := last,
        events := [.log (Log.error "Error processing GET /x: handler panicked")],
        result := .ok () } := by rfl
  have written : decimal 16 = "16" := by simp [decimal, digitsOnto, digitChar]
  have entries : last.updateContentLength.headers.entries = [("Content-Length", decimal 16)] := by
    rfl
  rw [left] at returned decoded
  refine ⟨_, returned, ?_⟩
  rw [decoded, entries, written]
  rfl

end Router

end HttpServer
