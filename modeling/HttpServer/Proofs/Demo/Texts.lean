import HttpServer.Proofs.Demo.Replies

/-!
What clients send, in the JSON that the application replies with. Names, paths and bodies come
back inside strings whatever they are, and documents come back as they were read, so nothing that
is sent can end its own string or add a member.
-/

namespace HttpServer.Demo

open Json (DocumentText Nests Reads maxLevels)

/-! ### Replies of the endpoints -/

section

variable {json : Json.Library} {now : Nat} {request : Request} {status : Status}
  {contentType : String} {body : Bytes}

theorem Replies.of_hello (replies : Replies json now request status contentType body)
    (method : request.method = .get) (path : request.path = "/api/hello") :
    status = .ok ∧ body = Utf8.bytes (helloText json (visitor request)) := by
  cases replies with
  | hello => exact ⟨rfl, rfl⟩
  | index _ other => exact absurd (path.symm.trans other) (by decide)
  | status _ other => exact absurd (path.symm.trans other) (by decide)
  | health _ other => exact absurd (path.symm.trans other) (by decide)
  | echo _ other => exact absurd (path.symm.trans other) (by decide)
  | broken broken => exact absurd (path.symm.trans broken.path) (by decide)
  | missing unserved => exact absurd (by simp [method, path, endpoints]) unserved

theorem Replies.of_echo (replies : Replies json now request status contentType body)
    (method : request.method = .post) (path : request.path = "/api/echo")
    (whole : ∀ message, ¬Broken json request message) :
    ∃ document, Echoes json request document ∧ status = .ok ∧
      body = Utf8.bytes (echoText json document) := by
  cases replies with
  | echo _ _ echoes => exact ⟨_, echoes, rfl, rfl⟩
  | broken broken => exact absurd broken (whole _)
  | index _ other => exact absurd (path.symm.trans other) (by decide)
  | status _ other => exact absurd (path.symm.trans other) (by decide)
  | health _ other => exact absurd (path.symm.trans other) (by decide)
  | hello _ other => exact absurd (path.symm.trans other) (by decide)
  | missing unserved => exact absurd (by simp [method, path, endpoints]) unserved

theorem Replies.of_notFound (replies : Replies json now request .notFound contentType body) :
    body = Utf8.bytes (notFoundText json request.path) := by
  cases replies
  rfl

theorem Replies.of_document (replies : Replies json now request status contentType body)
    (method : request.method = .post) (path : request.path = "/api/echo")
    (sent : sentJson request = true) {document : Json}
    (read : json.parse request.body = .ok document) :
    status = .ok ∧ body = Utf8.bytes (echoText json document) := by
  have whole (message : String) : ¬Broken json request message := by
    intro broken
    rw [broken.refused] at read
    cases read
  obtain ⟨echoed, echoes, ok, same⟩ := replies.of_echo method path whole
  refine ⟨ok, same.trans ?_⟩
  cases echoes with
  | document _ also =>
      rw [read] at also
      cases also
      rfl
  | text plain =>
      rw [sent] at plain
      cases plain

theorem Replies.of_text (replies : Replies json now request status contentType body)
    (method : request.method = .post) (path : request.path = "/api/echo")
    (plain : sentJson request = false) :
    status = .ok ∧ body = Utf8.bytes (echoText json (.string request.bodyText)) := by
  have whole (message : String) : ¬Broken json request message := by
    intro broken
    rw [broken.sent] at plain
    cases plain
  obtain ⟨echoed, echoes, ok, same⟩ := replies.of_echo method path whole
  refine ⟨ok, same.trans ?_⟩
  cases echoes with
  | document sent _ =>
      rw [sent] at plain
      cases plain
  | text _ => rfl

end

/-! ### Their texts, read back -/

section

variable {json : Json.Library} (lawful : json.Lawful)
include lawful

theorem parse_helloText (name : String) : json.parse (Utf8.bytes (helloText json name)) =
    .ok (.object [("message", .string ("Hello, " ++ name ++ "!"))]) := by
  apply lawful.parse_strings
  · exact List.pairwise_singleton _ _
  · simp

theorem parse_echoText_string (text : String) :
    json.parse (Utf8.bytes (echoText json (.string text))) =
      .ok (.object [("echo", .string text)]) := by
  apply lawful.parse_strings
  · exact List.pairwise_singleton _ _
  · simp

theorem reads_echoText {ε : Type} {levels : Nat} {parse : Bytes → Except ε Json}
    (reads : Reads (levels + 1) parse) {document : Json} (regular : Json.Regular levels document)
    (integral : document.Integral) :
    parse (Utf8.bytes (echoText json document)) = .ok (.object [("echo", document)]) := by
  apply lawful.reads_render reads (List.pairwise_singleton _ _)
  · simpa using regular
  · simpa using integral

end

theorem visitor_eq (request : Request) : visitor request =
    match request.parameter? "name" with
    | some name => if name = "" then "World" else name
    | none => "World" := by
  unfold visitor
  cases request.parameter? "name" with
  | none => rfl
  | some name => simp [String.isEmpty_iff]

/-- What clients send comes back as it is, whatever library reads and writes JSON. A name that is
greeted, a path that is not found and a body that is no JSON are read from the reply as the strings
that they were, and a document without doubles as the document that it was, which takes one more
level of nesting. A key that a document has several times is kept with its last value. -/
theorem texts_come_back {json : Json.Library} (lawful : json.Lawful) {config : Config}
    (unmapped : config.staticDir = none) (now : Nat) (files : FileTree) (input : Bytes) :
    ∃ bytes message, ((server json config now).answer files input).bytes = .ok bytes ∧
      Wire.read? bytes = some message ∧
      (∀ request, Request.parse input = .ok request → request.method = .get →
        request.path = "/api/hello" → message.statusLine.status = .ok ∧
        ∃ name, (name = match request.parameter? "name" with
            | some name => if name = "" then "World" else name
            | none => "World") ∧
          json.parse message.body =
            .ok (.object [("message", .string ("Hello, " ++ name ++ "!"))])) ∧
      (message.statusLine.status = .notFound → json.parse message.body =
        .ok (.object [("error", .string "Not Found"),
          ("path", .string (Request.read input).path)])) ∧
      (∀ request, Request.parse input = .ok request → request.method = .post →
        request.path = "/api/echo" → ¬DeclaresJson request → message.statusLine.status = .ok ∧
        json.parse message.body =
          .ok (.object [("echo", .string (Utf8.lossy request.body))])) ∧
      (∀ request, Request.parse input = .ok request → request.method = .post →
        request.path = "/api/echo" → DeclaresJson request →
        (∀ document, json.parse request.body = .ok document → document.Integral →
          message.statusLine.status = .ok ∧
          (∀ deeper : Bytes → Except String Json, Reads (maxLevels + 1) deeper →
            deeper message.body = .ok (.object [("echo", document)])) ∧
          (Nests (maxLevels - 1) document →
            json.parse message.body = .ok (.object [("echo", document)]))) ∧
        (∀ written, DocumentText maxLevels written request.body → written.Integral →
          json.parse request.body = .ok written.normal ∧
          ∀ deeper : Bytes → Except String Json, Reads (maxLevels + 1) deeper →
            deeper message.body = .ok (.object [("echo", written.normal)]))) ∧
      (∀ members, ∃ kept, (Json.object members).normal = .object kept ∧
        ∀ key, Json.member? key kept = (Json.member? key members.reverse).map Json.normal) := by
  obtain ⟨status, contentType, body, bytes, replies, returned, read⟩ :=
    answer_replies json unmapped now files input
  refine ⟨bytes, _, returned, read, ?_⟩
  dsimp only
  refine ⟨?_, ?_, ?_, ?_, ?_⟩
  · intro request parsed method path
    rw [Request.read_of_parse parsed] at replies
    obtain ⟨ok, same⟩ := replies.of_hello method path
    refine ⟨ok, visitor request, visitor_eq request, ?_⟩
    rw [same]
    exact parse_helloText lawful (visitor request)
  · rintro rfl
    rw [replies.of_notFound]
    exact parse_notFoundText lawful _
  · intro request parsed method path undeclared
    rw [Request.read_of_parse parsed] at replies
    have plain : sentJson request = false := by
      rw [Bool.eq_false_iff, Ne, sentJson_iff]
      exact undeclared
    obtain ⟨ok, same⟩ := replies.of_text method path plain
    refine ⟨ok, ?_⟩
    rw [same]
    exact parse_echoText_string lawful request.bodyText
  · intro request parsed method path declared
    rw [Request.read_of_parse parsed] at replies
    have sent := (sentJson_iff request).mpr declared
    refine ⟨?_, ?_⟩
    · intro document given integral
      obtain ⟨ok, same⟩ := replies.of_document method path sent given
      have regular := lawful.regular _ _ given
      rw [same]
      refine ⟨ok, fun deeper reads => reads_echoText lawful reads regular integral, ?_⟩
      intro nests
      have reads : Reads (maxLevels - 1 + 1) json.parse := lawful.reads
      exact reads_echoText lawful reads ⟨nests, regular.2⟩ integral
    · intro written is integral
      have given := lawful.reads written request.body is
      obtain ⟨-, same⟩ := replies.of_document method path sent given
      refine ⟨given, ?_⟩
      intro deeper reads
      rw [same]
      exact reads_echoText lawful reads (lawful.regular _ _ given) integral.normal
  · intro members
    obtain ⟨kept, same, -, last⟩ := Json.normal_object members
    exact ⟨kept, same, last⟩

/-- A name that would end the string and add a member. -/
def intrusiveInput : Bytes :=
  Utf8.bytes "GET /api/hello?name=%22,%22a%22:%22 HTTP/1.1\r\n\r\n"

theorem texts_come_back_intrusive :
    Json.Library.standard.Lawful ∧ ({ workers := 1 } : Config).staticDir = none ∧
    ∃ bytes message,
      ((server .standard { workers := 1 } 0).answer {} intrusiveInput).bytes = .ok bytes ∧
      Wire.read? bytes = some message ∧
      Json.parse message.body =
        .ok (.object [("message", .string "Hello, \",\"a\":\"!")]) := by
  have unmapped : ({ workers := 1 } : Config).staticDir = none := rfl
  have parsed : ∃ request, Request.parse intrusiveInput = .ok request ∧ request.method = .get ∧
      request.path = "/api/hello" ∧ request.parameter? "name" = some "\",\"a\":\"" :=
    ⟨_, rfl, rfl, by decide, by decide⟩
  obtain ⟨request, parsed, method, path, given⟩ := parsed
  obtain ⟨bytes, message, returned, read, hello, -⟩ :=
    texts_come_back Json.Library.standard_lawful unmapped 0 {} intrusiveInput
  obtain ⟨-, name, is, reply⟩ := hello request parsed method path
  have same : name = "\",\"a\":\"" := by simpa [given] using is
  subst same
  exact ⟨Json.Library.standard_lawful, unmapped, bytes, message, returned, read, reply⟩

end HttpServer.Demo
