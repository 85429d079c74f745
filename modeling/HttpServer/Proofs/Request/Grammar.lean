import HttpServer.Proofs.Fields
import HttpServer.Proofs.Text.Cutting
import HttpServer.Proofs.Text.Utf8
import HttpServer.Proofs.Text.Words
import HttpServer.Request

/-!
The grammar of requests. A `Draft` is a request as somebody writes it: three words, header lines
and a body, with a line end chosen for each line. Reading the bytes of a draft gives its request
back, and bytes are accepted exactly if their first line consists of three words of which the
third begins with `HTTP/`.
-/

namespace HttpServer.Request

open Text (IsSolid Separated)

/-! ### Drafts -/

inductive LineEnd
  | lf
  | crlf
deriving DecidableEq, Repr

def LineEnd.opening : LineEnd → Bytes
  | .lf => []
  | .crlf => [carriageReturn]

def LineEnd.bytes (lineEnd : LineEnd) : Bytes :=
  lineEnd.opening ++ [lineFeed]

def colon : UInt8 := 0x3A

inductive HeaderLine
  | field (name value : Bytes)
  | remark (text : Bytes)
deriving DecidableEq, Repr

namespace HeaderLine

def bytes : HeaderLine → Bytes
  | .field name value => name ++ colon :: value
  | .remark text => text

def WellFormed : HeaderLine → Prop
  | .field name value => colon ∉ name ∧ lineFeed ∉ name ∧ lineFeed ∉ value
  | .remark text => colon ∉ text ∧ lineFeed ∉ text

instance : DecidablePred WellFormed
  | .field name value =>
      inferInstanceAs (Decidable (colon ∉ name ∧ lineFeed ∉ name ∧ lineFeed ∉ value))
  | .remark text => inferInstanceAs (Decidable (colon ∉ text ∧ lineFeed ∉ text))

def trimmed (part : Bytes) : String :=
  String.ofList (Text.trim (Utf8.decode part))

def pair? : HeaderLine → Option (String × String)
  | .field name value => some (trimmed name, trimmed value)
  | .remark _ => none

end HeaderLine

structure Draft where
  method : List Char
  target : List Char
  version : List Char
  lineEnd : LineEnd
  headers : List (HeaderLine × LineEnd)
  blankEnd : LineEnd
  body : Bytes
deriving DecidableEq, Repr

namespace Draft

def line (draft : Draft) : List Char :=
  draft.method ++ ' ' :: (draft.target ++ ' ' :: draft.version)

def headerBytes (headers : List (HeaderLine × LineEnd)) : Bytes :=
  headers.flatMap fun header => header.1.bytes ++ header.2.bytes

def bytes (draft : Draft) : Bytes :=
  Utf8.encode draft.line ++ (draft.lineEnd.bytes ++
    (headerBytes draft.headers ++ (draft.blankEnd.bytes ++ draft.body)))

structure WellFormed (draft : Draft) : Prop where
  method : IsSolid draft.method
  target : IsSolid draft.target
  version : IsSolid draft.version
  http : "HTTP/".toList <+: draft.version
  headers : ∀ header ∈ draft.headers, header.1.WellFormed

/-- No header line can be taken for the empty line that ends the headers. -/
def Unbroken (draft : Draft) : Prop :=
  ∀ header ∈ draft.headers,
    header.1.bytes ≠ [] ∧ ¬(header.1.bytes = [carriageReturn] ∧ header.2 = .lf)

def request (draft : Draft) : Request where
  method := Method.ofWord (String.ofList draft.method)
  path := Percent.decode (String.ofList (draft.target.takeWhile (· ≠ '?')))
  query := parseQuery ((draft.target.dropWhile (· ≠ '?')).drop 1)
  version := String.ofList draft.version
  headers := Fields.store {} (draft.headers.filterMap fun header => header.1.pair?)
  body := dropLastIf lineFeed draft.body
  valid := true

end Draft

/-! ### Lines -/

theorem lineText_opening {line : Bytes} (noReturn : carriageReturn ∉ line) (lineEnd : LineEnd) :
    lineText (line ++ lineEnd.opening) = Utf8.decode line := by
  cases lineEnd with
  | lf =>
      have other : line.getLast? ≠ some carriageReturn := fun last =>
        noReturn (List.mem_of_getLast? last)
      simp [lineText, LineEnd.opening, dropLastIf_of_ne other]
  | crlf => simp [lineText, LineEnd.opening, dropLastIf_append]

theorem lineText_crlf (line : Bytes) :
    lineText (line ++ LineEnd.crlf.opening) = Utf8.decode line := by
  simp [lineText, LineEnd.opening, dropLastIf_append]

theorem readHeaders_line {line : Bytes} (noFeed : lineFeed ∉ line) (headers : Fields)
    (begun rest : Bytes) :
    readHeaders headers begun (line ++ lineFeed :: rest) =
      if lineText (begun.reverse ++ line) = [] then (headers, rest)
      else readHeaders (addHeader headers (lineText (begun.reverse ++ line))) [] rest := by
  induction line generalizing begun with
  | nil =>
      simp only [List.nil_append, readHeaders, ↓reduceIte, List.append_nil]
      cases lineText begun.reverse <;> simp
  | cons byte line ih =>
      have different : byte ≠ lineFeed := fun same => noFeed (by simp [same])
      have later : lineFeed ∉ line := fun member => noFeed (by simp [member])
      simp only [List.cons_append, readHeaders, different, ↓reduceIte]
      rw [ih later]
      simp

theorem not_mem_opening (lineEnd : LineEnd) : lineFeed ∉ lineEnd.opening := by
  cases lineEnd <;> decide

theorem not_mem_decode {line : Bytes} (noColon : colon ∉ line) : ':' ∉ Utf8.decode line :=
  fun member => noColon (Utf8.mem_decode_ascii member (by decide))

/-! ### Header lines -/

theorem lineText_field (name value : Bytes) (lineEnd : LineEnd) :
    ∃ text, lineText ((HeaderLine.field name value).bytes ++ lineEnd.opening) =
        Utf8.decode name ++ ':' :: text ∧
      Text.trim text = Text.trim (Utf8.decode value) := by
  have ascii : colon.toNat < 0x80 := by decide
  cases lineEnd with
  | crlf =>
      refine ⟨Utf8.decode value, ?_, rfl⟩
      rw [lineText_crlf]
      exact Utf8.decode_append_ascii name value ascii
  | lf =>
      refine ⟨Utf8.decode (dropLastIf carriageReturn value), ?_, ?_⟩
      · have whole : dropLastIf carriageReturn (name ++ colon :: value) =
            name ++ colon :: dropLastIf carriageReturn value :=
          dropLastIf_append_cons (by decide) name value
        simp only [lineText, HeaderLine.bytes, LineEnd.opening, List.append_nil, whole]
        exact Utf8.decode_append_ascii name _ ascii
      · rcases dropLastIf_cases carriageReturn value with same | ended
        · rw [same]
        · have read := Utf8.decode_append_ascii (dropLastIf carriageReturn value) []
            (show carriageReturn.toNat < 0x80 by decide)
          rw [← ended] at read
          rw [read]
          exact (Text.trim_append_blank _ (by decide)).symm

theorem addHeader_line {header : HeaderLine} (wellFormed : header.WellFormed) (lineEnd : LineEnd)
    (fields : Fields) :
    addHeader fields (lineText (header.bytes ++ lineEnd.opening)) =
      fields.store header.pair?.toList := by
  cases header with
  | field name value =>
      obtain ⟨text, read, trimmed⟩ := lineText_field name value lineEnd
      rw [read, addHeader, cut_append (not_mem_decode wellFormed.1)]
      simp [HeaderLine.pair?, HeaderLine.trimmed, Fields.store, trimmed]
  | remark text =>
      have noColon : colon ∉ dropLastIf carriageReturn (text ++ lineEnd.opening) := by
        intro member
        have kept := mem_of_mem_dropLastIf member
        cases lineEnd <;> simp [LineEnd.opening, colon, carriageReturn] at kept
        all_goals exact wellFormed.1 kept
      have nothing : cut ':' (lineText (text ++ lineEnd.opening)) = none :=
        cut_of_not_mem (not_mem_decode noColon)
      simp only [HeaderLine.bytes, addHeader, nothing, HeaderLine.pair?]
      rfl

theorem lineText_ne_nil {header : HeaderLine} {lineEnd : LineEnd} (something : header.bytes ≠ [])
    (notReturn : ¬(header.bytes = [carriageReturn] ∧ lineEnd = .lf)) :
    lineText (header.bytes ++ lineEnd.opening) ≠ [] := by
  intro empty
  cases lineEnd with
  | crlf =>
      rw [lineText_crlf, Utf8.decode_eq_nil_iff] at empty
      exact something empty
  | lf =>
      simp only [lineText, LineEnd.opening, List.append_nil, Utf8.decode_eq_nil_iff] at empty
      rcases dropLastIf_cases carriageReturn header.bytes with same | ended
      · exact something (same.symm.trans empty)
      · rw [empty] at ended
        exact notReturn ⟨ended, rfl⟩

theorem not_mem_headerBytes {header : HeaderLine} (wellFormed : header.WellFormed)
    (lineEnd : LineEnd) : lineFeed ∉ header.bytes ++ lineEnd.opening := by
  have absent : lineFeed ∉ header.bytes := by
    cases header with
    | field name value =>
        have different : lineFeed ≠ colon := by decide
        simp [HeaderLine.bytes, wellFormed.2.1, wellFormed.2.2, different]
    | remark text => exact wellFormed.2
  simp [absent, not_mem_opening]

theorem headerBytes_cons (header : HeaderLine × LineEnd) (rest : List (HeaderLine × LineEnd))
    (tail : Bytes) :
    Draft.headerBytes (header :: rest) ++ tail =
      (header.1.bytes ++ header.2.opening) ++ lineFeed :: (Draft.headerBytes rest ++ tail) := by
  simp [Draft.headerBytes, LineEnd.bytes]

theorem readHeaders_draft {headers : List (HeaderLine × LineEnd)}
    (wellFormed : ∀ header ∈ headers, header.1.WellFormed)
    (unbroken : ∀ header ∈ headers,
      header.1.bytes ≠ [] ∧ ¬(header.1.bytes = [carriageReturn] ∧ header.2 = .lf))
    (blankEnd : LineEnd) (body : Bytes) (fields : Fields) :
    readHeaders fields [] (Draft.headerBytes headers ++ (blankEnd.bytes ++ body)) =
      (fields.store (headers.filterMap fun header => header.1.pair?), body) := by
  induction headers generalizing fields with
  | nil =>
      have empty : lineText ([].reverse ++ blankEnd.opening) = [] :=
        lineText_opening (by simp) blankEnd
      rw [show Draft.headerBytes [] ++ (blankEnd.bytes ++ body) =
          blankEnd.opening ++ lineFeed :: body by simp [Draft.headerBytes, LineEnd.bytes],
        readHeaders_line (not_mem_opening blankEnd), if_pos empty]
      rfl
  | cons header rest ih =>
      have here := unbroken header (by simp)
      have sound := wellFormed header (by simp)
      have later := ih (fun other member => wellFormed other (by simp [member]))
        (fun other member => unbroken other (by simp [member]))
      rw [headerBytes_cons, readHeaders_line (not_mem_headerBytes sound header.2),
        List.reverse_nil, List.nil_append, if_neg (lineText_ne_nil here.1 here.2),
        addHeader_line sound, later, ← Fields.store_append]
      cases pair : header.1.pair? <;> simp [pair]

/-! ### Request lines -/

theorem parse_eq {input : Bytes} (something : input ≠ []) :
    parse input = (parseLine (lineText (input.takeWhile (· ≠ lineFeed)))).map fun request =>
      let read := readHeaders {} [] ((input.dropWhile (· ≠ lineFeed)).drop 1)
      { request with headers := read.1, body := dropLastIf lineFeed read.2 } := by
  have notEmpty : input.isEmpty = false := by simpa using something
  simp only [parse, notEmpty, List.span_eq_takeWhile_dropWhile]
  cases parseLine (lineText (input.takeWhile (· ≠ lineFeed))) <;> rfl

theorem read_of_parse {input : Bytes} {request : Request}
    (accepted : parse input = .ok request) : read input = request := by
  rw [read, accepted]
  rfl

theorem read_of_error {input : Bytes} {fault : Fault} (refused : parse input = .error fault) :
    read input = invalid := by
  rw [read, refused]
  rfl

theorem parse_append {line : Bytes} (noFeed : lineFeed ∉ line) (rest : Bytes) :
    parse (line ++ lineFeed :: rest) = (parseLine (lineText line)).map fun request =>
      let read := readHeaders {} [] rest
      { request with headers := read.1, body := dropLastIf lineFeed read.2 } := by
  have cut := span_append noFeed rest
  rw [List.span_eq_takeWhile_dropWhile, Prod.mk.injEq] at cut
  rw [parse_eq (by simp), cut.1, cut.2, List.drop_one, List.tail_cons]

theorem parseLine_isOk_iff (line : List Char) :
    (∃ request, parseLine line = .ok request) ↔
      ∃ method target version, Separated line [method, target, version] ∧
        "HTTP/".toList <+: version := by
  constructor
  · rintro ⟨request, read⟩
    unfold parseLine at read
    split at read
    · rename_i method target version found
      split at read
      · rename_i http
        exact ⟨method, target, version, (Text.words_eq_iff _ _).mp found,
          List.isPrefixOf_iff_prefix.mp http⟩
      · cases read
    · cases read
  · rintro ⟨method, target, version, separated, http⟩
    have found := (Text.words_eq_iff _ _).mpr separated
    have begins := List.isPrefixOf_iff_prefix.mpr http
    simp only [parseLine, found, begins, ↓reduceIte]
    exact ⟨_, rfl⟩

theorem parse_isOk_iff (input : Bytes) :
    (∃ request, parse input = .ok request) ↔
      input ≠ [] ∧
        ∃ request, parseLine (lineText (input.takeWhile (· ≠ lineFeed))) = .ok request := by
  by_cases something : input = []
  · subst input
    simp [parse]
  · rw [parse_eq something]
    cases parseLine (lineText (input.takeWhile (· ≠ lineFeed))) <;> simp [Except.map, something]

theorem parseTarget_eq (target : List Char) :
    parseTarget target = (Percent.decode (String.ofList (target.takeWhile (· ≠ '?'))),
      parseQuery ((target.dropWhile (· ≠ '?')).drop 1)) := by
  rw [parseTarget, cut, List.span_eq_takeWhile_dropWhile]
  cases found : target.dropWhile (· ≠ '?') with
  | nil =>
      have whole := List.takeWhile_append_dropWhile (p := (· ≠ '?')) (l := target)
      rw [found, List.append_nil] at whole
      simp only [whole]
      rfl
  | cons mark query => rfl

/-! ### Methods -/

def Names (word : List Char) (method : Method) : Prop :=
  word.map Char.toUpper = method.name.toList.map Char.toUpper

instance (word : List Char) (method : Method) : Decidable (Names word method) :=
  inferInstanceAs (Decidable (_ = _))

theorem names_iff {word : List Char} {method : Method} (known : method ∈ Method.known) :
    Names word method ↔ method.name = String.ofList (word.map Char.toUpper) := by
  have upper : method.name.toList.map Char.toUpper = method.name.toList := by
    revert known
    cases method <;> decide
  rw [Names, upper, ← String.toList_inj, String.toList_ofList, eq_comm]

theorem ofWord_eq_iff {word : List Char} {method : Method} (known : method ∈ Method.known) :
    Method.ofWord (String.ofList word) = method ↔ Names word method := by
  rw [names_iff known, Method.ofWord, String.toList_ofList]
  constructor
  · intro named
    cases found : Method.known.find? fun other =>
        other.name = String.ofList (word.map Char.toUpper) with
    | none =>
        rw [found, Option.getD_none] at named
        subst named
        exact absurd known (by decide)
    | some other =>
        rw [found, Option.getD_some] at named
        subst named
        simpa using List.find?_some found
  · intro same
    rw [← same]
    revert known
    cases method <;> decide

theorem ofWord_eq_unknown_iff (word : List Char) :
    Method.ofWord (String.ofList word) = .unknown ↔
      ∀ method ∈ Method.known, ¬Names word method := by
  constructor
  · intro unknown method known named
    rw [(ofWord_eq_iff known).mpr named] at unknown
    subst unknown
    exact absurd known (by decide)
  · intro none
    cases method : Method.ofWord (String.ofList word) with
    | unknown => rfl
    | _ => exact absurd ((ofWord_eq_iff (by decide)).mp method) (none _ (by decide))

/-! ### Reading drafts -/

namespace Draft

theorem line_separated {draft : Draft} (wellFormed : draft.WellFormed) :
    Separated draft.line [draft.method, draft.target, draft.version] := by
  have space : ∀ c ∈ [' '], Text.isBlank c = true := List.forall_mem_singleton.mpr (by decide)
  have ends (rest : List Char) : ∀ c, (' ' :: rest).head? = some c → Text.isBlank c = true := by
    rintro c ⟨⟩
    decide
  have last : Separated ([' '] ++ (draft.version ++ [])) [draft.version] :=
    .word space wellFormed.version (by simp) (.blank (by simp))
  have later : Separated ([' '] ++ (draft.target ++ ([' '] ++ (draft.version ++ []))))
      [draft.target, draft.version] :=
    .word space wellFormed.target (ends _) last
  have whole := @Separated.word [] _ _ _ (by simp) wellFormed.method (ends _) later
  simpa [line] using whole

theorem not_mem_line {draft : Draft} (wellFormed : draft.WellFormed) {c : Char}
    (blank : Text.isBlank c = true) (notSpace : c ≠ ' ') : c ∉ draft.line := by
  have outside {word : List Char} (solid : IsSolid word) : c ∉ word := fun member => by
    simp [solid.2 c member] at blank
  simp [line, outside wellFormed.method, outside wellFormed.target, outside wellFormed.version,
    notSpace]

theorem parseLine_line {draft : Draft} (wellFormed : draft.WellFormed) :
    parseLine draft.line = .ok { draft.request with headers := {}, body := [] } := by
  have found := (Text.words_eq_iff _ _).mpr (line_separated wellFormed)
  have begins := List.isPrefixOf_iff_prefix.mpr wellFormed.http
  simp only [parseLine, found, begins, ↓reduceIte, parseTarget_eq, request]

theorem parse_bytes {draft : Draft} (wellFormed : draft.WellFormed) (unbroken : draft.Unbroken) :
    parse draft.bytes = .ok draft.request := by
  have noFeed : lineFeed ∉ Utf8.encode draft.line := fun member =>
    not_mem_line wellFormed (by decide) (by decide) (Utf8.mem_encode_ascii (by decide) member)
  have noReturn : carriageReturn ∉ Utf8.encode draft.line := fun member =>
    not_mem_line wellFormed (by decide) (by decide) (Utf8.mem_encode_ascii (by decide) member)
  have first : lineFeed ∉ Utf8.encode draft.line ++ draft.lineEnd.opening := by
    simp [noFeed, not_mem_opening]
  rw [show draft.bytes = (Utf8.encode draft.line ++ draft.lineEnd.opening) ++
      lineFeed :: (headerBytes draft.headers ++ (draft.blankEnd.bytes ++ draft.body)) by
    simp [bytes, LineEnd.bytes]]
  rw [parse_append first, lineText_opening noReturn, Utf8.decode_encode,
    parseLine_line wellFormed, readHeaders_draft wellFormed.headers unbroken]
  rfl

end Draft

/-! ### The grammar -/

/-- Bytes are a request exactly if their first line has three words of which the third begins with
`HTTP/`. A draft is read as what it asks for, whatever ends are chosen for its lines, if no header
line can be taken for the empty line behind them. -/
theorem parse_exact :
    (∀ input : Bytes, (∃ request, parse input = .ok request) ↔
      input ≠ [] ∧ ∃ method target version,
        Separated (Utf8.decode (dropLastIf carriageReturn (input.takeWhile (· ≠ lineFeed))))
          [method, target, version] ∧
        "HTTP/".toList <+: version) ∧
    (∀ draft : Draft, draft.WellFormed → draft.Unbroken →
      parse draft.bytes = .ok draft.request ∧
      (∀ method ∈ Method.known, draft.request.method = method ↔ Names draft.method method) ∧
      (draft.request.method = .unknown ↔
        ∀ method ∈ Method.known, ¬Names draft.method method) ∧
      (∀ name, draft.request.header? name =
        ((draft.headers.filterMap fun header => header.1.pair?).reverse.find?
          fun pair => pair.1 = name).map Prod.snd)) := by
  constructor
  · intro input
    rw [parse_isOk_iff, parseLine_isOk_iff]
    rfl
  · intro draft wellFormed unbroken
    have word : draft.request.method = Method.ofWord (String.ofList draft.method) := by
      unfold Draft.request
      rfl
    refine ⟨Draft.parse_bytes wellFormed unbroken, ?_, ?_, ?_⟩
    · intro method known
      rw [word]
      exact ofWord_eq_iff known
    · rw [word]
      exact ofWord_eq_unknown_iff draft.method
    · intro name
      exact (Fields.get?_store {} _ name).trans Option.or_none

def mixedDraft : Draft where
  method := "pOsT".toList
  target := "/a%20b?x=1&x=2".toList
  version := "HTTP/1.0".toList
  lineEnd := .lf
  headers := [
    (.field [0x41] [0x20, 0x31, carriageReturn], .lf),
    (.remark [carriageReturn], .crlf),
    (.field [0x42, 0x20] [0xFF, colon], .crlf),
    (.field [0x41] [0x32], .lf)]
  blankEnd := .crlf
  body := [0x00, 0xFF, carriageReturn, lineFeed, carriageReturn, lineFeed, lineFeed]

theorem parse_exact_mixed :
    mixedDraft.WellFormed ∧ mixedDraft.Unbroken ∧
      parse mixedDraft.bytes = .ok mixedDraft.request ∧
      mixedDraft.request.headers.entries = [("A", "2"), ("B", "\uFFFD:")] := by
  have wellFormed : mixedDraft.WellFormed :=
    ⟨by decide, by decide, by decide, by decide, by decide⟩
  have unbroken : mixedDraft.Unbroken := by
    unfold Draft.Unbroken
    decide
  exact ⟨wellFormed, unbroken, (parse_exact.2 mixedDraft wellFormed unbroken).1, by decide⟩

def brokenDraft : Draft where
  method := "GET".toList
  target := "/".toList
  version := "HTTP/1.1".toList
  lineEnd := .lf
  headers := [(.remark [], .lf)]
  blankEnd := .lf
  body := [0x62, 0x6F, 0x64, 0x79]

/-- An empty line has no colon either, but ends the headers wherever it stands: what follows it is
read as body. -/
theorem parse_broken :
    brokenDraft.WellFormed ∧ parse brokenDraft.bytes ≠ .ok brokenDraft.request := by
  refine ⟨⟨by decide, by decide, by decide, by decide, by decide⟩, ?_⟩
  intro same
  have bodies := congrArg (fun read => (read.toOption.map fun request => request.body.length)) same
  exact absurd bodies (by decide)

end HttpServer.Request
