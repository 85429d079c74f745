import HttpServer.Proofs.Framing.HeadEnd

/-!
The length of the body that a head declares. The framing finds it in the text of the whole head,
and the request in its header fields. Both see the same `Content-Length` lines; the framing goes
by the first of them, the request by the last.
-/

namespace HttpServer

namespace Request.Layout

def fields (layout : Layout) : List (List Char × List Char) :=
  layout.lines.filterMap fun line => cut ':' (lineText line)

def lengths (layout : Layout) : List Nat :=
  (layout.fields.filter fun field => Framing.isContentLength field.1).map fun field =>
    (readNatural maxWord (Text.trim field.2)).toOption.getD 0

/-- Whatever is taken for the name `Content-Length` in some case is spelled so. -/
def Spelled (layout : Layout) : Prop :=
  ∀ field ∈ layout.fields, Framing.isContentLength field.1 = true →
    Text.trim field.1 = "Content-Length".toList

instance : DecidablePred Spelled := fun layout =>
  inferInstanceAs (Decidable (∀ field ∈ layout.fields, _ → _))

end Request.Layout

namespace Framing

open Request (Layout closed lineText lineFeed carriageReturn)

/-! ### The lines of a head -/

theorem dropLastIf_decode (line : Bytes) : dropLastIf '\r' (Utf8.decode line) = lineText line := by
  by_cases last : line.getLast? = some carriageReturn
  · obtain ⟨front, rfl⟩ := List.getLast?_eq_some_iff.mp last
    have decoded : Utf8.decode (front ++ [carriageReturn]) = Utf8.decode front ++ ['\r'] :=
      Utf8.decode_append_ascii front [] (by decide)
    rw [decoded, dropLastIf_append, lineText, dropLastIf_append]
  · have other : (Utf8.decode line).getLast? ≠ some '\r' := fun ends =>
      last (Utf8.getLast?_of_decode ends (by decide))
    rw [dropLastIf_of_ne other, lineText, dropLastIf_of_ne last]

theorem linesOf_decode_closed {lines : List Bytes} (unbroken : ∀ line ∈ lines, lineFeed ∉ line) :
    linesOf (Utf8.decode (closed lines)) = lines.map lineText := by
  induction lines with
  | nil => rfl
  | cons line lines ih =>
      have noFeed : '\n' ∉ Utf8.decode line := fun member =>
        unbroken line (by simp) (Utf8.mem_decode_ascii member (by decide))
      have decoded : Utf8.decode (closed (line :: lines)) =
          Utf8.decode line ++ '\n' :: Utf8.decode (closed lines) := by
        have whole := Request.closed_cons line lines []
        rw [List.append_nil, List.append_nil] at whole
        rw [whole]
        exact Utf8.decode_append_ascii line (closed lines) (by decide)
      rw [decoded, linesOf_cons noFeed, dropLastIf_decode, List.map_cons,
        ih fun other member => unbroken other (by simp [member])]

theorem linesOf_decode_head {layout : Layout} (wellFormed : layout.WellFormed) :
    linesOf (Utf8.decode layout.head) =
      lineText layout.first :: (layout.lines.map lineText ++ [[]]) := by
  have unbroken : ∀ line ∈ layout.opening ++ [layout.blank], lineFeed ∉ line := by
    intro line member
    rcases List.mem_append.mp member with inside | last
    · exact wellFormed.unbroken line inside
    · rw [List.mem_singleton.mp last]
      exact wellFormed.not_mem_blank
  rw [Layout.head, ← Request.closed_concat, linesOf_decode_closed unbroken, List.map_append,
    List.map_singleton, wellFormed.lineText_blank]
  rfl

/-! ### The first and the last length -/

theorem declaredLength_head {layout : Layout} (wellFormed : layout.WellFormed) :
    declaredLength layout.head = layout.lengths.head?.getD 0 := by
  have named : ((linesOf (Utf8.decode layout.head)).drop 1).filterMap (cut ':') =
      layout.fields := by
    rw [linesOf_decode_head wellFormed, List.drop_one, List.tail_cons, List.filterMap_append,
      List.filterMap_map]
    simp [Layout.fields, Function.comp_def, cut]
  rw [declaredLength, named, Layout.lengths, List.head?_map, List.head?_filter]
  cases layout.fields.find? fun field => isContentLength field.1 <;> rfl

theorem headers_eq_store (layout : Layout) : layout.headers = Fields.store {}
    (layout.fields.map fun field =>
      (String.ofList (Text.trim field.1), String.ofList (Text.trim field.2))) := by
  rw [Layout.headers, Fields.store, Layout.fields, List.foldl_map, List.foldl_filterMap]
  congr 1
  funext headers line
  rw [Request.addHeader]
  cases cut ':' (lineText line) <;> rfl

theorem isContentLength_iff {layout : Layout} (spelled : layout.Spelled)
    {field : List Char × List Char} (member : field ∈ layout.fields) :
    String.ofList (Text.trim field.1) = "Content-Length" ↔ isContentLength field.1 = true := by
  constructor
  · intro same
    have name : Text.trim field.1 = "Content-Length".toList := by rw [← same, String.toList_ofList]
    rw [isContentLength, name]
    decide
  · intro named
    rw [spelled field member named, String.ofList_toList]

theorem get?_headers {layout : Layout} (spelled : layout.Spelled) :
    layout.headers.get? "Content-Length" =
      (layout.fields.filter fun field => isContentLength field.1).getLast?.map
        fun field => String.ofList (Text.trim field.2) := by
  have same : (layout.fields.filter fun field =>
      decide (String.ofList (Text.trim field.1) = "Content-Length")) =
        layout.fields.filter fun field => isContentLength field.1 := by
    refine List.filter_congr fun field member => ?_
    rw [Bool.eq_iff_iff, decide_eq_true_eq]
    exact isContentLength_iff spelled member
  rw [headers_eq_store, Fields.get?_store, ← List.map_reverse, List.find?_map, Option.map_map,
    ← same, List.getLast?_filter]
  exact Option.or_none

theorem contentLength_of_parse {layout : Layout} (wellFormed : layout.WellFormed)
    (spelled : layout.Spelled) {request : Request}
    (accepted : Request.parse layout.bytes = .ok request) :
    request.contentLength = layout.lengths.getLast?.getD 0 := by
  rw [Request.contentLength, Request.header?, (Layout.of_parse wellFormed accepted).1,
    get?_headers spelled, Layout.lengths, List.getLast?_map]
  cases (layout.fields.filter fun field => isContentLength field.1).getLast? with
  | none => rfl
  | some field => simp

/-! ### The length of a request -/

theorem wanted_of_headEnd? {received : Bytes} {headEnd : Nat}
    (found : headEnd? received = some headEnd) :
    wanted received = min (headEnd + declaredLength (received.take headEnd)) maxRequest := by
  have below : maxRequest ≤ maxWord := by decide
  simp only [wanted, found, saturatingAdd]
  omega

/-- The framing goes by the first `Content-Length` line, the request by the last, whatever their
values are: they agree if all these lines declare one length. -/
theorem lengths_agree {input : Bytes} {request : Request}
    (accepted : Request.parse input = .ok request) {headEnd : Nat}
    (found : headEnd? input = some headEnd) :
    (∃ layout : Layout, layout.WellFormed ∧ layout.bytes = input) ∧
    ∀ layout : Layout, layout.WellFormed → layout.bytes = input → layout.head.length = headEnd →
      layout.Spelled →
      declaredLength (input.take headEnd) = layout.lengths.head?.getD 0 ∧
      request.contentLength = layout.lengths.getLast?.getD 0 ∧
      wanted input = min (headEnd + layout.lengths.head?.getD 0) maxRequest ∧
      ((∀ first ∈ layout.lengths, ∀ last ∈ layout.lengths, first = last) →
        declaredLength (input.take headEnd) = request.contentLength) := by
  constructor
  · rcases Request.exists_layout_or_endless input with exists_layout | ⟨lines, last, endless⟩
    · exact exists_layout
    · rw [headEnd?_of_endless endless] at found
      cases found
  · rintro layout wellFormed rfl rfl spelled
    have first : declaredLength (layout.bytes.take layout.head.length) =
        layout.lengths.head?.getD 0 := by
      rw [Layout.bytes, List.take_left, declaredLength_head wellFormed]
    have last := contentLength_of_parse wellFormed spelled accepted
    refine ⟨first, last, by rw [wanted_of_headEnd? found, first], ?_⟩
    intro one
    rw [first, last]
    cases begins : layout.lengths.head? with
    | none => simp [List.head?_eq_none_iff.mp begins]
    | some length =>
        cases ends : layout.lengths.getLast? with
        | none => simp [List.getLast?_eq_none_iff.mp ends] at begins
        | some other =>
            exact one length (List.mem_of_head? begins) other (List.mem_of_getLast? ends)

def repeatedLayout : Layout where
  first := Utf8.bytes "POST / HTTP/1.1\r"
  lines := [Utf8.bytes "Content-Length: 4", 0xFF :: Utf8.bytes ": 5\r",
    Utf8.bytes " Content-Length\t:+4 \r", Utf8.bytes "Content-Length:04\r"]
  blank := [carriageReturn]
  body := Utf8.bytes "body"

theorem lengths_agree_repeated : repeatedLayout.WellFormed ∧ repeatedLayout.Spelled ∧
    ∃ request, Request.parse repeatedLayout.bytes = .ok request ∧
      declaredLength (repeatedLayout.bytes.take repeatedLayout.head.length) =
        request.contentLength ∧
      repeatedLayout.lengths = [4, 4, 4] := by
  have wellFormed : repeatedLayout.WellFormed := ⟨by decide, by decide, by decide⟩
  have spelled : repeatedLayout.Spelled := by decide
  have lengths : repeatedLayout.lengths = [4, 4, 4] := by decide
  have found : headEnd? repeatedLayout.bytes = some repeatedLayout.head.length :=
    (headEnd?_layout_iff wellFormed).mpr fun torn => absurd torn.2 (by decide)
  obtain ⟨request, accepted⟩ : ∃ request, Request.parse repeatedLayout.bytes = .ok request :=
    ⟨_, rfl⟩
  obtain ⟨-, -, -, agree⟩ :=
    (lengths_agree accepted found).2 repeatedLayout wellFormed rfl rfl spelled
  refine ⟨wellFormed, spelled, request, accepted, agree ?_, lengths⟩
  rw [lengths]
  decide

def contraryLayout : Layout where
  first := Utf8.bytes "POST / HTTP/1.1\r"
  lines := [Utf8.bytes "Content-Length: 0\r", Utf8.bytes "Content-Length: 4\r"]
  blank := [carriageReturn]
  body := Utf8.bytes "body"

theorem lengths_differ :
    headEnd? contraryLayout.bytes = some contraryLayout.head.length ∧
    contraryLayout.WellFormed ∧ contraryLayout.Spelled ∧
    ∃ request, Request.parse contraryLayout.bytes = .ok request ∧
      request.body = Utf8.bytes "body" ∧ request.contentLength = 4 ∧
      declaredLength (contraryLayout.bytes.take contraryLayout.head.length) = 0 :=
  ⟨by decide, ⟨by decide, by decide, by decide⟩, by decide, _, rfl, rfl, by decide, by decide⟩

end Framing

end HttpServer
