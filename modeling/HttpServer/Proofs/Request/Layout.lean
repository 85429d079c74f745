import HttpServer.Proofs.Request.Grammar

/-!
Where the parts of a request lie in its bytes. A `Layout` cuts them into the first line, header
lines, the empty line that ends the headers, and the body. Bytes either have a layout, and are read
by it, or end before an empty line, and then have no body.
-/

namespace HttpServer.Request

def closed (lines : List Bytes) : Bytes :=
  lines.flatMap fun line => line ++ [lineFeed]

structure Layout where
  first : Bytes
  lines : List Bytes
  blank : Bytes
  body : Bytes
deriving DecidableEq, Repr

namespace Layout

def opening (layout : Layout) : List Bytes :=
  layout.first :: layout.lines

def head (layout : Layout) : Bytes :=
  closed layout.opening ++ (layout.blank ++ [lineFeed])

def bytes (layout : Layout) : Bytes :=
  layout.head ++ layout.body

structure WellFormed (layout : Layout) : Prop where
  unbroken : ∀ line ∈ layout.opening, lineFeed ∉ line
  texts : ∀ line ∈ layout.lines, lineText line ≠ []
  blank : layout.blank = [] ∨ layout.blank = [carriageReturn]

def previous (layout : Layout) : Bytes :=
  layout.opening.getLast (by simp [opening])

def Torn (layout : Layout) : Prop :=
  layout.blank = [carriageReturn] ∧ layout.previous.getLast? ≠ some carriageReturn

def headers (layout : Layout) : Fields :=
  layout.lines.foldl (fun headers line => addHeader headers (lineText line)) {}

end Layout

structure Endless (input : Bytes) (lines : List Bytes) (last : Bytes) : Prop where
  bytes : input = closed lines ++ last
  unbroken : ∀ line ∈ lines, lineFeed ∉ line
  texts : ∀ line ∈ lines.tail, lineText line ≠ []
  unended : lineFeed ∉ last

/-! ### Lines -/

theorem closed_cons (line : Bytes) (lines : List Bytes) (rest : Bytes) :
    closed (line :: lines) ++ rest = line ++ lineFeed :: (closed lines ++ rest) := by
  simp [closed]

theorem closed_concat (lines : List Bytes) (line : Bytes) :
    closed (lines ++ [line]) = closed lines ++ (line ++ [lineFeed]) := by
  simp [closed]

theorem pieces_closed {lines : List Bytes} (unbroken : ∀ line ∈ lines, lineFeed ∉ line)
    (rest : Bytes) : pieces lineFeed (closed lines ++ rest) = lines ++ pieces lineFeed rest := by
  induction lines with
  | nil => rfl
  | cons line lines ih =>
      rw [closed_cons, pieces_append, pieces_of_not_mem (unbroken line (by simp)),
        ih fun other member => unbroken other (by simp [member])]
      rfl

theorem exists_closed (input : Bytes) :
    ∃ lines last, input = closed lines ++ last ∧ (∀ line ∈ lines, lineFeed ∉ line) ∧
      lineFeed ∉ last := by
  induction input with
  | nil => exact ⟨[], [], rfl, by simp, by simp⟩
  | cons byte rest ih =>
      obtain ⟨lines, last, rfl, unbroken, unended⟩ := ih
      by_cases ends : byte = lineFeed
      · subst byte
        refine ⟨[] :: lines, last, by simp [closed], ?_, unended⟩
        simpa using unbroken
      · have different : lineFeed ≠ byte := fun same => ends same.symm
        cases lines with
        | nil => exact ⟨[], byte :: last, rfl, by simp, by simp [different, unended]⟩
        | cons line lines =>
            refine ⟨(byte :: line) :: lines, last, by simp [closed], ?_, unended⟩
            simpa [different] using unbroken

theorem lineText_eq_nil_iff (line : Bytes) :
    lineText line = [] ↔ line = [] ∨ line = [carriageReturn] := by
  rw [lineText, Utf8.decode_eq_nil_iff]
  constructor
  · intro empty
    rcases dropLastIf_cases carriageReturn line with same | ended
    · exact .inl (same.symm.trans empty)
    · rw [empty] at ended
      exact .inr ended
  · rintro (rfl | rfl) <;> rfl

/-! ### Every input -/

theorem exists_layout_or_endless (input : Bytes) :
    (∃ layout : Layout, layout.WellFormed ∧ layout.bytes = input) ∨
      ∃ lines last, Endless input lines last := by
  obtain ⟨all, last, rfl, unbroken, unended⟩ := exists_closed input
  cases found : all.tail.find? fun line => lineText line = [] with
  | none =>
      refine .inr ⟨all, last, rfl, unbroken, ?_, unended⟩
      simpa using found
  | some blank =>
      obtain ⟨empty, lines, rest, split, texts⟩ := List.find?_eq_some_iff_append.mp found
      cases all with
      | nil => cases found
      | cons first more =>
          rw [List.tail_cons] at split
          subst more
          refine .inl ⟨⟨first, lines, blank, closed rest ++ last⟩, ?_, ?_⟩
          · refine ⟨?_, by simpa using texts, ?_⟩
            · intro line member
              refine unbroken line ?_
              rcases List.mem_cons.mp member with rfl | member
              · exact List.mem_cons_self
              · exact List.mem_cons_of_mem _ (List.mem_append_left _ member)
            · exact (lineText_eq_nil_iff blank).mp (by simpa using empty)
          · simp [Layout.bytes, Layout.head, Layout.opening, closed]

/-! ### Reading by a layout -/

theorem readHeaders_closed {lines : List Bytes} (unbroken : ∀ line ∈ lines, lineFeed ∉ line)
    (texts : ∀ line ∈ lines, lineText line ≠ []) (headers : Fields) (rest : Bytes) :
    readHeaders headers [] (closed lines ++ rest) =
      readHeaders (lines.foldl (fun headers line => addHeader headers (lineText line)) headers)
        [] rest := by
  induction lines generalizing headers with
  | nil => rfl
  | cons line lines ih =>
      have text := texts line (by simp)
      rw [closed_cons, readHeaders_line (unbroken line (by simp)), List.reverse_nil,
        List.nil_append, if_neg text,
        ih (fun other member => unbroken other (by simp [member]))
          (fun other member => texts other (by simp [member]))]
      rfl

theorem readHeaders_unended {last : Bytes} (unended : lineFeed ∉ last) (headers : Fields)
    (begun : Bytes) : readHeaders headers begun last =
      (addHeader headers (lineText (begun.reverse ++ last)), []) := by
  induction last generalizing begun with
  | nil => simp [readHeaders]
  | cons byte rest ih =>
      have different : byte ≠ lineFeed := fun same => unended (by simp [same])
      simp only [readHeaders, different, ↓reduceIte]
      rw [ih (fun member => unended (by simp [member]))]
      simp

namespace Layout

theorem WellFormed.lineText_blank {layout : Layout} (wellFormed : layout.WellFormed) :
    lineText layout.blank = [] :=
  (lineText_eq_nil_iff layout.blank).mpr wellFormed.blank

theorem WellFormed.not_mem_blank {layout : Layout} (wellFormed : layout.WellFormed) :
    lineFeed ∉ layout.blank := by
  rcases wellFormed.blank with empty | empty <;> rw [empty] <;> decide

theorem bytes_eq (layout : Layout) : layout.bytes =
    layout.first ++ lineFeed :: (closed layout.lines ++
      (layout.blank ++ lineFeed :: layout.body)) := by
  simp [bytes, head, opening, closed]

theorem readHeaders_lines {layout : Layout} (wellFormed : layout.WellFormed) :
    readHeaders {} [] (closed layout.lines ++ (layout.blank ++ lineFeed :: layout.body)) =
      (layout.headers, layout.body) := by
  have unbroken : ∀ line ∈ layout.lines, lineFeed ∉ line := fun line member =>
    wellFormed.unbroken line (by simp [opening, member])
  rw [readHeaders_closed unbroken wellFormed.texts, readHeaders_line wellFormed.not_mem_blank,
    List.reverse_nil, List.nil_append, if_pos wellFormed.lineText_blank]
  rfl

/-- A request is read line by line as its layout says. -/
theorem parse_layout {layout : Layout} (wellFormed : layout.WellFormed) :
    parse layout.bytes = (parseLine (lineText layout.first)).map fun request =>
      { request with headers := layout.headers, body := dropLastIf lineFeed layout.body } := by
  have noFeed : lineFeed ∉ layout.first := wellFormed.unbroken _ (by simp [opening])
  rw [bytes_eq, parse_append noFeed, readHeaders_lines wellFormed]

theorem of_parse {layout : Layout} (wellFormed : layout.WellFormed) {request : Request}
    (accepted : parse layout.bytes = .ok request) :
    request.headers = layout.headers ∧ request.body = dropLastIf lineFeed layout.body := by
  rw [parse_layout wellFormed] at accepted
  cases line : parseLine (lineText layout.first) with
  | error fault =>
      rw [line] at accepted
      cases accepted
  | ok begun =>
      rw [line] at accepted
      cases accepted
      exact ⟨rfl, rfl⟩

end Layout

theorem parts_of_parse {input : Bytes} {request : Request}
    (accepted : parse input = .ok request) :
    let read := readHeaders {} [] ((input.dropWhile (· ≠ lineFeed)).drop 1)
    request.headers = read.1 ∧ request.body = dropLastIf lineFeed read.2 := by
  have something : input ≠ [] := by
    rintro rfl
    cases accepted
  rw [parse_eq something] at accepted
  cases line : parseLine (lineText (input.takeWhile (· ≠ lineFeed))) with
  | error fault =>
      rw [line] at accepted
      cases accepted
  | ok begun =>
      rw [line] at accepted
      cases accepted
      exact ⟨rfl, rfl⟩

theorem Endless.body_eq {input last : Bytes} {lines : List Bytes} {request : Request}
    (endless : Endless input lines last) (accepted : parse input = .ok request) :
    request.body = [] := by
  have unread : (readHeaders {} [] ((input.dropWhile (· ≠ lineFeed)).drop 1)).2 = [] := by
    cases lines with
    | nil =>
        have nothing : input.dropWhile (· ≠ lineFeed) = [] := by
          rw [endless.bytes]
          exact List.dropWhile_eq_nil_iff.mpr (ne_of_not_mem endless.unended)
        rw [nothing]
        rfl
    | cons first lines =>
        have unbroken : ∀ line ∈ lines, lineFeed ∉ line := fun line member =>
          endless.unbroken line (by simp [member])
        rw [endless.bytes, closed_cons, dropWhile_append_mark (endless.unbroken first (by simp)),
          List.drop_one, List.tail_cons, readHeaders_closed unbroken endless.texts]
        rw [readHeaders_unended endless.unended]
  rw [(parts_of_parse accepted).2, unread]
  rfl

end HttpServer.Request
