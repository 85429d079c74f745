import HttpServer.Framing
import HttpServer.Proofs.Request.Layout
import Mathlib.Order.Bounds.Basic

/-!
Where the head of a request ends. `headEnd?` finds the first offset behind two line ends of one
kind, so what arrives later never moves it. The reader of requests ends the headers at the first
empty line; the two agree unless that line ends in CRLF and the line in front of it in LF alone.
-/

namespace HttpServer.Framing

open Request (carriageReturn lineFeed)

/-! ### The first end -/

/-- The bytes end in two line ends of one kind. -/
def EndsHead (head : Bytes) : Prop :=
  [carriageReturn, lineFeed, carriageReturn, lineFeed] <:+ head ∨ [lineFeed, lineFeed] <:+ head

instance : DecidablePred EndsHead := fun head =>
  inferInstanceAs (Decidable (_ <:+ head ∨ _ <:+ head))

def headEnds (input : Bytes) : Set Nat :=
  {offset | offset ≤ input.length ∧ EndsHead (input.take offset)}

theorem zero_notMem_headEnds (input : Bytes) : 0 ∉ headEnds input := by
  rintro ⟨-, ends⟩
  rw [List.take_zero] at ends
  exact absurd ends (by decide)

theorem succ_mem_headEnds {byte : UInt8} {rest : Bytes}
    (crlf : ¬[carriageReturn, lineFeed, carriageReturn, lineFeed] <+: byte :: rest)
    (lf : ¬[lineFeed, lineFeed] <+: byte :: rest) (offset : Nat) :
    offset + 1 ∈ headEnds (byte :: rest) ↔ offset ∈ headEnds rest := by
  have begins := List.take_prefix (offset + 1) (byte :: rest)
  have bound : offset + 1 ≤ (byte :: rest).length ↔ offset ≤ rest.length := by simp
  rw [List.take_succ_cons] at begins
  refine and_congr bound ?_
  rw [List.take_succ_cons, EndsHead, EndsHead, List.suffix_cons_iff, List.suffix_cons_iff]
  constructor
  · rintro ((whole | inside) | (whole | inside))
    · exact absurd (whole ▸ begins) crlf
    · exact .inl inside
    · exact absurd (whole ▸ begins) lf
    · exact .inr inside
  · exact Or.imp .inr .inr

theorem headEndFrom_spec (offset : Nat) (input : Bytes) :
    (∀ found, headEndFrom offset input = some found →
      ∃ length, found = offset + length ∧ IsLeast (headEnds input) length) ∧
    (headEndFrom offset input = none → headEnds input = ∅) := by
  fun_induction headEndFrom offset input with
  | case1 offset =>
      refine ⟨by simp, fun _ => Set.eq_empty_of_forall_notMem ?_⟩
      rintro length ⟨bound, ends⟩
      have nothing : length = 0 := by simpa using bound
      subst length
      exact absurd ends (by decide)
  | case2 offset rest =>
      refine ⟨?_, by simp⟩
      rintro found ⟨⟩
      refine ⟨4, rfl, ⟨by simp, .inl (List.suffix_refl _)⟩, ?_⟩
      rintro length ⟨-, ends⟩
      by_contra short
      have few : length = 0 ∨ length = 1 ∨ length = 2 ∨ length = 3 := by omega
      rcases few with rfl | rfl | rfl | rfl <;>
        simp only [List.take_succ_cons, List.take_zero] at ends <;>
        exact absurd ends (by decide)
  | case3 offset rest =>
      refine ⟨?_, by simp⟩
      rintro found ⟨⟩
      refine ⟨2, rfl, ⟨by simp, .inr (List.suffix_refl _)⟩, ?_⟩
      rintro length ⟨-, ends⟩
      by_contra short
      have few : length = 0 ∨ length = 1 := by omega
      rcases few with rfl | rfl <;>
        simp only [List.take_succ_cons, List.take_zero] at ends <;>
        exact absurd ends (by decide)
  | case4 offset byte rest notCrlf notLf ih =>
      have crlf : ¬[carriageReturn, lineFeed, carriageReturn, lineFeed] <+: byte :: rest := by
        rintro ⟨more, whole⟩
        cases whole
        exact notCrlf more rfl rfl
      have lf : ¬[lineFeed, lineFeed] <+: byte :: rest := by
        rintro ⟨more, whole⟩
        cases whole
        exact notLf more rfl rfl
      have later := succ_mem_headEnds crlf lf
      constructor
      · intro found reached
        obtain ⟨length, rfl, least⟩ := ih.1 found reached
        refine ⟨length + 1, by omega, (later length).mpr least.1, ?_⟩
        intro other member
        cases other with
        | zero => exact absurd member (zero_notMem_headEnds _)
        | succ other =>
            have bound := least.2 ((later other).mp member)
            omega
      · intro nothing
        have none := ih.2 nothing
        refine Set.eq_empty_of_forall_notMem ?_
        intro other member
        cases other with
        | zero => exact zero_notMem_headEnds _ member
        | succ other =>
            have inside := (later other).mp member
            rw [none] at inside
            exact inside

theorem headEnd?_eq_some_iff {input : Bytes} {offset : Nat} :
    headEnd? input = some offset ↔ IsLeast (headEnds input) offset := by
  have spec := headEndFrom_spec 0 input
  constructor
  · intro found
    obtain ⟨length, same, least⟩ := spec.1 offset found
    rw [Nat.zero_add] at same
    exact same ▸ least
  · intro least
    cases found : headEnd? input with
    | none =>
        have member := least.1
        rw [spec.2 found] at member
        exact absurd member (Set.notMem_empty offset)
    | some other =>
        obtain ⟨length, same, first⟩ := spec.1 other found
        rw [Nat.zero_add] at same
        rw [same, first.unique least]

theorem headEnd?_eq_none_iff {input : Bytes} :
    headEnd? input = none ↔ headEnds input = ∅ := by
  constructor
  · exact (headEndFrom_spec 0 input).2
  · intro nothing
    cases found : headEnd? input with
    | none => rfl
    | some offset =>
        have member := (headEnd?_eq_some_iff.mp found).1
        rw [nothing] at member
        exact absurd member (Set.notMem_empty offset)

/-! ### Bytes that arrive later -/

theorem mem_headEnds_append {input : Bytes} {offset : Nat} (within : offset ≤ input.length)
    (rest : Bytes) : offset ∈ headEnds (input ++ rest) ↔ offset ∈ headEnds input := by
  have inside : offset ≤ (input ++ rest).length := by simp; omega
  simp [headEnds, List.take_append_of_le_length within, within]
  omega

theorem headEnd?_append {input : Bytes} {offset : Nat} (found : headEnd? input = some offset)
    (rest : Bytes) : headEnd? (input ++ rest) = some offset := by
  have least := headEnd?_eq_some_iff.mp found
  refine headEnd?_eq_some_iff.mpr ⟨(mem_headEnds_append least.1.1 rest).mpr least.1, ?_⟩
  intro other member
  by_cases within : other ≤ input.length
  · exact least.2 ((mem_headEnds_append within rest).mp member)
  · have bound := least.1.1
    omega

theorem length_lt_of_headEnd? {input rest : Bytes} {offset : Nat} (unknown : headEnd? input = none)
    (found : headEnd? (input ++ rest) = some offset) : input.length < offset := by
  have least := headEnd?_eq_some_iff.mp found
  by_contra within
  have member := (mem_headEnds_append (Nat.le_of_not_lt within) rest).mp least.1
  rw [headEnd?_eq_none_iff.mp unknown] at member
  exact member

theorem headEnd?_eq_some_iff_append (input rest : Bytes) (offset : Nat) :
    headEnd? input = some offset ↔
      IsLeast (headEnds (input ++ rest)) offset ∧ offset ≤ input.length := by
  constructor
  · intro found
    exact ⟨headEnd?_eq_some_iff.mp (headEnd?_append found rest),
      (headEnd?_eq_some_iff.mp found).1.1⟩
  · rintro ⟨least, within⟩
    have later := headEnd?_eq_some_iff.mpr least
    cases found : headEnd? input with
    | none => exact absurd (length_lt_of_headEnd? found later) (Nat.not_lt.mpr within)
    | some other => exact (headEnd?_append found rest).symm.trans later

/-! ### The empty line of a layout -/

theorem EndsHead.blank {head : Bytes} (ends : EndsHead head) :
    ∃ before blank, head = before ++ lineFeed :: (blank ++ [lineFeed]) ∧
      (blank = [] ∨ blank = [carriageReturn]) := by
  rcases ends with ⟨before, rfl⟩ | ⟨before, rfl⟩
  · exact ⟨before ++ [carriageReturn], [carriageReturn], by simp, .inr rfl⟩
  · exact ⟨before, [], rfl, .inl rfl⟩

theorem not_endsHead {lines : List Bytes} {last front : Bytes}
    (unbroken : ∀ line ∈ lines, lineFeed ∉ line) (unended : lineFeed ∉ last)
    (texts : ∀ line ∈ lines.tail, Request.lineText line ≠ [])
    (begins : front <+: Request.closed lines ++ last) : ¬EndsHead front := by
  intro ends
  obtain ⟨before, blank, rfl, empty⟩ := ends.blank
  obtain ⟨rest, whole⟩ := begins
  have noFeed : lineFeed ∉ blank := by
    rcases empty with rfl | rfl <;> decide
  -- The empty line is one of the pieces between line feeds, neither the first nor the last.
  have cut := congrArg (pieces lineFeed) whole
  rw [show (before ++ lineFeed :: (blank ++ [lineFeed])) ++ rest =
      before ++ lineFeed :: (blank ++ lineFeed :: rest) by simp,
    pieces_append, pieces_append, pieces_of_not_mem noFeed, Request.pieces_closed unbroken,
    pieces_of_not_mem unended] at cut
  obtain ⟨first, more, opening⟩ : ∃ first more, pieces lineFeed before = first :: more := by
    rw [pieces_eq_splitOn]
    exact List.exists_cons_of_ne_nil (List.splitOn_ne_nil lineFeed before)
  rcases List.eq_nil_or_concat (pieces lineFeed rest) with none | ⟨inner, final, closing⟩
  · rw [pieces_eq_splitOn] at none
    exact List.splitOn_ne_nil lineFeed rest none
  · have joined : lines ++ [last] = (first :: (more ++ blank :: inner)) ++ [final] := by
      rw [← cut, opening, closing]
      simp
    have member : blank ∈ lines.tail := by simp [(List.append_inj' joined rfl).1]
    exact texts blank member ((Request.lineText_eq_nil_iff blank).mpr empty)

theorem head_length_le {layout : Request.Layout} (wellFormed : layout.WellFormed) {offset : Nat}
    (member : offset ∈ headEnds layout.bytes) : layout.head.length ≤ offset := by
  by_contra short
  have within : offset ≤ (Request.closed layout.opening ++ layout.blank).length := by
    simp only [Request.Layout.head, List.length_append, List.length_singleton] at short ⊢
    omega
  have begins : layout.bytes.take offset <+: Request.closed layout.opening ++ layout.blank := by
    rw [show layout.bytes = (Request.closed layout.opening ++ layout.blank) ++
        lineFeed :: layout.body by simp [Request.Layout.bytes, Request.Layout.head],
      List.take_append_of_le_length within]
    exact List.take_prefix _ _
  exact not_endsHead wellFormed.unbroken wellFormed.not_mem_blank wellFormed.texts begins member.2

theorem getLast?_closed_append (lines : List Bytes) (line : Bytes) :
    (Request.closed lines ++ line).getLast? = some carriageReturn ↔
      line.getLast? = some carriageReturn := by
  rcases List.eq_nil_or_concat line with rfl | ⟨front, last, rfl⟩
  · rcases List.eq_nil_or_concat lines with rfl | ⟨others, final, rfl⟩
    · rfl
    · rw [List.concat_eq_append, Request.closed_concat, ← List.append_assoc]
      simp [lineFeed, carriageReturn]
  · simp [List.concat_eq_append, ← List.append_assoc]

theorem endsHead_crlf_iff (front : Bytes) :
    EndsHead (front ++ [lineFeed, carriageReturn, lineFeed]) ↔
      front.getLast? = some carriageReturn := by
  constructor
  · rintro (⟨before, same⟩ | ⟨before, same⟩)
    · have joined : (before ++ [carriageReturn]) ++ [lineFeed, carriageReturn, lineFeed] =
          front ++ [lineFeed, carriageReturn, lineFeed] := by simpa using same
      rw [← List.append_cancel_right joined]
      simp
    · have joined : (before ++ [lineFeed]) ++ [lineFeed] =
          ((front ++ [lineFeed]) ++ [carriageReturn]) ++ [lineFeed] := by simpa using same
      have ends := congrArg List.getLast? (List.append_cancel_right joined)
      simp [lineFeed, carriageReturn] at ends
  · intro ends
    obtain ⟨before, rfl⟩ := List.getLast?_eq_some_iff.mp ends
    exact .inl ⟨before, by simp⟩

theorem endsHead_head_iff {layout : Request.Layout} (wellFormed : layout.WellFormed) :
    EndsHead layout.head ↔ ¬layout.Torn := by
  have nonempty : layout.opening ≠ [] := by simp [Request.Layout.opening]
  have whole : Request.closed layout.opening =
      Request.closed layout.opening.dropLast ++ (layout.previous ++ [lineFeed]) := by
    rw [← Request.closed_concat, Request.Layout.previous, List.dropLast_concat_getLast nonempty]
  have last := getLast?_closed_append layout.opening.dropLast layout.previous
  have head : layout.head = (Request.closed layout.opening.dropLast ++ layout.previous) ++
      lineFeed :: (layout.blank ++ [lineFeed]) := by
    simp [Request.Layout.head, whole]
  rw [head, Request.Layout.Torn]
  rcases wellFormed.blank with empty | empty
  · rw [empty]
    refine iff_of_true (.inr ⟨_, rfl⟩) ?_
    rintro ⟨torn, -⟩
    cases torn
  · rw [empty, List.singleton_append, endsHead_crlf_iff, last]
    simp

theorem headEnd?_layout_iff {layout : Request.Layout} (wellFormed : layout.WellFormed) :
    headEnd? layout.bytes = some layout.head.length ↔ ¬layout.Torn := by
  have member : layout.head.length ∈ headEnds layout.bytes ↔ EndsHead layout.head := by
    simp [headEnds, Request.Layout.bytes]
  rw [headEnd?_eq_some_iff, ← endsHead_head_iff wellFormed, ← member]
  exact ⟨fun least => least.1, fun inside => ⟨inside, fun other => head_length_le wellFormed⟩⟩

theorem headEnd?_of_endless {input last : Bytes} {lines : List Bytes}
    (endless : Request.Endless input lines last) : headEnd? input = none := by
  rw [headEnd?_eq_none_iff]
  refine Set.eq_empty_of_forall_notMem ?_
  rintro offset ⟨-, ends⟩
  have begins : input.take offset <+: Request.closed lines ++ last := by
    rw [← endless.bytes]
    exact List.take_prefix _ _
  exact not_endsHead endless.unbroken endless.unended endless.texts begins ends

/-! ### Agreement with the reader of requests -/

/-- The head of a request ends where the reader starts its body, whatever ends are mixed, unless
the empty line is torn from the line in front of it: then the head is taken to be longer, or to
have no end. Without an empty line there is neither an end nor a body. -/
theorem head_agrees {input : Bytes} {request : Request}
    (accepted : Request.parse input = .ok request) :
    (∀ layout : Request.Layout, layout.WellFormed → layout.bytes = input →
      request.body = dropLastIf lineFeed (input.drop layout.head.length) ∧
      (headEnd? input = some layout.head.length ↔ ¬layout.Torn) ∧
      ∀ offset, headEnd? input = some offset → layout.head.length ≤ offset) ∧
    ((∀ layout : Request.Layout, layout.WellFormed → layout.bytes ≠ input) →
      headEnd? input = none ∧ request.body = []) := by
  constructor
  · rintro layout wellFormed rfl
    refine ⟨?_, headEnd?_layout_iff wellFormed, ?_⟩
    · rw [(layout.of_parse wellFormed accepted).2, Request.Layout.bytes, List.drop_left]
    · intro offset found
      exact head_length_le wellFormed (headEnd?_eq_some_iff.mp found).1
  · intro none
    rcases Request.exists_layout_or_endless input with ⟨layout, wellFormed, same⟩ | endless
    · exact absurd same (none layout wellFormed)
    · obtain ⟨lines, last, endless⟩ := endless
      exact ⟨headEnd?_of_endless endless, endless.body_eq accepted⟩

def mixedLayout : Request.Layout where
  first := Utf8.bytes "POST / HTTP/1.1"
  lines := [Utf8.bytes "A: 1\r"]
  blank := [carriageReturn]
  body := Utf8.bytes "\n\nrest\n"

theorem head_agrees_mixed : ∃ request, Request.parse mixedLayout.bytes = .ok request ∧
    request.body = Utf8.bytes "\n\nrest" ∧ headEnd? mixedLayout.bytes = some 24 := by
  obtain ⟨request, accepted⟩ : ∃ request, Request.parse mixedLayout.bytes = .ok request :=
    ⟨_, rfl⟩
  have wellFormed : mixedLayout.WellFormed := ⟨by decide, by decide, by decide⟩
  have whole : ¬mixedLayout.Torn := fun torn => absurd torn.2 (by decide)
  obtain ⟨body, found, -⟩ := (head_agrees accepted).1 mixedLayout wellFormed rfl
  exact ⟨request, accepted, body, found.mpr whole⟩

def tornLayout : Request.Layout where
  first := Utf8.bytes "GET / HTTP/1.1"
  lines := []
  blank := [carriageReturn]
  body := Utf8.bytes "body"

theorem head_missed :
    (∃ request, Request.parse tornLayout.bytes = .ok request ∧
      request.body = Utf8.bytes "body") ∧
    tornLayout.WellFormed ∧ headEnd? tornLayout.bytes = none :=
  ⟨⟨_, rfl, rfl⟩, ⟨by decide, by decide, by decide⟩, by decide⟩

end HttpServer.Framing
