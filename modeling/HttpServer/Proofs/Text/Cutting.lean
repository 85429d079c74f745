import HttpServer.Text.Pieces
import Mathlib.Data.List.TakeDrop
import Mathlib.Data.List.TakeWhile

/-!
Cutting a sequence at a separator: what `cut`, `pieces` and `dropLastIf` give back, in terms of
where the separator stands.
-/

namespace HttpServer

variable {α : Type} [DecidableEq α] {mark : α}

/-! ### The first mark -/

theorem ne_of_not_mem {items : List α} (absent : mark ∉ items) :
    ∀ item ∈ items, decide (item ≠ mark) = true := by
  intro item member
  simp only [ne_eq, decide_not, Bool.not_eq_eq_eq_not, Bool.not_true, decide_eq_false_iff_not]
  rintro rfl
  exact absent member

theorem span_append {before : List α} (absent : mark ∉ before) (after : List α) :
    (before ++ mark :: after).span (· ≠ mark) = (before, mark :: after) := by
  rw [List.span_eq_takeWhile_dropWhile, List.takeWhile_append_of_pos (ne_of_not_mem absent),
    List.dropWhile_append_of_pos (ne_of_not_mem absent)]
  simp

theorem dropWhile_append_mark {before : List α} (absent : mark ∉ before) (after : List α) :
    (before ++ mark :: after).dropWhile (· ≠ mark) = mark :: after := by
  have cut := span_append absent after
  rw [List.span_eq_takeWhile_dropWhile, Prod.mk.injEq] at cut
  exact cut.2

theorem span_of_not_mem {items : List α} (absent : mark ∉ items) :
    items.span (· ≠ mark) = (items, []) := by
  rw [List.span_eq_takeWhile_dropWhile,
    List.takeWhile_eq_self_iff.mpr (ne_of_not_mem absent),
    List.dropWhile_eq_nil_iff.mpr (ne_of_not_mem absent)]

theorem cut_append {before : List α} (absent : mark ∉ before) (after : List α) :
    cut mark (before ++ mark :: after) = some (before, after) := by
  rw [cut, span_append absent]

theorem cut_of_not_mem {items : List α} (absent : mark ∉ items) : cut mark items = none := by
  rw [cut, span_of_not_mem absent]

theorem cut_eq_some_iff {items before after : List α} :
    cut mark items = some (before, after) ↔ items = before ++ mark :: after ∧ mark ∉ before := by
  constructor
  · intro found
    by_cases member : mark ∈ items
    · obtain ⟨front, rest, rfl, absent⟩ := List.eq_append_cons_of_mem member
      rw [cut_append absent] at found
      cases found
      exact ⟨rfl, absent⟩
    · rw [cut_of_not_mem member] at found
      cases found
  · rintro ⟨rfl, absent⟩
    exact cut_append absent after

theorem append_mark_inj {before other after rest : List α} (absent : mark ∉ before)
    (missing : mark ∉ other) :
    before ++ mark :: after = other ++ mark :: rest ↔ before = other ∧ after = rest := by
  constructor
  · intro same
    have cuts := congrArg (cut mark) same
    rw [cut_append absent, cut_append missing] at cuts
    simpa using cuts
  · rintro ⟨rfl, rfl⟩
    rfl

/-! ### All marks -/

theorem pieces_eq_splitOn (mark : α) (items : List α) : pieces mark items = items.splitOn mark := by
  induction items with
  | nil => rfl
  | cons item rest ih =>
      rw [List.splitOn_cons_eq_if_modifyHead, ← ih]
      change addToPieces mark item (pieces mark rest) = _
      cases found : pieces mark rest with
      | nil => exact absurd (ih.symm.trans found) (List.splitOn_ne_nil mark rest)
      | cons piece more => simp [addToPieces]

theorem pieces_of_not_mem {items : List α} (absent : mark ∉ items) :
    pieces mark items = [items] := by
  rw [pieces_eq_splitOn]
  exact List.splitOn_eq_singleton absent

theorem pieces_append (first rest : List α) :
    pieces mark (first ++ mark :: rest) = pieces mark first ++ pieces mark rest := by
  rw [pieces_eq_splitOn, pieces_eq_splitOn, pieces_eq_splitOn, List.splitOn_append_cons_self]

theorem pieces_ne_nil (mark : α) (items : List α) : pieces mark items ≠ [] := by
  rw [pieces_eq_splitOn]
  exact List.splitOn_ne_nil mark items

theorem pieces_cons {piece : List α} (absent : mark ∉ piece) (rest : List α) :
    pieces mark (piece ++ mark :: rest) = piece :: pieces mark rest := by
  rw [pieces_append, pieces_of_not_mem absent, List.singleton_append]

@[elab_as_elim]
theorem pieces_induction (mark : α) {motive : List α → Prop}
    (single : ∀ piece, mark ∉ piece → motive piece)
    (onward : ∀ piece rest, mark ∉ piece → motive rest → motive (piece ++ mark :: rest))
    (items : List α) : motive items := by
  by_cases member : mark ∈ items
  · obtain ⟨piece, rest, rfl, absent⟩ := List.eq_append_cons_of_mem member
    exact onward piece rest absent (pieces_induction mark single onward rest)
  · exact single items member
termination_by items.length

theorem not_mem_of_mem_pieces {items piece : List α} (member : piece ∈ pieces mark items) :
    mark ∉ piece := by
  induction items using pieces_induction mark with
  | single whole absent =>
      rw [pieces_of_not_mem absent, List.mem_singleton] at member
      rwa [member]
  | onward first rest absent ih =>
      rw [pieces_cons absent, List.mem_cons] at member
      rcases member with rfl | later
      · exact absent
      · exact ih later

/-! ### A last mark -/

theorem dropLastIf_append (items : List α) : dropLastIf mark (items ++ [mark]) = items := by
  simp [dropLastIf]

theorem dropLastIf_of_ne {items : List α} (other : items.getLast? ≠ some mark) :
    dropLastIf mark items = items := by
  simp [dropLastIf, other]

theorem dropLastIf_append_of_ne {item : α} (other : item ≠ mark) (items : List α) :
    dropLastIf mark (items ++ [item]) = items ++ [item] :=
  dropLastIf_of_ne (by simpa using other)

theorem dropLastIf_append_cons {item : α} (other : item ≠ mark) (front rest : List α) :
    dropLastIf mark (front ++ item :: rest) = front ++ item :: dropLastIf mark rest := by
  rcases List.eq_nil_or_concat rest with rfl | ⟨middle, last, rfl⟩
  · exact dropLastIf_append_of_ne other front
  · rw [List.concat_eq_append, show front ++ item :: (middle ++ [last]) =
      (front ++ item :: middle) ++ [last] by simp]
    by_cases same : last = mark
    · subst last
      rw [dropLastIf_append, dropLastIf_append]
    · rw [dropLastIf_append_of_ne same, dropLastIf_append_of_ne same]
      simp

theorem mem_of_mem_dropLastIf {items : List α} {item : α} (member : item ∈ dropLastIf mark items) :
    item ∈ items := by
  unfold dropLastIf at member
  split at member
  · exact List.dropLast_subset items member
  · exact member

theorem dropLastIf_cases (mark : α) (items : List α) :
    dropLastIf mark items = items ∨ items = dropLastIf mark items ++ [mark] := by
  by_cases last : items.getLast? = some mark
  · right
    obtain ⟨front, rfl⟩ := List.getLast?_eq_some_iff.mp last
    rw [dropLastIf_append]
  · exact Or.inl (dropLastIf_of_ne last)

theorem length_dropLastIf_le (mark : α) (items : List α) :
    (dropLastIf mark items).length ≤ items.length := by
  rcases dropLastIf_cases mark items with same | ended
  · rw [same]
  · have whole := congrArg List.length ended
    rw [List.length_append, List.length_singleton] at whole
    omega

/-! ### Lines -/

theorem linesOf_cons {line : List Char} (absent : '\n' ∉ line) (rest : List Char) :
    linesOf (line ++ '\n' :: rest) = dropLastIf '\r' line :: linesOf rest := by
  rw [linesOf, pieces_cons absent, linesOfPieces.eq_3 _ _ (pieces_ne_nil '\n' rest)]
  rfl

end HttpServer
