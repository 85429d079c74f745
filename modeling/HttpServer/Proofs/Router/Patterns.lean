import HttpServer.RoutePattern
import HttpServer.Proofs.Glob
import HttpServer.Proofs.Text.Cutting

/-!
What route patterns mean. Replacing each star of a pattern by a run of characters can make the
path: a run without slashes, unless the star is the whole last segment. Comparing segment by
segment comes to the same.
-/

namespace HttpServer

namespace RoutePattern

def EndsOpen (pattern : List Char) : Prop :=
  (pattern.splitOn '/').getLast? = some ['*']

instance (pattern : List Char) : Decidable (EndsOpen pattern) :=
  inferInstanceAs (Decidable (_ = _))

/-- Replacing each star of the pattern can make the path. No slash stands for a star, but for the
last one of a pattern with an open end. -/
def Makes (pattern path : List Char) : Prop :=
  ∃ covers : List (List Char), covers.length = pattern.count '*' ∧
    Glob.fill '*' pattern covers = path ∧
    ∀ cover ∈ if EndsOpen pattern then covers.dropLast else covers, '/' ∉ cover

/-! ### Open ends -/

theorem endsOpen_of_not_mem {pattern : List Char} (single : '/' ∉ pattern) :
    EndsOpen pattern ↔ pattern = ['*'] := by
  simp [EndsOpen, List.splitOn_eq_singleton single]

theorem endsOpen_append (piece rest : List Char) :
    EndsOpen (piece ++ '/' :: rest) ↔ EndsOpen rest := by
  obtain ⟨first, more, opened⟩ := List.exists_cons_of_ne_nil (List.splitOn_ne_nil '/' rest)
  rw [EndsOpen, EndsOpen, List.splitOn_append_cons_self, List.getLast?_append, opened]
  simp [List.getLast?_cons]

theorem EndsOpen.exists_front {pattern : List Char} (ends : EndsOpen pattern) :
    ∃ front, pattern = front ++ ['*'] := by
  induction pattern using pieces_induction '/' with
  | single piece single => exact ⟨[], (endsOpen_of_not_mem single).mp ends⟩
  | onward piece rest _ ih =>
      obtain ⟨front, rfl⟩ := ih ((endsOpen_append piece rest).mp ends)
      exact ⟨piece ++ '/' :: front, by simp⟩

theorem makes_of_not_endsOpen {pattern path : List Char} (closed : ¬EndsOpen pattern) :
    Makes pattern path ↔ Glob.Fills '*' ('/' ∉ ·) pattern path := by
  simp only [Makes, Glob.Fills, closed, if_false]
  exact exists_congr fun covers => and_congr_right fun _ => and_comm

theorem makes_of_endsOpen {front path : List Char} (ends : EndsOpen (front ++ ['*'])) :
    Makes (front ++ ['*']) path ↔
      ∃ before cover, path = before ++ cover ∧ Glob.Fills '*' ('/' ∉ ·) front before := by
  simp only [Makes, ends, if_true, List.count_append, List.count_singleton_self]
  constructor
  · rintro ⟨covers, length, rfl, unbroken⟩
    rcases List.eq_nil_or_concat covers with rfl | ⟨covers, cover, rfl⟩
    · cases length
    · rw [List.concat_eq_append] at length unbroken ⊢
      rw [List.length_append, List.length_singleton] at length
      rw [List.dropLast_concat] at unbroken
      have filled := Nat.add_right_cancel length
      exact ⟨Glob.fill '*' front covers, cover, by simp [Glob.fill_append filled, Glob.fill],
        covers, filled, unbroken, rfl⟩
  · rintro ⟨_, cover, rfl, covers, length, unbroken, rfl⟩
    refine ⟨covers ++ [cover], by simp [length], ?_, by simpa using unbroken⟩
    simp [Glob.fill_append length, Glob.fill]

/-! ### Segment by segment -/

theorem fills_unbroken_append {piece rest text : List Char} (single : '/' ∉ piece) :
    Glob.Fills '*' ('/' ∉ ·) (piece ++ '/' :: rest) text ↔
      ∃ part later, text = part ++ '/' :: later ∧ '/' ∉ part ∧
        Glob.Fills '*' Glob.Anything piece part ∧ Glob.Fills '*' ('/' ∉ ·) rest later := by
  rw [Glob.fills_append]
  simp only [Glob.fills_avoiding single, Glob.fills_cons_of_ne (show '/' ≠ '*' by decide)]
  constructor
  · rintro ⟨part, _, rfl, ⟨absent, first⟩, later, rfl, filled⟩
    exact ⟨part, later, rfl, absent, first, filled⟩
  · rintro ⟨part, later, rfl, absent, first, filled⟩
    exact ⟨part, _, rfl, ⟨absent, first⟩, later, rfl, filled⟩

theorem makes_append {piece rest path : List Char} (single : '/' ∉ piece) :
    Makes (piece ++ '/' :: rest) path ↔
      ∃ part later, path = part ++ '/' :: later ∧ '/' ∉ part ∧
        Glob.Fills '*' Glob.Anything piece part ∧ Makes rest later := by
  by_cases ends : EndsOpen rest
  · obtain ⟨front, rfl⟩ := ends.exists_front
    have whole := (endsOpen_append piece _).mpr ends
    rw [← List.cons_append, ← List.append_assoc] at whole ⊢
    simp only [makes_of_endsOpen whole, makes_of_endsOpen ends, fills_unbroken_append single]
    constructor
    · rintro ⟨_, cover, rfl, part, later, rfl, absent, first, filled⟩
      exact ⟨part, later ++ cover, by simp, absent, first, later, cover, rfl, filled⟩
    · rintro ⟨part, _, rfl, absent, first, later, cover, rfl, filled⟩
      exact ⟨part ++ '/' :: later, cover, by simp, part, later, rfl, absent, first, filled⟩
  · have whole : ¬EndsOpen (piece ++ '/' :: rest) := ends ∘ (endsOpen_append piece rest).mp
    simp only [makes_of_not_endsOpen whole, makes_of_not_endsOpen ends]
    exact fills_unbroken_append single

theorem covers_ofText (text part : List Char) :
    (Segment.ofText text).covers part = true ↔ Glob.Fills '*' Glob.Anything text part := by
  unfold Segment.ofText
  split
  · rename_i star
    rw [star, Glob.fills_star]
    exact iff_of_true rfl ⟨part, [], by simp, trivial, Glob.fills_nil.mpr rfl⟩
  · split
    · exact Glob.isMatch_iff_fills '*' text part
    · rename_i plain
      rw [Glob.fills_of_not_mem (by simpa using plain)]
      simp [Segment.covers, eq_comm]

theorem ofText_eq_any_iff (text : List Char) : Segment.ofText text = .any ↔ text = ['*'] := by
  unfold Segment.ofText
  split
  · simp_all
  · split <;> simp_all

theorem coverAll_open (part : List Char) (parts : List (List Char)) :
    coverAll [.any] (part :: parts) = true := by
  simp [coverAll]

theorem coverAll_cons {segment : Segment} {segments : List Segment}
    (other : segment ≠ .any ∨ segments ≠ []) (part : List Char) (parts : List (List Char)) :
    coverAll (segment :: segments) (part :: parts) =
      (segment.covers part && coverAll segments parts) := by
  rcases segments with _ | ⟨next, segments⟩
  · cases segment with
    | any => simp at other
    | literal text => rfl
    | glob text => rfl
  · cases segment <;> rfl

theorem coverAll_nil (segment : Segment) (segments : List Segment) :
    coverAll (segment :: segments) [] = false := by
  cases segment <;> cases segments <;> rfl

theorem coverAll_single_iff {piece : List Char} (other : piece ≠ ['*']) (path : List Char) :
    coverAll [Segment.ofText piece] (pieces '/' path) = true ↔
      '/' ∉ path ∧ Glob.Fills '*' Glob.Anything piece path := by
  have closed : Segment.ofText piece ≠ .any := other ∘ (ofText_eq_any_iff piece).mp
  induction path using pieces_induction '/' with
  | single part absent =>
      rw [pieces_of_not_mem absent, coverAll_cons (.inl closed)]
      simp [coverAll, covers_ofText, absent]
  | onward part later absent _ =>
      obtain ⟨next, more, opened⟩ := List.exists_cons_of_ne_nil (pieces_ne_nil '/' later)
      rw [pieces_cons absent, coverAll_cons (.inl closed), opened]
      simp [coverAll]

theorem coverAll_onward_iff {segments : List Segment} (other : segments ≠ [])
    (piece path : List Char) :
    coverAll (Segment.ofText piece :: segments) (pieces '/' path) = true ↔
      ∃ part later, path = part ++ '/' :: later ∧ '/' ∉ part ∧
        Glob.Fills '*' Glob.Anything piece part ∧ coverAll segments (pieces '/' later) = true := by
  induction path using pieces_induction '/' with
  | single part absent =>
      obtain ⟨next, more, opened⟩ := List.exists_cons_of_ne_nil other
      rw [pieces_of_not_mem absent, coverAll_cons (.inr other), opened, coverAll_nil,
        Bool.and_false]
      refine iff_of_false Bool.false_ne_true ?_
      rintro ⟨front, behind, rfl, -⟩
      simp at absent
  | onward part later absent _ =>
      rw [pieces_cons absent, coverAll_cons (.inr other), Bool.and_eq_true, covers_ofText]
      constructor
      · rintro ⟨first, covered⟩
        exact ⟨part, later, rfl, absent, first, covered⟩
      · rintro ⟨front, behind, same, missing, first, covered⟩
        obtain ⟨rfl, rfl⟩ := (append_mark_inj absent missing).mp same
        exact ⟨first, covered⟩

theorem coverAll_iff_makes (pattern path : List Char) :
    coverAll ((pieces '/' pattern).map Segment.ofText) (pieces '/' path) = true ↔
      Makes pattern path := by
  -- Both sides take the pattern apart at its first slash; the path then has to have one too.
  induction pattern using pieces_induction '/' generalizing path with
  | single piece single =>
      rw [pieces_of_not_mem single, List.map_singleton]
      by_cases star : piece = ['*']
      · subst star
        have ends : EndsOpen ([] ++ ['*']) := (endsOpen_of_not_mem single).mpr rfl
        obtain ⟨part, parts, opened⟩ := List.exists_cons_of_ne_nil (pieces_ne_nil '/' path)
        rw [opened]
        exact iff_of_true (coverAll_open part parts)
          ((makes_of_endsOpen ends).mpr ⟨[], path, rfl, Glob.fills_nil.mpr rfl⟩)
      · have closed : ¬EndsOpen piece := star ∘ (endsOpen_of_not_mem single).mp
        rw [makes_of_not_endsOpen closed, Glob.fills_avoiding single, coverAll_single_iff star]
  | onward piece rest single ih =>
      have other : (pieces '/' rest).map Segment.ofText ≠ [] := by
        simpa using pieces_ne_nil '/' rest
      rw [pieces_cons single, List.map_cons, makes_append single, coverAll_onward_iff other]
      simp only [ih]

/-! ### How many segments a path has -/

theorem length_of_coverAll {texts parts : List (List Char)}
    (covered : coverAll (texts.map Segment.ofText) parts = true) :
    texts.length ≤ parts.length ∧
      (texts.getLast? ≠ some ['*'] → parts.length = texts.length) := by
  induction texts generalizing parts with
  | nil => cases parts <;> simp [coverAll] at covered ⊢
  | cons text texts ih =>
      cases parts with
      | nil => simp [coverAll_nil] at covered
      | cons part parts =>
          by_cases other : Segment.ofText text ≠ .any ∨ texts.map Segment.ofText ≠ []
          · rw [List.map_cons, coverAll_cons other, Bool.and_eq_true] at covered
            obtain ⟨enough, same⟩ := ih covered.2
            refine ⟨Nat.succ_le_succ enough, fun closed => congrArg Nat.succ (same ?_)⟩
            intro last
            rw [List.getLast?_cons, last] at closed
            exact closed rfl
          · rw [not_or, not_not, not_not, ofText_eq_any_iff, List.map_eq_nil_iff] at other
            obtain ⟨rfl, rfl⟩ := other
            simp

/-- A star within a pattern takes any text in the place of the one that it covers. -/
theorem coverAll_set {texts parts : List (List Char)} {index : Nat}
    (covered : coverAll (texts.map Segment.ofText) parts = true)
    (star : texts[index]? = some ['*']) (within : index + 1 < texts.length) (other : List Char) :
    coverAll (texts.map Segment.ofText) (parts.set index other) = true := by
  induction texts generalizing parts index with
  | nil => cases within
  | cons text texts ih =>
      have more : texts.map Segment.ofText ≠ [] := by
        rintro nothing
        rw [List.map_eq_nil_iff] at nothing
        simp [nothing] at within
      cases parts with
      | nil => simp [coverAll_nil] at covered
      | cons part parts =>
          rw [List.map_cons, coverAll_cons (.inr more), Bool.and_eq_true] at covered
          cases index with
          | zero =>
              obtain rfl : text = ['*'] := by simpa using star
              rw [List.map_cons, List.set_cons_zero, coverAll_cons (.inr more), covered.2]
              rfl
          | succ index =>
              rw [List.map_cons, List.set_cons_succ, coverAll_cons (.inr more), covered.1]
              exact ih covered.2 (by simpa using star) (Nat.lt_of_succ_lt_succ within)

theorem coverAll_self (texts : List (List Char)) :
    coverAll (texts.map Segment.ofText) texts = true := by
  induction texts with
  | nil => rfl
  | cons text texts ih =>
      by_cases other : Segment.ofText text ≠ .any ∨ texts.map Segment.ofText ≠ []
      · rw [List.map_cons, coverAll_cons other, ih, Bool.and_true, covers_ofText]
        exact Glob.fills_self text
      · rw [not_or, not_not, not_not, List.map_eq_nil_iff] at other
        rw [List.map_cons, other.1, other.2]
        exact coverAll_open text []

theorem fits_iff_coverAll {pattern : RoutePattern} (wildcard : '*' ∈ pattern.text.toList)
    (path : String) :
    pattern.fits path = true ↔
      coverAll ((split pattern.text.toList).map Segment.ofText) (split path.toList) = true := by
  have stars : pattern.isWildcard = true := List.contains_iff_mem.mpr wildcard
  simp only [fits, segments, stars, Bool.true_and, Bool.or_eq_true, decide_eq_true_eq]
  refine or_iff_right_of_imp ?_
  rintro rfl
  exact coverAll_self _

theorem split_intercalate {parts : List (List Char)} (whole : ∀ part ∈ parts, '/' ∉ part)
    (some : parts ≠ []) : split ('/' :: ['/'].intercalate parts) = parts := by
  rw [split, dropSlash, pieces_eq_splitOn]
  exact List.splitOn_intercalate '/' whole some

/-- When a path fits a pattern. It is the text of the pattern, or the pattern has stars, and
replacing them makes the path, a slash before each not counted. So such a path has as many
segments as the pattern, or more if the pattern has an open end, and a star that is a segment
before the last stands for one segment, whichever that is. Segments are compared as well by their
bytes. -/
theorem fits_exactly (pattern : RoutePattern) :
    (∀ path, pattern.fits path = true ↔
      path = pattern.text ∨ '*' ∈ pattern.text.toList ∧
        Makes (dropSlash pattern.text.toList) (dropSlash path.toList)) ∧
    (∀ path, '*' ∈ pattern.text.toList → pattern.fits path = true →
      let segments := (dropSlash pattern.text.toList).splitOn '/'
      let parts := (dropSlash path.toList).splitOn '/'
      (segments.getLast? = some ['*'] → segments.length ≤ parts.length) ∧
      (segments.getLast? ≠ some ['*'] → parts.length = segments.length) ∧
      ∀ index, segments[index]? = some ['*'] → index + 1 < segments.length →
        index < parts.length ∧ ∀ other : List Char, '/' ∉ other →
          pattern.fits (String.ofList ('/' :: ['/'].intercalate (parts.set index other))) =
            true) ∧
    ∀ segment part : List Char,
      Glob.isMatch 0x2A (Utf8.encode segment) (Utf8.encode part) =
        Glob.isMatch '*' segment part := by
  refine ⟨?_, ?_, Glob.isMatch_encode⟩
  · intro path
    simp only [fits, Bool.or_eq_true, decide_eq_true_eq, Bool.and_eq_true, isWildcard,
      List.contains_iff_mem, eq_comm (a := pattern.text)]
    rw [segments, split, split, coverAll_iff_makes]
  · intro path wildcard fitting segments parts
    have covered := (fits_iff_coverAll wildcard path).mp fitting
    have cutPattern : split pattern.text.toList = segments := pieces_eq_splitOn '/' _
    have cutPath : split path.toList = parts := pieces_eq_splitOn '/' _
    rw [cutPattern, cutPath] at covered
    obtain ⟨enough, same⟩ := length_of_coverAll covered
    refine ⟨fun _ => enough, same, fun index star within => ⟨by omega, fun other single => ?_⟩⟩
    have whole : ∀ part ∈ parts.set index other, '/' ∉ part := by
      intro part member
      rcases List.mem_or_eq_of_mem_set member with old | rfl
      · exact not_mem_of_mem_pieces (cutPath ▸ old)
      · exact single
    have nonempty : parts.set index other ≠ [] := by
      rw [Ne, List.set_eq_nil_iff, ← cutPath]
      exact pieces_ne_nil '/' _
    rw [fits_iff_coverAll wildcard, String.toList_ofList, split_intercalate whole nonempty,
      cutPattern]
    exact coverAll_set covered star within other

theorem fits_exactly_nested :
    (⟨"/files/*/é*.txt/*"⟩ : RoutePattern).fits "files//élan.txt/a/b" = true ∧
    (⟨"/files/*.txt"⟩ : RoutePattern).fits "/files/a/b.txt" = false := by
  constructor
  · refine ((fits_exactly _).1 _).mpr (.inr ⟨by decide, ?_⟩)
    exact ⟨[[], "lan".toList, "a/b".toList], by decide, by decide, by decide⟩
  · refine Bool.eq_false_iff.mpr fun fitting => ?_
    have counted := ((fits_exactly _).2.1 _ (by decide) fitting).2.1 (by decide)
    exact absurd counted (by decide)

end RoutePattern

end HttpServer
