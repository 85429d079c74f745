import HttpServer.Glob
import HttpServer.Proofs.Text.Utf8

/-!
What a pattern with stars means: the texts that it becomes when each star is replaced by a run of
items. The greedy matcher says whether there are such runs, and for UTF-8 it does not matter
whether it compares characters or bytes.
-/

namespace HttpServer.Glob

variable {α : Type} [DecidableEq α] {star : α}

def fill (star : α) : List α → List (List α) → List α
  | [], _ => []
  | item :: pattern, covers =>
    if item = star then covers.headD [] ++ fill star pattern covers.tail
    else item :: fill star pattern covers

/-- Replacing each star by an allowed run of items can make the text of the pattern. -/
def Fills (star : α) (allowed : List α → Prop) (pattern text : List α) : Prop :=
  ∃ covers : List (List α), covers.length = pattern.count star ∧
    (∀ cover ∈ covers, allowed cover) ∧ fill star pattern covers = text

def Anything (_ : List α) : Prop := True

variable {allowed : List α → Prop} {pattern text : List α}

theorem fills_nil : Fills star allowed [] text ↔ text = [] := by
  constructor
  · rintro ⟨covers, -, -, rfl⟩
    rfl
  · rintro rfl
    exact ⟨[], rfl, List.forall_mem_nil _, rfl⟩

theorem fills_cons_of_ne {item : α} (plain : item ≠ star) :
    Fills star allowed (item :: pattern) text ↔
      ∃ rest, text = item :: rest ∧ Fills star allowed pattern rest := by
  simp only [Fills, fill, plain, if_false, List.count_cons_of_ne plain]
  constructor
  · rintro ⟨covers, length, fits, rfl⟩
    exact ⟨_, rfl, covers, length, fits, rfl⟩
  · rintro ⟨_, rfl, covers, length, fits, rfl⟩
    exact ⟨covers, length, fits, rfl⟩

theorem fills_star :
    Fills star allowed (star :: pattern) text ↔
      ∃ cover rest, text = cover ++ rest ∧ allowed cover ∧ Fills star allowed pattern rest := by
  simp only [Fills, fill, if_true, List.count_cons_self]
  constructor
  · rintro ⟨covers, length, fits, rfl⟩
    cases covers with
    | nil => cases length
    | cons cover covers =>
        obtain ⟨first, others⟩ := List.forall_mem_cons.mp fits
        exact ⟨cover, _, rfl, first, covers, Nat.succ.inj length, others, rfl⟩
  · rintro ⟨cover, _, rfl, first, covers, length, others, rfl⟩
    exact ⟨cover :: covers, congrArg Nat.succ length, List.forall_mem_cons.mpr ⟨first, others⟩, rfl⟩

theorem fill_append {covers : List (List α)} (length : covers.length = pattern.count star)
    (more : List α) (others : List (List α)) :
    fill star (pattern ++ more) (covers ++ others) =
      fill star pattern covers ++ fill star more others := by
  induction pattern generalizing covers with
  | nil =>
      obtain rfl := List.length_eq_zero_iff.mp length
      rfl
  | cons item pattern ih =>
      by_cases plain : item = star
      · subst plain
        rw [List.count_cons_self] at length
        obtain ⟨cover, covers, rfl⟩ := List.exists_cons_of_length_eq_add_one length
        simp [fill, ih (Nat.succ.inj length)]
      · rw [List.count_cons_of_ne plain] at length
        simp [fill, plain, ih length]

theorem fills_of_not_mem (plain : star ∉ pattern) :
    Fills star allowed pattern text ↔ text = pattern := by
  induction pattern generalizing text with
  | nil => exact fills_nil
  | cons item pattern ih =>
      rw [List.mem_cons, not_or] at plain
      simp [fills_cons_of_ne (Ne.symm plain.1), ih plain.2]

theorem fills_append {more : List α} :
    Fills star allowed (pattern ++ more) text ↔
      ∃ front back, text = front ++ back ∧ Fills star allowed pattern front ∧
        Fills star allowed more back := by
  induction pattern generalizing text with
  | nil =>
      simp only [List.nil_append, fills_nil]
      exact ⟨fun fills => ⟨[], text, rfl, rfl, fills⟩, fun ⟨_, _, same, empty, fills⟩ => by
        rwa [same, empty]⟩
  | cons item pattern ih =>
      rw [List.cons_append]
      by_cases plain : item = star
      · subst plain
        simp only [fills_star, ih]
        constructor
        · rintro ⟨cover, _, rfl, fits, front, back, rfl, before, after⟩
          exact ⟨cover ++ front, back, by simp, ⟨cover, front, rfl, fits, before⟩, after⟩
        · rintro ⟨_, back, rfl, ⟨cover, front, rfl, fits, before⟩, after⟩
          exact ⟨cover, front ++ back, by simp, fits, front, back, rfl, before, after⟩
      · simp only [fills_cons_of_ne plain, ih]
        constructor
        · rintro ⟨_, rfl, front, back, rfl, before, after⟩
          exact ⟨item :: front, back, rfl, ⟨front, rfl, before⟩, after⟩
        · rintro ⟨_, back, rfl, ⟨front, rfl, before⟩, after⟩
          exact ⟨front ++ back, rfl, front, back, rfl, before, after⟩

theorem fills_of_plain_append {front : List α} (plain : star ∉ front) :
    Fills star allowed (front ++ pattern) text ↔
      ∃ rest, text = front ++ rest ∧ Fills star allowed pattern rest := by
  rw [fills_append]
  simp only [fills_of_not_mem plain]
  exact ⟨fun ⟨_, rest, same, begins, fills⟩ => ⟨rest, begins ▸ same, fills⟩,
    fun ⟨rest, same, fills⟩ => ⟨front, rest, same, rfl, fills⟩⟩

theorem fills_append_append {front : List α} (plain : star ∉ front) :
    Fills star allowed (front ++ pattern) (front ++ text) ↔ Fills star allowed pattern text := by
  rw [fills_of_plain_append plain]
  exact ⟨fun ⟨rest, same, fills⟩ => List.append_cancel_left same ▸ fills,
    fun fills => ⟨text, rfl, fills⟩⟩

theorem fills_self (pattern : List α) : Fills star Anything pattern pattern := by
  induction pattern with
  | nil => exact fills_nil.mpr rfl
  | cons item pattern ih =>
      by_cases plain : item = star
      · subst plain
        exact fills_star.mpr ⟨[item], pattern, rfl, trivial, ih⟩
      · exact (fills_cons_of_ne plain).mpr ⟨pattern, rfl, ih⟩

theorem fills_avoiding {mark : α} (absent : mark ∉ pattern) :
    Fills star (mark ∉ ·) pattern text ↔ mark ∉ text ∧ Fills star Anything pattern text := by
  induction pattern generalizing text with
  | nil =>
      simp only [fills_nil]
      exact ⟨fun empty => ⟨by simp [empty], empty⟩, And.right⟩
  | cons item pattern ih =>
      rw [List.mem_cons, not_or] at absent
      by_cases plain : item = star
      · subst plain
        simp only [fills_star, ih absent.2]
        constructor
        · rintro ⟨cover, rest, rfl, fits, avoids, filled⟩
          exact ⟨by simp [fits, avoids], cover, rest, rfl, trivial, filled⟩
        · rintro ⟨avoids, cover, rest, rfl, -, filled⟩
          rw [List.mem_append, not_or] at avoids
          exact ⟨cover, rest, rfl, avoids.1, avoids.2, filled⟩
      · simp only [fills_cons_of_ne plain, ih absent.2]
        constructor
        · rintro ⟨rest, rfl, avoids, filled⟩
          exact ⟨by simp [absent.1, avoids], rest, rfl, filled⟩
        · rintro ⟨avoids, rest, rfl, filled⟩
          rw [List.mem_cons, not_or] at avoids
          exact ⟨rest, rfl, avoids.2, filled⟩

/-! ### What a star allows to skip -/

theorem fills_star_append (more : List α) (fills : Fills star Anything (star :: pattern) text) :
    Fills star Anything (star :: pattern) (more ++ text) := by
  obtain ⟨cover, rest, rfl, -, filled⟩ := fills_star.mp fills
  exact fills_star.mpr ⟨more ++ cover, rest, by simp, trivial, filled⟩

theorem exists_append_of_fills_star {front : List α} (plain : star ∉ front)
    (fills : Fills star Anything (star :: (front ++ pattern)) (front ++ text)) :
    ∃ more later, text = more ++ later ∧ Fills star Anything pattern later := by
  obtain ⟨cover, _, same, -, found⟩ := fills_star.mp fills
  obtain ⟨later, rfl, filled⟩ := (fills_of_plain_append plain).mp found
  have lengths := congrArg List.length same
  simp only [List.length_append] at lengths
  have suffix : later <:+ text :=
    List.suffix_of_suffix_length_le ⟨cover ++ front, by simp [same]⟩
      (List.suffix_append front text) (by omega)
  obtain ⟨more, rfl⟩ := suffix
  exact ⟨more, later, rfl, filled⟩

theorem fills_star_of_fills (fills : Fills star Anything pattern text) :
    Fills star Anything (star :: pattern) text :=
  fills_star.mpr ⟨[], text, rfl, trivial, fills⟩

/-- Between two stars the first place that fits will do: what a longer cover would take can be
covered by the later star. -/
theorem fills_star_append_star {front : List α} (plain : star ∉ front) :
    Fills star Anything (star :: (front ++ star :: pattern)) (front ++ text) ↔
      Fills star Anything (star :: pattern) text := by
  constructor
  · intro fills
    obtain ⟨more, later, rfl, filled⟩ := exists_append_of_fills_star plain fills
    exact fills_star_append more filled
  · intro fills
    exact fills_star_of_fills ((fills_append_append plain).mpr fills)

theorem fills_star_cons {other : α} (stuck : ¬Fills star Anything pattern (other :: text)) :
    Fills star Anything (star :: pattern) (other :: text) ↔
      Fills star Anything (star :: pattern) text := by
  constructor
  · intro fills
    obtain ⟨cover, rest, same, -, filled⟩ := fills_star.mp fills
    cases cover with
    | nil => exact absurd (same ▸ filled) stuck
    | cons first cover =>
        obtain ⟨-, rfl⟩ := List.cons.inj same
        exact fills_star.mpr ⟨cover, rest, rfl, trivial, filled⟩
  · exact fills_star_append [other]

theorem fills_empty_iff : Fills star Anything pattern [] ↔ ∀ item ∈ pattern, item = star := by
  induction pattern with
  | nil => simp [fills_nil]
  | cons item pattern ih =>
      by_cases same : item = star
      · subst same
        rw [List.forall_mem_cons, ← ih, fills_star]
        constructor
        · rintro ⟨cover, rest, split, -, filled⟩
          obtain ⟨-, rfl⟩ := List.append_eq_nil_iff.mp split.symm
          exact ⟨rfl, filled⟩
        · rintro ⟨-, filled⟩
          exact ⟨[], [], rfl, trivial, filled⟩
      · simp [fills_cons_of_ne same, same]

/-! ### The greedy matcher -/

theorem advance_spec (star : α) (pattern text : List α) :
    match advance star pattern text with
    | .finished => text = pattern ∧ star ∉ pattern
    | .star restPattern restText => ∃ front, star ∉ front ∧
        pattern = front ++ star :: restPattern ∧ text = front ++ restText
    | .stuck => ¬Fills star Anything pattern text := by
  fun_induction advance star pattern text with
  | case1 => simp
  | case2 => simp [fills_nil]
  | case3 pattern => exact ⟨[], by simp⟩
  | case4 item pattern plain => simp [fills_cons_of_ne plain]
  | case5 pattern other text => exact ⟨[], by simp⟩
  | case6 pattern item text plain ih =>
      split at ih
      · obtain ⟨rfl, absent⟩ := ih
        exact ⟨rfl, List.not_mem_cons_of_ne_of_not_mem (Ne.symm plain) absent⟩
      · obtain ⟨front, absent, rfl, rfl⟩ := ih
        exact ⟨item :: front, List.not_mem_cons_of_ne_of_not_mem (Ne.symm plain) absent, rfl, rfl⟩
      · simpa [fills_cons_of_ne plain] using ih
  | case7 item pattern other text plain different =>
      rw [fills_cons_of_ne plain]
      rintro ⟨rest, same, -⟩
      exact different (List.cons.inj same).1.symm

/-- The matcher goes on from the last star that it met. No match is lost by that: whatever stands
before a later star can be covered by it. -/
theorem matchesBehindStar_iff (star : α) (pattern text : List α) :
    matchesBehindStar star pattern text = true ↔ Fills star Anything (star :: pattern) text := by
  fun_induction matchesBehindStar star pattern text with
  | case1 pattern text met =>
      have spec := advance_spec star pattern text
      rw [met] at spec
      obtain ⟨rfl, plain⟩ := spec
      exact iff_of_true rfl (fills_star_of_fills (fills_self text))
  | case2 pattern text restPattern restText met ih =>
      have spec := advance_spec star pattern text
      rw [met] at spec
      obtain ⟨front, plain, rfl, rfl⟩ := spec
      exact ih.trans (fills_star_append_star plain).symm
  | case3 pattern met =>
      have stuck := advance_spec star pattern []
      rw [met] at stuck
      refine iff_of_false Bool.false_ne_true fun fills => stuck ?_
      exact fills_empty_iff.mpr (List.forall_mem_cons.mp (fills_empty_iff.mp fills)).2
  | case4 pattern other rest met ih =>
      have stuck := advance_spec star pattern (other :: rest)
      rw [met] at stuck
      exact ih.trans (fills_star_cons stuck).symm

theorem isMatch_iff_fills (star : α) (pattern text : List α) :
    isMatch star pattern text = true ↔ Fills star Anything pattern text := by
  have spec := advance_spec star pattern text
  unfold isMatch
  cases met : advance star pattern text with
  | finished =>
      rw [met] at spec
      obtain ⟨rfl, plain⟩ := spec
      exact iff_of_true rfl ((fills_of_not_mem plain).mpr rfl)
  | star restPattern restText =>
      rw [met] at spec
      obtain ⟨front, plain, rfl, rfl⟩ := spec
      exact (matchesBehindStar_iff star restPattern restText).trans (fills_append_append plain).symm
  | stuck =>
      rw [met] at spec
      exact iff_of_false Bool.false_ne_true spec

/-! ### Bytes for characters -/

theorem encode_cons_star (pattern : List Char) :
    Utf8.encode ('*' :: pattern) = 0x2A :: Utf8.encode pattern := by
  rw [Utf8.encode_cons]
  rfl

theorem not_mem_encodeChar {c : Char} (plain : c ≠ '*') : 0x2A ∉ String.utf8EncodeChar c := by
  intro member
  have same := Utf8.mem_encodeChar_ascii (by decide) member
  exact plain (Char.toNat_inj.mp same)

theorem fills_encode {pattern text : List Char} (fills : Fills '*' Anything pattern text) :
    Fills 0x2A Anything (Utf8.encode pattern) (Utf8.encode text) := by
  induction pattern generalizing text with
  | nil =>
      rw [fills_nil] at fills
      exact fills_nil.mpr (congrArg Utf8.encode fills)
  | cons c pattern ih =>
      by_cases star : c = '*'
      · subst star
        obtain ⟨cover, rest, rfl, -, filled⟩ := fills_star.mp fills
        rw [encode_cons_star, Utf8.encode_append]
        exact fills_star.mpr ⟨_, _, rfl, trivial, ih filled⟩
      · obtain ⟨rest, rfl, filled⟩ := (fills_cons_of_ne star).mp fills
        rw [Utf8.encode_cons, Utf8.encode_cons]
        exact (fills_of_plain_append (not_mem_encodeChar star)).mpr ⟨_, rfl, ih filled⟩

/-- A star that covers bytes can cover whole characters: what it covers ends where the next
character of the pattern begins, or at another star, which can take over the rest. -/
theorem fills_of_encode (pattern : List Char) :
    (∀ text, Fills 0x2A Anything (Utf8.encode pattern) (Utf8.encode text) →
      Fills '*' Anything pattern text) ∧
    ∀ text cover rest, Utf8.encode text = cover ++ rest →
      Fills 0x2A Anything (Utf8.encode pattern) rest →
      Fills '*' Anything ('*' :: pattern) text := by
  induction pattern with
  | nil =>
      constructor
      · intro text fills
        exact fills_nil.mpr (Utf8.encode_eq_nil_iff.mp (fills_nil.mp fills))
      · intro text _ _ _ _
        exact fills_star.mpr ⟨text, [], by simp, trivial, fills_nil.mpr rfl⟩
  | cons c pattern ih =>
      obtain ⟨whole, behind⟩ := ih
      by_cases star : c = '*'
      · subst star
        simp only [encode_cons_star, @fills_star UInt8 _ 0x2A]
        constructor
        · rintro text ⟨cover, rest, same, -, fills⟩
          exact behind text cover rest same fills
        · rintro text first _ same ⟨cover, rest, rfl, -, fills⟩
          have filled := behind text (first ++ cover) rest (by simp [same]) fills
          exact fills_star.mpr ⟨[], text, rfl, trivial, filled⟩
      · simp only [Utf8.encode_cons, fills_of_plain_append (not_mem_encodeChar star)]
        constructor
        · rintro text ⟨rest, same, fills⟩
          obtain ⟨front, back, rfl, empty, rfl⟩ :=
            @Utf8.exists_of_encode_eq_append text c [] rest same
          obtain rfl := Utf8.encode_eq_nil_iff.mp empty.symm
          exact (fills_cons_of_ne star).mpr ⟨back, rfl, whole back fills⟩
        · rintro text cover _ same ⟨rest, rfl, fills⟩
          obtain ⟨front, back, rfl, -, rfl⟩ := Utf8.exists_of_encode_eq_append same
          exact fills_star.mpr ⟨front, c :: back, rfl, trivial,
            (fills_cons_of_ne star).mpr ⟨back, rfl, whole back fills⟩⟩

theorem isMatch_encode (pattern text : List Char) :
    isMatch 0x2A (Utf8.encode pattern) (Utf8.encode text) = isMatch '*' pattern text := by
  rw [Bool.eq_iff_iff, isMatch_iff_fills, isMatch_iff_fills]
  exact ⟨(fills_of_encode pattern).1 text, fills_encode⟩

end HttpServer.Glob
