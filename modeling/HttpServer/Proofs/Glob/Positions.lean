import HttpServer.Proofs.Glob
import Mathlib.Logic.Relation

/-!
The greedy matcher with positions in place of what is left. Both positions move forth and back: on
a mismatch the last star takes one item more, and what stands behind it is tried again from there.
No item is read that is not there, the number of rounds is bounded by the product of the lengths,
and the answer is that of `isMatch`.
-/

namespace HttpServer.Glob

variable {α : Type} [DecidableEq α]

/-! ### One round -/

structure Retreat where
  place : Nat
  covered : Nat

structure Cursor where
  pattern : Nat := 0
  text : Nat := 0
  retreat : Option Retreat := none

inductive Turn
  | next (cursor : Cursor)
  | answer (matched : Bool)
  | outside

def goBack (cursor : Cursor) : Turn :=
  match cursor.retreat with
  | some ⟨place, covered⟩ => .next ⟨place + 1, covered + 1, some ⟨place, covered + 1⟩⟩
  | none => .answer false

def turn (star : α) (pattern text : List α) (cursor : Cursor) : Turn :=
  if cursor.text < text.length then
    if cursor.pattern < pattern.length then
      match pattern[cursor.pattern]?, text[cursor.text]? with
      | some item, some other =>
        if item = star then
          .next ⟨cursor.pattern + 1, cursor.text, some ⟨cursor.pattern, cursor.text⟩⟩
        else if item = other then
          .next { cursor with pattern := cursor.pattern + 1, text := cursor.text + 1 }
        else goBack cursor
      | _, _ => .outside
    else goBack cursor
  else if cursor.pattern ≤ pattern.length then
    .answer ((pattern.drop cursor.pattern).all (· = star))
  else .outside

/-! ### What holds before every round -/

/-- What is known at a position. Before the first star, what was read of pattern and text is the
same. Behind a star, the pattern from that star on has to cover the text from its place on: earlier
stars have no more say. -/
inductive Follows (star : α) (pattern text : List α) : Cursor → Prop
  | start {front left rest : List α} (plain : star ∉ front) (ofPattern : pattern = front ++ left)
      (ofText : text = front ++ rest) : Follows star pattern text ⟨front.length, front.length, none⟩
  | behind {before front left covered rest : List α} (plain : star ∉ front)
      (ofPattern : pattern = before ++ star :: front ++ left)
      (ofText : text = covered ++ front ++ rest)
      (decides : Fills star Anything pattern text ↔
        Fills star Anything (star :: (front ++ left)) (front ++ rest)) :
      Follows star pattern text
        ⟨(before ++ star :: front).length, (covered ++ front).length,
          some ⟨before.length, covered.length⟩⟩

def Cursor.covered (cursor : Cursor) : Nat :=
  (cursor.retreat.map Retreat.covered).getD 0

/-- A bound for the rounds that are left: whenever the matcher goes back, a star covers more. -/
def remaining (pattern text : List α) (cursor : Cursor) : Nat :=
  (text.length - cursor.covered) * (pattern.length + 1) + (pattern.length - cursor.pattern)

section

omit [DecidableEq α]

variable {pattern text : List α} {cursor later : Cursor}

theorem remaining_lt_of_read (inside : cursor.pattern < pattern.length)
    (read : later.pattern = cursor.pattern + 1) (covered : cursor.covered ≤ later.covered) :
    remaining pattern text later < remaining pattern text cursor := by
  have fewer : text.length - later.covered ≤ text.length - cursor.covered := by omega
  have product := Nat.mul_le_mul_right (pattern.length + 1) fewer
  unfold remaining
  omega

theorem remaining_lt_of_covered (inside : cursor.covered < text.length)
    (covered : later.covered = cursor.covered + 1) :
    remaining pattern text later < remaining pattern text cursor := by
  obtain ⟨left, open_⟩ := Nat.exists_eq_add_of_lt inside
  have after : text.length - later.covered = left := by omega
  have before : text.length - cursor.covered = left + 1 := by omega
  unfold remaining
  rw [after, before, Nat.succ_mul]
  omega

end

inductive Leads (star : α) (pattern text : List α) (cursor : Cursor) : Turn → Prop
  | answer {matched : Bool} (right : matched = true ↔ Fills star Anything pattern text) :
      Leads star pattern text cursor (.answer matched)
  | next {later : Cursor} (follows : Follows star pattern text later)
      (fewer : remaining pattern text later < remaining pattern text cursor) :
      Leads star pattern text cursor (.next later)

section

variable {star : α} {pattern text : List α} {cursor : Cursor}

namespace Follows

theorem pattern_le (follows : Follows star pattern text cursor) :
    cursor.pattern ≤ pattern.length := by
  cases follows with
  | start _ ofPattern _ => simp [ofPattern]
  | behind _ ofPattern _ _ => simp [ofPattern]

theorem covered_le (follows : Follows star pattern text cursor) :
    cursor.covered ≤ cursor.text := by
  cases follows with
  | start _ _ _ => exact Nat.zero_le _
  | behind _ _ _ _ => simp [Cursor.covered]

/-- A star is met. Of the stars before it nothing needs to be remembered. -/
theorem meets (follows : Follows star pattern text cursor)
    (here : pattern[cursor.pattern]? = some star) :
    Follows star pattern text
      ⟨cursor.pattern + 1, cursor.text, some ⟨cursor.pattern, cursor.text⟩⟩ := by
  cases follows with
  | @start front left rest plain ofPattern ofText =>
      obtain ⟨left, rfl⟩ : ∃ more, left = star :: more := by
        cases left <;> simp_all
      have met : Follows star pattern text
          ⟨(front ++ [star]).length, (front ++ []).length, some ⟨front.length, front.length⟩⟩ := by
        have itsPattern : pattern = front ++ star :: [] ++ left := by simp [ofPattern]
        have itsText : text = front ++ [] ++ rest := by simp [ofText]
        refine .behind List.not_mem_nil itsPattern itsText ?_
        rw [ofPattern, ofText]
        exact fills_append_append plain
      simpa using met
  | @behind before front left covered rest plain ofPattern ofText decides =>
      obtain ⟨left, rfl⟩ : ∃ more, left = star :: more := by
        cases left <;> simp_all
      have met : Follows star pattern text
          ⟨(before ++ star :: front ++ [star]).length, (covered ++ front ++ []).length,
            some ⟨(before ++ star :: front).length, (covered ++ front).length⟩⟩ := by
        have itsPattern : pattern = before ++ star :: front ++ star :: [] ++ left := by
          simp [ofPattern]
        have itsText : text = covered ++ front ++ [] ++ rest := by simp [ofText]
        refine .behind List.not_mem_nil itsPattern itsText ?_
        rw [decides]
        exact fills_star_append_star plain
      simpa [Nat.add_assoc] using met

theorem reads (follows : Follows star pattern text cursor) {item : α} (plain : item ≠ star)
    (here : pattern[cursor.pattern]? = some item) (same : text[cursor.text]? = some item) :
    Follows star pattern text ⟨cursor.pattern + 1, cursor.text + 1, cursor.retreat⟩ := by
  cases follows with
  | @start front left rest plainFront ofPattern ofText =>
      obtain ⟨left, rfl⟩ : ∃ more, left = item :: more := by
        cases left <;> simp_all
      obtain ⟨rest, rfl⟩ : ∃ more, rest = item :: more := by
        cases rest <;> simp_all
      have read : Follows star pattern text
          ⟨(front ++ [item]).length, (front ++ [item]).length, none⟩ := by
        have itsPattern : pattern = front ++ [item] ++ left := by simp [ofPattern]
        have itsText : text = front ++ [item] ++ rest := by simp [ofText]
        exact .start (by simp [plainFront, Ne.symm plain]) itsPattern itsText
      simpa using read
  | @behind before front left covered rest plainFront ofPattern ofText decides =>
      obtain ⟨left, rfl⟩ : ∃ more, left = item :: more := by
        cases left <;> simp_all
      obtain ⟨rest, rfl⟩ : ∃ more, rest = item :: more := by
        cases rest <;> simp_all
      have read : Follows star pattern text
          ⟨(before ++ star :: (front ++ [item])).length, (covered ++ (front ++ [item])).length,
            some ⟨before.length, covered.length⟩⟩ := by
        have itsPattern : pattern = before ++ star :: (front ++ [item]) ++ left := by
          simp [ofPattern]
        have itsText : text = covered ++ (front ++ [item]) ++ rest := by simp [ofText]
        refine .behind (by simp [plainFront, Ne.symm plain]) itsPattern itsText ?_
        simpa using decides
      simpa [Nat.add_assoc] using read

theorem leads_goBack (follows : Follows star pattern text cursor)
    (more : cursor.text < text.length)
    (stuck : ¬Fills star Anything (pattern.drop cursor.pattern) (text.drop cursor.text)) :
    Leads star pattern text cursor (goBack cursor) := by
  cases follows with
  | @start front left rest plain ofPattern ofText =>
      subst ofPattern ofText
      rw [List.drop_left, List.drop_left, ← fills_append_append plain] at stuck
      exact .answer (iff_of_false Bool.false_ne_true stuck)
  | @behind before front left covered rest plain ofPattern ofText decides =>
      subst ofPattern ofText
      rw [List.drop_left, List.drop_left, ← fills_append_append plain] at stuck
      obtain ⟨first, later, split⟩ : ∃ first later, front ++ rest = first :: later := by
        refine List.exists_cons_of_ne_nil fun empty => ?_
        simp [(List.append_eq_nil_iff.mp empty).2] at more
      have inside : covered.length < (covered ++ front ++ rest).length := by
        simp [List.append_assoc, split]
      refine .next ?_ (remaining_lt_of_covered inside rfl)
      have back : Follows star (before ++ star :: front ++ left) (covered ++ front ++ rest)
          ⟨(before ++ [star]).length, (covered ++ [first] ++ []).length,
            some ⟨before.length, (covered ++ [first]).length⟩⟩ := by
        have itsPattern : before ++ star :: front ++ left =
            before ++ star :: [] ++ (front ++ left) := by simp
        have itsText : covered ++ front ++ rest = covered ++ [first] ++ [] ++ later := by
          simp [split]
        refine .behind List.not_mem_nil itsPattern itsText ?_
        rw [decides, split]
        exact fills_star_cons (split ▸ stuck)
      simpa using back

theorem fills_iff_of_end (follows : Follows star pattern text cursor)
    (ended : text.length ≤ cursor.text) :
    Fills star Anything pattern text ↔ ∀ item ∈ pattern.drop cursor.pattern, item = star := by
  cases follows with
  | @start front left rest plain ofPattern ofText =>
      subst ofPattern ofText
      obtain rfl : rest = [] := List.length_eq_zero_iff.mp
        (by simp only [List.length_append] at ended; omega)
      rw [fills_append_append plain, fills_empty_iff, List.drop_left]
  | @behind before front left covered rest plain ofPattern ofText decides =>
      subst ofPattern ofText
      obtain rfl : rest = [] := List.length_eq_zero_iff.mp
        (by simp only [List.length_append] at ended; omega)
      rw [decides, List.drop_left, ← fills_empty_iff]
      constructor
      · intro fills
        obtain ⟨more, last, split, filled⟩ := exists_append_of_fills_star plain fills
        obtain ⟨-, rfl⟩ := List.append_eq_nil_iff.mp split.symm
        exact filled
      · intro fills
        exact fills_star_of_fills ((fills_append_append plain).mpr fills)

theorem leads (follows : Follows star pattern text cursor) :
    Leads star pattern text cursor (turn star pattern text cursor) := by
  unfold turn
  split
  · rename_i more
    split
    · rename_i inside
      rw [List.getElem?_eq_getElem inside, List.getElem?_eq_getElem more]
      have here := List.getElem?_eq_getElem inside
      have there := List.getElem?_eq_getElem more
      dsimp only
      split
      · rename_i met
        exact .next (follows.meets (here.trans (congrArg some met)))
          (remaining_lt_of_read inside rfl follows.covered_le)
      · rename_i plain
        split
        · rename_i same
          exact .next (follows.reads plain here (there.trans (congrArg some same.symm)))
            (remaining_lt_of_read inside rfl (Nat.le_refl _))
        · rename_i different
          refine follows.leads_goBack more ?_
          rw [List.drop_eq_getElem_cons inside, List.drop_eq_getElem_cons more,
            fills_cons_of_ne plain]
          rintro ⟨rest, equal, -⟩
          exact different (List.cons.inj equal).1.symm
    · rename_i read
      refine follows.leads_goBack more ?_
      rw [List.drop_eq_nil_of_le (Nat.le_of_not_lt read), fills_nil, List.drop_eq_nil_iff]
      exact Nat.not_le_of_lt more
  · rename_i ended
    rw [if_pos follows.pattern_le]
    refine .answer ?_
    rw [follows.fills_iff_of_end (Nat.le_of_not_lt ended), List.all_eq_true]
    simp

end Follows

/-! ### A whole match -/

inductive Answers (star : α) (pattern text : List α) : Cursor → Nat → Bool → Prop
  | last {cursor : Cursor} {matched : Bool}
      (ends : turn star pattern text cursor = .answer matched) :
      Answers star pattern text cursor 1 matched
  | round {cursor later : Cursor} {rounds : Nat} {matched : Bool}
      (goesOn : turn star pattern text cursor = .next later)
      (rest : Answers star pattern text later rounds matched) :
      Answers star pattern text cursor (rounds + 1) matched

theorem Follows.answers (follows : Follows star pattern text cursor) :
    ∃ rounds matched, rounds ≤ remaining pattern text cursor + 1 ∧
      Answers star pattern text cursor rounds matched ∧
      (matched = true ↔ Fills star Anything pattern text) := by
  -- Going back, a match loses its place in pattern and text, but then a star covers more.
  generalize bound : remaining pattern text cursor = left
  induction left using Nat.strongRecOn generalizing cursor with
  | ind left ih =>
      have step := follows.leads
      generalize made : turn star pattern text cursor = outcome at step
      cases step with
      | answer right => exact ⟨1, _, by omega, .last made, right⟩
      | next later fewer =>
          obtain ⟨rounds, matched, within, answers, right⟩ := ih _ (bound ▸ fewer) later rfl
          exact ⟨rounds + 1, matched, by omega, .round made answers, right⟩

theorem follows_start (star : α) (pattern text : List α) : Follows star pattern text {} :=
  .start List.not_mem_nil (List.nil_append pattern).symm (List.nil_append text).symm

theorem follows_of_reached
    (reached : Relation.ReflTransGen (fun here later => turn star pattern text here = .next later)
      {} cursor) : Follows star pattern text cursor := by
  induction reached with
  | refl => exact follows_start star pattern text
  | tail _ goesOn follows =>
      have step := follows.leads
      rw [goesOn] at step
      cases step with
      | next later _ => exact later

end

/-- The greedy matcher is complete, and it ends. It reads no item outside of pattern and text, it
takes at most as many rounds as there are pairs of positions in them, their ends included, and it
says whether the stars can be replaced by runs of items so that the pattern becomes the text:
nothing is lost by remembering the last star alone. -/
theorem greedy_complete (star : α) (pattern text : List α) :
    (∀ cursor,
      Relation.ReflTransGen (fun here later => turn star pattern text here = .next later)
        {} cursor → turn star pattern text cursor ≠ .outside) ∧
    (∃ rounds ≤ (text.length + 1) * (pattern.length + 1),
      Answers star pattern text {} rounds (isMatch star pattern text)) ∧
    (isMatch star pattern text = true ↔
      ∃ covers : List (List α), covers.length = pattern.count star ∧
        fill star pattern covers = text) := by
  refine ⟨?_, ?_, ?_⟩
  · intro cursor reached outside
    have step := (follows_of_reached reached).leads
    rw [outside] at step
    cases step
  · obtain ⟨rounds, matched, within, answers, right⟩ :=
      (follows_start star pattern text).answers
    have same : matched = isMatch star pattern text :=
      Bool.eq_iff_iff.mpr (right.trans (isMatch_iff_fills star pattern text).symm)
    refine ⟨rounds, ?_, same ▸ answers⟩
    have bound : remaining pattern text {} = text.length * (pattern.length + 1) + pattern.length :=
      rfl
    rw [Nat.succ_mul]
    omega
  · rw [isMatch_iff_fills]
    simp [Fills, Anything]

example : isMatch '*' "a*c".toList "abbbc".toList = true ∧
    isMatch '*' "a*c".toList "abcd".toList = false := by
  cbv

end HttpServer.Glob
