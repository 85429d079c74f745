import HttpServer.Text.Blank
import Mathlib.Data.List.TakeWhile

/-!
White space. `Separated` says what the words of a text are without saying how they are found;
`words` finds exactly those.
-/

namespace HttpServer.Text

def IsSolid (word : List Char) : Prop :=
  word ≠ [] ∧ ∀ c ∈ word, isBlank c = false

instance : DecidablePred IsSolid := fun word =>
  @instDecidableAnd _ _ inferInstance (List.decidableBAll _ word)

inductive Separated : List Char → List (List Char) → Prop
  | blank {blanks : List Char} (all : ∀ c ∈ blanks, isBlank c = true) : Separated blanks []
  | word {blanks word rest : List Char} {words : List (List Char)}
      (all : ∀ c ∈ blanks, isBlank c = true) (solid : IsSolid word)
      (ends : ∀ c, rest.head? = some c → isBlank c = true) (more : Separated rest words) :
      Separated (blanks ++ (word ++ rest)) (word :: words)

theorem Separated.isSolid {text : List Char} {words : List (List Char)}
    (separated : Separated text words) : ∀ word ∈ words, IsSolid word := by
  induction separated with
  | blank _ => simp
  | word _ solid _ _ ih => simpa using And.intro solid ih

/-! ### Words are found -/

theorem wordsFrom_blanks {blanks : List Char} (all : ∀ c ∈ blanks, isBlank c = true)
    (found : List (List Char)) (rest : List Char) :
    wordsFrom found [] (blanks ++ rest) = wordsFrom found [] rest := by
  induction blanks with
  | nil => rfl
  | cons c blanks ih =>
      have first : isBlank c = true := all c (by simp)
      simp only [List.cons_append, wordsFrom, first, ↓reduceIte, List.isEmpty_nil]
      exact ih fun other member => all other (by simp [member])

theorem wordsFrom_solid {word : List Char} (solid : ∀ c ∈ word, isBlank c = false)
    (found : List (List Char)) (begun rest : List Char) :
    wordsFrom found begun (word ++ rest) = wordsFrom found (word.reverse ++ begun) rest := by
  induction word generalizing begun with
  | nil => rfl
  | cons c word ih =>
      have first : isBlank c = false := solid c (by simp)
      simp only [List.cons_append, wordsFrom, first, Bool.false_eq_true, ↓reduceIte]
      rw [ih fun other member => solid other (by simp [member])]
      simp

theorem wordsFrom_ends {begun rest : List Char} (something : begun ≠ [])
    (ends : ∀ c, rest.head? = some c → isBlank c = true) (found : List (List Char)) :
    wordsFrom found begun rest = wordsFrom (begun.reverse :: found) [] rest := by
  have begins : begun.isEmpty = false := by simpa using something
  cases rest with
  | nil => simp [wordsFrom, begins]
  | cons c rest =>
      have first : isBlank c = true := ends c rfl
      simp [wordsFrom, first, begins]

theorem wordsFrom_of_separated {text : List Char} {words : List (List Char)}
    (separated : Separated text words) (found : List (List Char)) :
    wordsFrom found [] text = found.reverse ++ words := by
  induction separated generalizing found with
  | blank all =>
      have read := wordsFrom_blanks all found []
      simpa [wordsFrom] using read
  | word all solid ends more ih =>
      rw [wordsFrom_blanks all, wordsFrom_solid solid.2,
        wordsFrom_ends (by simpa using solid.1) ends, ih]
      simp

theorem exists_separated (text : List Char) : ∃ words, Separated text words := by
  generalize sizeEq : text.length = size
  induction size using Nat.strongRecOn generalizing text with
  | ind size ih =>
      have cutAtWord := List.takeWhile_append_dropWhile (p := isBlank) (l := text)
      have all : ∀ c ∈ text.takeWhile isBlank, isBlank c = true := fun c member =>
        List.mem_takeWhile_imp member
      cases opening : text.dropWhile isBlank with
      | nil =>
          rw [opening, List.append_nil] at cutAtWord
          exact ⟨[], cutAtWord ▸ .blank all⟩
      | cons first tail =>
          have notBlank : isBlank first = false := by
            have something : text.dropWhile isBlank ≠ [] := by simp [opening]
            simpa [opening] using List.head_dropWhile_not isBlank something
          let word := first :: tail.takeWhile fun c => !isBlank c
          let rest := tail.dropWhile fun c => !isBlank c
          have joined : word ++ rest = first :: tail := by
            simp [word, rest, List.takeWhile_append_dropWhile]
          have shorter : rest.length < size := by
            have within := (List.dropWhile_suffix (fun c => !isBlank c) (l := tail)).length_le
            have whole := congrArg List.length cutAtWord
            simp only [opening, List.length_append, List.length_cons] at whole
            change rest.length ≤ tail.length at within
            omega
          obtain ⟨words, more⟩ := ih rest.length shorter rest rfl
          have solid : IsSolid word := by
            refine ⟨by simp [word], ?_⟩
            intro c member
            rcases List.mem_cons.mp member with rfl | member
            · exact notBlank
            · simpa using List.mem_takeWhile_imp member
          have ends : ∀ c, rest.head? = some c → isBlank c = true := by
            intro c head
            have stopped := List.head?_dropWhile_not (fun c => !isBlank c) tail
            simp only [rest] at head
            simpa [head] using stopped
          rw [← cutAtWord, opening, ← joined]
          exact ⟨word :: words, .word all solid ends more⟩

theorem words_eq_iff (text : List Char) (found : List (List Char)) :
    words text = found ↔ Separated text found := by
  constructor
  · rintro rfl
    obtain ⟨found, separated⟩ := exists_separated text
    have read := wordsFrom_of_separated separated []
    rw [List.reverse_nil, List.nil_append] at read
    rw [words, read]
    exact separated
  · intro separated
    simpa [words] using wordsFrom_of_separated separated []

/-! ### Trimming -/

theorem trim_append_blank (text : List Char) {c : Char} (blank : isBlank c = true) :
    trim (text ++ [c]) = trim text := by
  unfold trim
  rw [List.dropWhile_append]
  by_cases allBlank : (text.dropWhile isBlank).isEmpty = true
  · have nothing : text.dropWhile isBlank = [] := by simpa using allBlank
    simp [nothing, blank]
  · simp [allBlank, blank]

def IsTrimmed (text : List Char) : Prop :=
  ∀ c, text.head? = some c ∨ text.getLast? = some c → isBlank c = false

theorem trim_isPrefix_dropWhile (text : List Char) : trim text <+: text.dropWhile isBlank := by
  rw [trim, ← List.reverse_suffix, List.reverse_reverse]
  exact List.dropWhile_suffix isBlank

theorem mem_of_mem_trim {text : List Char} {c : Char} (member : c ∈ trim text) : c ∈ text :=
  (List.dropWhile_suffix isBlank).subset ((trim_isPrefix_dropWhile text).subset member)

theorem isTrimmed_trim (text : List Char) : IsTrimmed (trim text) := by
  rintro c (first | last)
  · obtain ⟨rest, whole⟩ := trim_isPrefix_dropWhile text
    have head : (text.dropWhile isBlank).head? = some c := by
      rw [← whole, List.head?_append, first]
      rfl
    have stopped := List.head?_dropWhile_not isBlank text
    simpa [head] using stopped
  · rw [trim, List.getLast?_reverse] at last
    have stopped := List.head?_dropWhile_not isBlank (text.dropWhile isBlank).reverse
    simpa [last] using stopped

end HttpServer.Text
