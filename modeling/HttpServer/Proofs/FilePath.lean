import HttpServer.FilePath
import HttpServer.Proofs.Text.Cutting

/-!
Joined paths. What is joined to a directory without climbing stays in it or below it, name by
name.
-/

namespace HttpServer

theorem splitOnP_flatMap {α : Type} {coarse fine : α → Bool}
    (finer : ∀ item, coarse item = true → fine item = true) (items : List α) :
    items.splitOnP fine = (items.splitOnP coarse).flatMap (List.splitOnP fine) := by
  induction items with
  | nil => simp
  | cons item rest ih =>
      simp only [List.splitOnP_cons_eq_if_modifyHead]
      cases pieces : rest.splitOnP coarse with
      | nil => exact absurd pieces (List.splitOnP_ne_nil coarse rest)
      | cons piece more =>
          rw [ih, pieces, List.flatMap_cons]
          by_cases marked : fine item = true
          · by_cases first : coarse item = true
            · simp [marked, first]
            · simp [marked, first, List.splitOnP_cons_eq_if_modifyHead]
          · have inner : ¬ coarse item = true := fun first => marked (finer item first)
            rw [if_neg marked, if_neg inner, List.modifyHead_cons, List.flatMap_cons,
              List.splitOnP_cons_eq_if_modifyHead, if_neg marked]
            cases cutFurther : piece.splitOnP fine with
            | nil => exact absurd cutFurther (List.splitOnP_ne_nil fine piece)
            | cons front others => rfl

namespace FilePath

theorem components_append (front rest : List Char) :
    components (String.ofList (front ++ '/' :: rest)) =
      components (String.ofList front) ++ components (String.ofList rest) := by
  simp [components, pieces_append]

theorem components_empty : components "" = [] := by
  simp [components, pieces]

theorem components_join (directory : String) {path : String} (relative : isAbsolute path = false) :
    components (join directory path) = components directory ++ components path := by
  unfold join
  split
  · rename_i standsAlone
    have empty : directory = "" := by simpa [relative] using standsAlone
    rw [empty, components_empty, List.nil_append]
  · split
    · rename_i closed
      obtain ⟨front, same⟩ := List.getLast?_eq_some_iff.mp closed
      have closing : directory = String.ofList (front ++ '/' :: []) := by
        rw [← same, String.ofList_toList]
      have joined : directory ++ path = String.ofList (front ++ '/' :: path.toList) := by
        apply String.toList_inj.mp
        simp [closing]
      rw [joined, closing, components_append, components_append, String.ofList_toList,
        String.ofList_nil, components_empty, List.append_nil]
    · have joined : directory ++ "/" ++ path =
          String.ofList (directory.toList ++ '/' :: path.toList) := by
        apply String.toList_inj.mp
        simp
      rw [joined, components_append, String.ofList_toList, String.ofList_toList]

theorem isAbsolute_join (directory : String) {path : String} (relative : isAbsolute path = false) :
    isAbsolute (join directory path) = isAbsolute directory := by
  unfold join
  split
  · rename_i standsAlone
    have empty : directory = "" := by simpa [relative] using standsAlone
    rw [relative, empty]
    rfl
  · rename_i nonempty
    have first : ∃ c rest, directory.toList = c :: rest := by
      cases found : directory.toList with
      | nil =>
          have empty : directory = "" := String.toList_inj.mp found
          simp [empty] at nonempty
      | cons c rest => exact ⟨c, rest, rfl⟩
    obtain ⟨c, rest, found⟩ := first
    split <;> simp [isAbsolute, found]

/-- The path lies in the directory or below it, as far as its text tells. -/
def Within (directory path : String) : Prop :=
  isAbsolute path = isAbsolute directory ∧
    ∃ names, components path = components directory ++ names ∧ ".." ∉ names

theorem within_join (directory : String) {path : String} (relative : isAbsolute path = false)
    (level : ".." ∉ components path) : Within directory (join directory path) :=
  ⟨isAbsolute_join directory relative, components path, components_join directory relative, level⟩

end FilePath

end HttpServer
