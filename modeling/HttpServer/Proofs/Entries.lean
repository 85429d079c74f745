import Mathlib.Data.List.Pairwise
import Mathlib.Data.List.Sort
import Mathlib.Data.String.Basic

/-!
Entries in ascending order of their keys, as objects of a document and static mappings keep them.
An entry that is put among them takes its place in the order, and of each key the last value is
kept.
-/

namespace HttpServer.Entries

variable {β : Type}

def put (key : String) (value : β) : List (String × β) → List (String × β)
  | [] => [(key, value)]
  | entry :: rest =>
    if key = entry.1 then (key, value) :: rest
    else if key < entry.1 then (key, value) :: entry :: rest
    else entry :: put key value rest

def putAll (entries done : List (String × β)) : List (String × β) :=
  entries.foldl (fun done entry => put entry.1 entry.2 done) done

def value? (key : String) (entries : List (String × β)) : Option β :=
  (entries.find? fun entry => entry.1 = key).map Prod.snd

def Ascending (entries : List (String × β)) : Prop :=
  entries.Pairwise fun left right => left.1 < right.1

theorem value?_put (key : String) (value : β) (other : String) (entries : List (String × β)) :
    value? other (put key value entries) =
      if key = other then some value else value? other entries := by
  induction entries with
  | nil => by_cases same : key = other <;> simp [put, value?, same]
  | cons entry rest ih =>
      by_cases here : key = entry.1
      · by_cases same : key = other
        · simp [put, value?, here, ← same]
        · have different : entry.1 ≠ other := here ▸ same
          simp [put, value?, here, different]
      · by_cases before : key < entry.1
        · rw [put, if_neg here, if_pos before]
          by_cases same : key = other <;> simp [value?, same]
        · simp only [put, here, before, if_false]
          by_cases first : entry.1 = other
          · have different : key ≠ other := fun same => here (same.trans first.symm)
            simp [value?, first, different]
          · simp only [value?, List.find?_cons, first, decide_false] at ih ⊢
            exact ih

theorem value?_putAll (key : String) (entries done : List (String × β)) :
    value? key (putAll entries done) = (value? key entries.reverse).or (value? key done) := by
  induction entries generalizing done with
  | nil => simp [putAll, value?]
  | cons entry rest ih =>
      change value? key (putAll rest (put entry.1 entry.2 done)) = _
      rw [ih, value?_put, List.reverse_cons]
      by_cases same : entry.1 = key
      · simp only [value?, List.find?_append, same, if_true]
        cases rest.reverse.find? fun entry => entry.1 = key <;> simp [same]
      · simp [value?, List.find?_append, same]

theorem mem_put {key : String} {value : β} {entries : List (String × β)} {entry : String × β}
    (added : entry ∈ put key value entries) : entry = (key, value) ∨ entry ∈ entries := by
  induction entries with
  | nil => exact .inl (List.mem_singleton.mp added)
  | cons first rest ih =>
      simp only [put] at added
      split at added
      · rcases List.mem_cons.mp added with new | old
        · exact .inl new
        · exact .inr (List.mem_cons_of_mem _ old)
      · split at added
        · exact List.mem_cons.mp added
        · rcases List.mem_cons.mp added with same | later
          · exact .inr (List.mem_cons.mpr (.inl same))
          · exact (ih later).imp_right (List.mem_cons_of_mem _)

theorem ascending_put {entries : List (String × β)} (ascending : Ascending entries)
    (key : String) (value : β) : Ascending (put key value entries) := by
  induction entries with
  | nil => exact List.pairwise_singleton _ _
  | cons first rest ih =>
      obtain ⟨above, ascending⟩ := List.pairwise_cons.mp ascending
      simp only [put]
      split
      · rename_i same
        exact List.pairwise_cons.mpr ⟨fun entry inside => same ▸ above entry inside, ascending⟩
      · rename_i other
        split
        · rename_i before
          refine List.pairwise_cons.mpr ⟨?_, List.pairwise_cons.mpr ⟨above, ascending⟩⟩
          intro entry inside
          rcases List.mem_cons.mp inside with rfl | later
          · exact before
          · exact lt_trans before (above entry later)
        · rename_i notBefore
          refine List.pairwise_cons.mpr ⟨?_, ih ascending⟩
          intro entry inside
          rcases mem_put inside with rfl | later
          · exact lt_of_le_of_ne (not_lt.mp notBefore) (Ne.symm other)
          · exact above entry later

theorem ascending_putAll {done : List (String × β)} (ascending : Ascending done)
    (entries : List (String × β)) : Ascending (putAll entries done) := by
  induction entries generalizing done with
  | nil => exact ascending
  | cons first rest ih => exact ih (ascending_put ascending first.1 first.2)

/-! ### Entries by their values -/

theorem mem_of_value? {key : String} {value : β} {entries : List (String × β)}
    (found : value? key entries = some value) : (key, value) ∈ entries := by
  obtain ⟨entry, first, rfl⟩ := Option.map_eq_some_iff.mp found
  have same : entry.1 = key := by simpa using List.find?_some first
  rw [← same]
  exact List.mem_of_find?_eq_some first

theorem value?_eq_none_iff {key : String} {entries : List (String × β)} :
    value? key entries = none ↔ ∀ entry ∈ entries, entry.1 ≠ key := by
  simp [value?]

theorem Ascending.mem_iff {entries : List (String × β)} (ascending : Ascending entries)
    (key : String) (value : β) : (key, value) ∈ entries ↔ value? key entries = some value := by
  refine ⟨fun member => ?_, mem_of_value?⟩
  induction entries with
  | nil => cases member
  | cons first rest ih =>
      obtain ⟨above, ascending⟩ := List.pairwise_cons.mp ascending
      rcases List.mem_cons.mp member with rfl | later
      · simp [value?]
      · have different : first.1 ≠ key := ne_of_lt (above _ later)
        simpa [value?, different] using ih ascending later

theorem Ascending.eq_of_value? {one other : List (String × β)} (first : Ascending one)
    (second : Ascending other) (same : ∀ key, value? key one = value? key other) :
    one = other := by
  have : Std.Antisymm fun left right : String × β => left.1 < right.1 :=
    ⟨fun _ _ before after => absurd before (lt_asymm after)⟩
  have : Std.Irrefl fun left right : String × β => left.1 < right.1 :=
    ⟨fun _ => lt_irrefl _⟩
  refine List.Pairwise.eq_of_mem_iff first second fun entry => ?_
  rw [first.mem_iff entry.1 entry.2, second.mem_iff entry.1 entry.2, same]

end HttpServer.Entries
