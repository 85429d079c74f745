import HttpServer.Fields
import Mathlib.Data.List.Nodup

/-!
The laws of the ordered map: what setting a name does to lookups, to the names and their order,
and to the entries.
-/

namespace HttpServer.Fields

/-! ### Lookups -/

theorem getEntry?_setEntry (name value other : String) (entries : List (String × String)) :
    getEntry? other (setEntry name value entries) =
      if name = other then some value else getEntry? other entries := by
  induction entries with
  | nil => rfl
  | cons entry rest ih =>
      by_cases here : entry.1 = name
      · by_cases same : name = other
        · simp [setEntry, getEntry?, here, same]
        · simp [setEntry, getEntry?, here, same]
      · by_cases first : entry.1 = other
        · subst first
          have different : name ≠ entry.1 := fun same => here same.symm
          simp [setEntry, getEntry?, here, different]
        · simp [setEntry, getEntry?, here, first, ih]

@[simp] theorem get?_set (fields : Fields) (name value other : String) :
    (fields.set name value).get? other = if name = other then some value else fields.get? other :=
  getEntry?_setEntry name value other fields.entries

def store (fields : Fields) (pairs : List (String × String)) : Fields :=
  pairs.foldl (fun fields pair => fields.set pair.1 pair.2) fields

theorem store_append (fields : Fields) (first rest : List (String × String)) :
    fields.store (first ++ rest) = (fields.store first).store rest := by
  simp [store]

theorem get?_store (fields : Fields) (pairs : List (String × String)) (name : String) :
    (fields.store pairs).get? name =
      ((pairs.reverse.find? fun pair => pair.1 = name).map Prod.snd).or (fields.get? name) := by
  induction pairs generalizing fields with
  | nil => rfl
  | cons pair rest ih =>
      change ((fields.set pair.1 pair.2).store rest).get? name = _
      rw [ih, get?_set, List.reverse_cons, List.find?_append]
      by_cases same : pair.1 = name
      · cases rest.reverse.find? fun pair => pair.1 = name <;> simp [same]
      · simp [same]

theorem get?_store_eq_some_iff (pairs : List (String × String)) (name value : String) :
    (Fields.store {} pairs).get? name = some value ↔
      ∃ front rest, pairs = front ++ (name, value) :: rest ∧ ∀ later ∈ rest, later.1 ≠ name := by
  have found : (Fields.store {} pairs).get? name =
      (pairs.reverse.find? fun pair => pair.1 = name).map Prod.snd :=
    (get?_store {} pairs name).trans Option.or_none
  rw [found, Option.map_eq_some_iff]
  constructor
  · rintro ⟨pair, last, rfl⟩
    obtain ⟨named, rest, front, split, others⟩ := List.find?_eq_some_iff_append.mp last
    obtain rfl : pair.1 = name := by simpa using named
    refine ⟨front.reverse, rest.reverse, ?_, ?_⟩
    · rw [← List.reverse_reverse pairs, split]
      simp
    · intro later member
      simpa using others later (List.mem_reverse.mp member)
  · rintro ⟨front, rest, rfl, others⟩
    refine ⟨(name, value), ?_, rfl⟩
    refine List.find?_eq_some_iff_append.mpr ⟨by simp, rest.reverse, front.reverse, by simp, ?_⟩
    intro later member
    simpa using others later (List.mem_reverse.mp member)

/-! ### Names -/

theorem map_fst_setEntry (name value : String) (entries : List (String × String)) :
    (setEntry name value entries).map Prod.fst =
      if name ∈ entries.map Prod.fst then entries.map Prod.fst
      else entries.map Prod.fst ++ [name] := by
  induction entries with
  | nil => rfl
  | cons entry rest ih =>
      by_cases here : entry.1 = name
      · simp [setEntry, here]
      · have there : name ≠ entry.1 := fun same => here same.symm
        simp only [setEntry, here, ↓reduceIte, List.map_cons, ih, List.mem_cons, there, false_or]
        split <;> simp

theorem names_set (fields : Fields) (name value : String) :
    (fields.set name value).names =
      if name ∈ fields.names then fields.names else fields.names ++ [name] :=
  map_fst_setEntry name value fields.entries

theorem size_set_le (fields : Fields) (name value : String) :
    (fields.set name value).size ≤ fields.size + 1 := by
  have count (fields : Fields) : fields.size = fields.names.length :=
    (List.length_map Prod.fst).symm
  rw [count, count, names_set]
  split <;> simp

theorem nodup_names_set {fields : Fields} (distinct : fields.names.Nodup) (name value : String) :
    (fields.set name value).names.Nodup := by
  rw [names_set]
  split
  · exact distinct
  · rename_i absent
    rw [List.nodup_append]
    refine ⟨distinct, by simp, ?_⟩
    intro other member last isLast same
    exact absent (by simpa [List.mem_singleton.mp isLast ▸ same] using member)

theorem nodup_names_store {fields : Fields} (distinct : fields.names.Nodup)
    (pairs : List (String × String)) : (fields.store pairs).names.Nodup := by
  induction pairs generalizing fields with
  | nil => exact distinct
  | cons pair rest ih => exact ih (nodup_names_set distinct pair.1 pair.2)

theorem mem_names_set {fields : Fields} {name value other : String} :
    other ∈ (fields.set name value).names ↔ other ∈ fields.names ∨ other = name := by
  rw [names_set]
  split
  · rename_i present
    exact (or_iff_left_of_imp fun same => same ▸ present).symm
  · rw [List.mem_append, List.mem_singleton]

theorem mem_names_store (fields : Fields) (pairs : List (String × String)) (name : String) :
    name ∈ (fields.store pairs).names ↔ name ∈ fields.names ∨ ∃ value, (name, value) ∈ pairs := by
  induction pairs generalizing fields with
  | nil => simp [store]
  | cons pair rest ih =>
      change name ∈ ((fields.set pair.1 pair.2).store rest).names ↔ _
      rw [ih, mem_names_set, or_assoc]
      refine or_congr_right ?_
      constructor
      · rintro (rfl | ⟨value, member⟩)
        · exact ⟨pair.2, List.mem_cons_self⟩
        · exact ⟨value, List.mem_cons_of_mem _ member⟩
      · rintro ⟨value, member⟩
        rcases List.mem_cons.mp member with rfl | later
        · exact .inl rfl
        · exact .inr ⟨value, later⟩

theorem isSome_getEntry_iff (name : String) (entries : List (String × String)) :
    ( getEntry? name entries).isSome = true ↔ name ∈ entries.map Prod.fst := by
  induction entries with
  | nil => simp [ getEntry?]
  | cons entry rest ih =>
      by_cases here : entry.1 = name
      · simp [ getEntry?, here]
      · have there : name ≠ entry.1 := fun same => here same.symm
        simp only [ getEntry?, here, ↓reduceIte, ih, List.map_cons, List.mem_cons, there, false_or]

theorem contains_iff_mem_names (fields : Fields) (name : String) :
    fields.contains name = true ↔ name ∈ fields.names :=
  isSome_getEntry_iff name fields.entries

theorem mem_names_of_get? {fields : Fields} {name value : String}
    (found : fields.get? name = some value) : name ∈ fields.names :=
  (contains_iff_mem_names fields name).mp (Option.isSome_of_eq_some found)

/-! ### Entries -/

theorem mem_setEntry {name value : String} {entries : List (String × String)}
    {entry : String × String} (member : entry ∈ setEntry name value entries) :
    entry = (name, value) ∨ entry ∈ entries := by
  induction entries with
  | nil => simpa [setEntry] using member
  | cons first rest ih =>
      by_cases here : first.1 = name
      · simp only [setEntry, here, ↓reduceIte, List.mem_cons] at member
        exact member.imp_right (List.mem_cons_of_mem _)
      · simp only [setEntry, here, ↓reduceIte, List.mem_cons] at member
        rcases member with same | later
        · exact Or.inr (by simp [same])
        · exact (ih later).imp_right (List.mem_cons_of_mem _)

theorem mem_entries_iff {fields : Fields} (distinct : fields.names.Nodup) (name value : String) :
    (name, value) ∈ fields.entries ↔ fields.get? name = some value := by
  have main (entries : List (String × String)) (distinct : (entries.map Prod.fst).Nodup) :
      (name, value) ∈ entries ↔ getEntry? name entries = some value := by
    induction entries with
    | nil => simp [ getEntry?]
    | cons entry rest ih =>
        obtain ⟨fresh, distinct⟩ := List.nodup_cons.mp distinct
        by_cases here : entry.1 = name
        · subst here
          have later : (entry.1, value) ∉ rest := fun member =>
            fresh (List.mem_map.mpr ⟨_, member, rfl⟩)
          simp [ getEntry?, later, Prod.ext_iff, eq_comm]
        · have other : (name, value) ≠ entry := fun same => here (same ▸ rfl)
          simp only [List.mem_cons, other, false_or, ih distinct, getEntry?, here, ↓reduceIte]
  exact main fields.entries distinct

theorem filter_setEntry {keep : String → Bool} {name : String} (dropped : keep name = false)
    (value : String) (entries : List (String × String)) :
    (setEntry name value entries).filter (fun entry => keep entry.1) =
      entries.filter fun entry => keep entry.1 := by
  induction entries with
  | nil => simp [setEntry, dropped]
  | cons entry rest ih =>
      by_cases here : entry.1 = name
      · simp [setEntry, here, dropped]
      · simp [setEntry, here, List.filter_cons, ih]

/-! ### Removals -/

theorem removeEntry_eq {name : String} {entries : List (String × String)}
    (distinct : (entries.map Prod.fst).Nodup) :
    removeEntry name entries =
      ( getEntry? name entries, entries.filter fun entry => entry.1 ≠ name) := by
  induction entries with
  | nil => rfl
  | cons entry rest ih =>
      obtain ⟨fresh, distinct⟩ := List.nodup_cons.mp distinct
      by_cases here : entry.1 = name
      -- The name does not come again, so the first entry is all that goes.
      · have kept : rest.filter (fun entry => entry.1 ≠ name) = rest := by
          refine List.filter_eq_self.mpr fun other member => decide_eq_true ?_
          rintro rfl
          exact fresh (here ▸ List.mem_map_of_mem member)
        rw [List.filter_cons_of_neg (by simp [here]), kept]
        simp [removeEntry, getEntry?, here]
      · simp [removeEntry, getEntry?, here, ih distinct]

theorem remove_eq {fields : Fields} (distinct : fields.names.Nodup) (name : String) :
    fields.remove name =
      (fields.get? name, ⟨fields.entries.filter fun entry => entry.1 ≠ name⟩) := by
  simp only [remove, removeEntry_eq distinct, get?]

theorem names_erase {fields : Fields} (distinct : fields.names.Nodup) (name : String) :
    (fields.erase name).names = fields.names.filter (· ≠ name) := by
  rw [erase, remove_eq distinct]
  simp only [names, List.filter_map]
  rfl

theorem nodup_names_erase {fields : Fields} (distinct : fields.names.Nodup) (name : String) :
    (fields.erase name).names.Nodup := by
  rw [names_erase distinct]
  exact distinct.filter _

theorem mem_names_erase {fields : Fields} (distinct : fields.names.Nodup) {name other : String} :
    other ∈ (fields.erase name).names ↔ other ∈ fields.names ∧ other ≠ name := by
  rw [names_erase distinct, List.mem_filter, decide_eq_true_iff]

theorem get?_erase {fields : Fields} (distinct : fields.names.Nodup) (name other : String) :
    (fields.erase name).get? other = if name = other then none else fields.get? other := by
  ext value
  have left : (other, value) ∈ (fields.erase name).entries ↔
      (other, value) ∈ fields.entries ∧ other ≠ name := by
    rw [erase, remove_eq distinct, List.mem_filter, decide_eq_true_iff]
  rw [← mem_entries_iff (nodup_names_erase distinct name), left, mem_entries_iff distinct]
  by_cases same : name = other
  · simp [same]
  · simp [same, Ne.symm same]

end HttpServer.Fields
