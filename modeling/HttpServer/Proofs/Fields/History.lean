import HttpServer.Proofs.Fields
import HttpServer.Proofs.History
import Mathlib.Data.Finset.Card

/-!
The ordered map as what its history made of it. Each present name has the value that it was set to
last, and names stand in the order in which they came in: a name comes in where it is set first
since its last removal, and later values keep its place.
-/

namespace HttpServer.Fields

open History

/-! ### Histories -/

inductive Edit
  | set (name value : String)
  | remove (name : String)
deriving DecidableEq, Repr

namespace Edit

def name : Edit → String
  | .set name _ => name
  | .remove name => name

def apply (fields : Fields) : Edit → Fields
  | .set name value => fields.set name value
  | .remove name => fields.erase name

end Edit

def ofHistory (history : List Edit) : Fields :=
  history.foldl Edit.apply {}

theorem ofHistory_concat (history : List Edit) (edit : Edit) :
    ofHistory (history ++ [edit]) = edit.apply (ofHistory history) :=
  List.foldl_concat Edit.apply {} edit history

variable {history : List Edit}

def IsIn (history : List Edit) (name : String) : Prop :=
  Stands (fun _ edit => ∃ value, edit = .set name value) (· = .remove name) history

/-- The name came in with the edit at `place`: it was set there while it was not in, and it has not
been removed since. -/
def CameInAt (history : List Edit) (name : String) (place : Nat) : Prop :=
  Stands
    (fun before edit =>
      before.length = place ∧ ¬IsIn before name ∧ ∃ value, edit = .set name value)
    (· = .remove name) history

theorem isIn_iff_exists_cameInAt (history : List Edit) (name : String) :
    IsIn history name ↔ ∃ place, CameInAt history name place := by
  induction history using List.reverseRecOn with
  | nil => exact iff_of_false not_stands_nil fun ⟨_, stands⟩ => not_stands_nil stands
  | append_singleton history edit ih =>
      simp only [IsIn, CameInAt, stands_concat] at ih ⊢
      constructor
      · rintro (set | ⟨stands, left⟩)
        · by_cases known : IsIn history name
          · obtain ⟨place, stands⟩ := ih.mp known
            obtain ⟨value, rfl⟩ := set
            exact ⟨place, .inr ⟨stands, Edit.noConfusion⟩⟩
          · exact ⟨history.length, .inl ⟨rfl, known, set⟩⟩
        · obtain ⟨place, stands⟩ := ih.mp stands
          exact ⟨place, .inr ⟨stands, left⟩⟩
      · rintro ⟨place, ⟨-, -, set⟩ | ⟨stands, left⟩⟩
        · exact .inl set
        · exact .inr ⟨ih.mpr ⟨place, stands⟩, left⟩

theorem CameInAt.lt_length {name : String} {place : Nat} (came : CameInAt history name place) :
    place < history.length := by
  obtain ⟨before, edit, after, rfl, ⟨rfl, -⟩, -⟩ := came
  simp

/-! ### Names -/

theorem nodup_ofHistory (history : List Edit) : (ofHistory history).names.Nodup := by
  induction history using List.reverseRecOn with
  | nil => exact List.nodup_nil
  | append_singleton history edit ih =>
      rw [ofHistory_concat]
      cases edit with
      | set name value => exact nodup_names_set ih name value
      | remove name => exact nodup_names_erase ih name

theorem mem_names_ofHistory (history : List Edit) (name : String) :
    name ∈ (ofHistory history).names ↔ IsIn history name := by
  refine iff_stands (fun edits => name ∈ (ofHistory edits).names) ?_ ?_ history
  · exact List.not_mem_nil
  · intro history edit
    rw [ofHistory_concat]
    cases edit with
    | set other value => simp [Edit.apply, mem_names_set, or_comm, eq_comm]
    | remove other => simp [Edit.apply, mem_names_erase (nodup_ofHistory history), eq_comm]

theorem CameInAt.of_concat {edit : Edit} {name : String} {place : Nat}
    (came : CameInAt (history ++ [edit]) name place) :
    CameInAt history name place ∨
      place = history.length ∧ name ∉ (ofHistory history).names ∧
        ∃ value, edit = .set name value := by
  rcases (stands_concat edit).mp came with ⟨here, fresh, set⟩ | ⟨earlier, -⟩
  · exact .inr ⟨here.symm, mt (mem_names_ofHistory history name).mp fresh, set⟩
  · exact .inl earlier

def ComeInOrder (history : List Edit) (names : List String) : Prop :=
  names.Pairwise fun left right => ∀ place later,
    CameInAt history left place → CameInAt history right later → place < later

theorem ComeInOrder.concat {names : List String} (order : ComeInOrder history names) {edit : Edit}
    (known : ∀ name ∈ names, (∃ value, edit = .set name value) →
      name ∈ (ofHistory history).names) :
    ComeInOrder (history ++ [edit]) names := by
  have earlier {name : String} (member : name ∈ names) {place : Nat}
      (came : CameInAt (history ++ [edit]) name place) : CameInAt history name place :=
    came.of_concat.resolve_right fun ⟨_, fresh, set⟩ => fresh (known name member set)
  refine List.Pairwise.imp_of_mem ?_ order
  intro left right inLeft inRight before place later cameLeft cameRight
  exact before place later (earlier inLeft cameLeft) (earlier inRight cameRight)

theorem comeInOrder_ofHistory (history : List Edit) :
    ComeInOrder history (ofHistory history).names := by
  induction history using List.reverseRecOn with
  | nil => exact List.Pairwise.nil
  | append_singleton history edit ih =>
      rw [ofHistory_concat]
      cases edit with
      | set name value =>
          have old : ComeInOrder (history ++ [.set name value]) (ofHistory history).names :=
            ih.concat fun _ member _ => member
          rw [Edit.apply, names_set]
          split
          · exact old
          · rename_i fresh
            -- Whatever is there came in before the end of the history, where `name` comes in.
            refine List.pairwise_append.mpr ⟨old, List.pairwise_singleton _ _, ?_⟩
            intro left member right last place later cameLeft cameRight
            obtain rfl := List.mem_singleton.mp last
            have before : CameInAt history left place :=
              cameLeft.of_concat.resolve_right fun ⟨_, unknown, _⟩ => unknown member
            rcases cameRight.of_concat with known | ⟨rfl, -⟩
            · have inside := (isIn_iff_exists_cameInAt history right).mpr ⟨later, known⟩
              exact absurd ((mem_names_ofHistory history right).mpr inside) fresh
            · exact before.lt_length
      | remove name =>
          rw [Edit.apply, names_erase (nodup_ofHistory history)]
          have old : ComeInOrder (history ++ [.remove name]) (ofHistory history).names :=
            ih.concat fun _ member _ => member
          exact old.filter _

/-! ### Values -/

theorem get?_ofHistory (history : List Edit) (name value : String) :
    (ofHistory history).get? name = some value ↔
      Stands (fun _ edit => edit = .set name value) (fun edit => edit.name = name) history := by
  refine iff_stands (fun edits => (ofHistory edits).get? name = some value) ?_ ?_ history
  · intro found
    cases found
  · intro history edit
    rw [ofHistory_concat]
    cases edit with
    | set other new =>
        by_cases same : other = name <;> simp [Edit.apply, Edit.name, same]
    | remove other =>
        by_cases same : other = name <;>
          simp [Edit.apply, Edit.name, get?_erase (nodup_ofHistory history), same]

/-! ### The ordered map -/

/-- What the map tells of its history. -/
structure Reflects (history : List Edit) (fields : Fields) : Prop where
  distinct : fields.names.Nodup
  value : ∀ name value, fields.get? name = some value ↔
    Stands (fun _ edit => edit = .set name value) (fun edit => edit.name = name) history
  present : ∀ name, fields.contains name = true ↔ ∃ value, fields.get? name = some value
  cameIn : ∀ name, fields.contains name = true ↔ ∃ place, CameInAt history name place
  size : ∃ present : Finset String,
    (∀ name, name ∈ present ↔ fields.contains name = true) ∧ fields.size = present.card
  isEmpty : fields.isEmpty = true ↔ ∀ name, fields.contains name = false
  entries : ∀ name value, (name, value) ∈ fields.entries ↔ fields.get? name = some value
  order : ComeInOrder history (fields.entries.map Prod.fst)
  remove : ∀ name, fields.remove name =
    (fields.get? name, ⟨fields.entries.filter fun entry => entry.1 ≠ name⟩)

theorem isEmpty_iff_forall (fields : Fields) :
    fields.isEmpty = true ↔ ∀ name, fields.contains name = false := by
  simp only [← Bool.not_eq_true, contains_iff_mem_names]
  rw [isEmpty, List.isEmpty_iff, ← List.eq_nil_iff_forall_not_mem, names, List.map_eq_nil_iff]

/-- Every history of sets and removals leaves an ordered map. -/
theorem ofHistory_reflects (history : List Edit) : Reflects history (ofHistory history) where
  distinct := nodup_ofHistory history
  value := get?_ofHistory history
  present := fun name => Option.isSome_iff_exists
  cameIn := by
    intro name
    rw [contains_iff_mem_names, mem_names_ofHistory, isIn_iff_exists_cameInAt]
  size := by
    refine ⟨(ofHistory history).names.toFinset, fun name => ?_, ?_⟩
    · rw [List.mem_toFinset, contains_iff_mem_names]
    · rw [List.toFinset_card_of_nodup (nodup_ofHistory history)]
      exact (List.length_map Prod.fst).symm
  isEmpty := isEmpty_iff_forall (ofHistory history)
  entries := mem_entries_iff (nodup_ofHistory history)
  order := comeInOrder_ofHistory history
  remove := remove_eq (nodup_ofHistory history)

example :
    (ofHistory [.set "A" "1", .set "B" "2", .remove "A", .set "A" "3", .set "B" "4"]).entries =
      [("B", "4"), ("A", "3")] := by decide

end HttpServer.Fields
