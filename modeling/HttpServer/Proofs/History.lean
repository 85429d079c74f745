import Mathlib.Data.List.Basic
import Mathlib.Data.List.Induction

/-!
What stands after a history of events, the oldest first: it was made at some point, and nothing
that came later undid it. One more event either makes it anew, or has to leave it alone.
-/

namespace HttpServer.History

variable {ε : Type} {makes : List ε → ε → Prop} {undoes : ε → Prop} {history : List ε}

/-- An event made it, given the events before, and no later event undid it. -/
def Stands (makes : List ε → ε → Prop) (undoes : ε → Prop) (history : List ε) : Prop :=
  ∃ before event after, history = before ++ event :: after ∧ makes before event ∧
    ∀ later ∈ after, ¬undoes later

theorem not_stands_nil : ¬Stands makes undoes [] := by
  rintro ⟨before, event, after, split, -⟩
  simp at split

theorem stands_concat (event : ε) :
    Stands makes undoes (history ++ [event]) ↔
      makes history event ∨ (Stands makes undoes history ∧ ¬undoes event) := by
  constructor
  · rintro ⟨before, made, after, split, making, left⟩
    rcases List.eq_nil_or_concat' after with rfl | ⟨after, last, rfl⟩
    · obtain ⟨rfl, rfl⟩ := List.append_singleton_inj.mp split
      exact .inl making
    · rw [← List.cons_append, ← List.append_assoc] at split
      obtain ⟨rfl, rfl⟩ := List.append_singleton_inj.mp split
      obtain ⟨earlier, here⟩ := List.forall_mem_append.mp left
      exact .inr ⟨⟨before, made, after, rfl, making, earlier⟩, here event List.mem_cons_self⟩
  · rintro (making | ⟨⟨before, made, after, rfl, making, left⟩, leaves⟩)
    · exact ⟨history, event, [], rfl, making, List.forall_mem_nil _⟩
    · refine ⟨before, made, after ++ [event], by simp, making, ?_⟩
      exact List.forall_mem_append.mpr ⟨left, List.forall_mem_singleton.mpr leaves⟩

/-- Whatever does not hold to begin with, and is made, undone or left alone by each event, holds
where it stands. -/
theorem iff_stands (holds : List ε → Prop) (initially : ¬holds [])
    (step : ∀ history event,
      holds (history ++ [event]) ↔ makes history event ∨ (holds history ∧ ¬undoes event))
    (history : List ε) : holds history ↔ Stands makes undoes history := by
  induction history using List.reverseRecOn with
  | nil => exact iff_of_false initially not_stands_nil
  | append_singleton history event ih => rw [step, ih, stands_concat]

end HttpServer.History
