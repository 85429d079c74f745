import HttpServer.Json.Basic
import HttpServer.Text.Decimal
import HttpServer.Proofs.Entries

/-!
Documents and their members. Members that are added one after another stand in ascending order of
their keys, and of each key the last value is kept. A document that is built of such objects only
is its own normal form.
-/

namespace HttpServer.Json

/-! ### Parts of a document -/

def parts : Json → List Json
  | .array items => items
  | .object members => members.map Prod.snd
  | _ => []

def isNested : Json → Bool
  | .array _ | .object _ => true
  | _ => false

inductive Throughout (holds : Json → Prop) : Json → Prop
  | intro {document : Json} (here : holds document)
      (inside : ∀ part ∈ document.parts, Throughout holds part) : Throughout holds document

theorem Throughout.here {holds : Json → Prop} {document : Json}
    (all : document.Throughout holds) : holds document := by
  obtain ⟨here, -⟩ := all
  exact here

inductive Nests : Nat → Json → Prop
  | flat {levels : Nat} {document : Json} (single : document.isNested = false) :
      Nests levels document
  | nested {levels : Nat} {document : Json}
      (inside : ∀ part ∈ document.parts, Nests levels part) : Nests (levels + 1) document

def Number.IsWord : Number → Prop
  | .natural value => value ≤ maxWord
  | .negative magnitude => 0 < magnitude ∧ magnitude ≤ 2 ^ 63
  | .double _ => False

def IsWord : Json → Prop
  | .number value => value.IsWord
  | _ => True

def Ascending (members : List (String × Json)) : Prop :=
  members.Pairwise fun left right => left.1 < right.1

def IsAscending : Json → Prop
  | .object members => Ascending members
  | _ => True

def Integral (document : Json) : Prop :=
  document.Throughout IsWord

def InOrder (document : Json) : Prop :=
  document.Throughout IsAscending

/-- What every document is like that is read with nesting up to `levels`. -/
def Regular (levels : Nat) (document : Json) : Prop :=
  Nests levels document ∧ document.InOrder

theorem regular_of_flat {document : Json} (single : document.isNested = false) (levels : Nat) :
    Regular levels document := by
  refine ⟨.flat single, ?_⟩
  cases document with
  | array items => cases single
  | object members => cases single
  | null => exact .intro trivial (by simp [parts])
  | bool value => exact .intro trivial (by simp [parts])
  | number value => exact .intro trivial (by simp [parts])
  | string text => exact .intro trivial (by simp [parts])

theorem regular_array {levels : Nat} {items : List Json}
    (regular : ∀ item ∈ items, Regular levels item) : Regular (levels + 1) (.array items) :=
  ⟨.nested fun part member => (regular part member).1,
    .intro trivial fun part member => (regular part member).2⟩

theorem regular_object {levels : Nat} {members : List (String × Json)}
    (ascending : Ascending members) (regular : ∀ entry ∈ members, Regular levels entry.2) :
    Regular (levels + 1) (.object members) := by
  have inside : ∀ part ∈ (Json.object members).parts, Regular levels part := by
    intro part member
    obtain ⟨entry, there, rfl⟩ := List.mem_map.mp member
    exact regular entry there
  exact ⟨.nested fun part member => (inside part member).1,
    .intro ascending fun part member => (inside part member).2⟩

theorem integral_object {members : List (String × Json)}
    (integral : ∀ entry ∈ members, entry.2.Integral) : (Json.object members).Integral := by
  refine .intro trivial ?_
  intro part member
  obtain ⟨entry, there, rfl⟩ := List.mem_map.mp member
  exact integral entry there

/-! ### Adding members -/

def member? (key : String) (members : List (String × Json)) : Option Json :=
  (members.find? fun member => member.1 = key).map Prod.snd

theorem addMember_eq_put (key : String) (value : Json) (members : List (String × Json)) :
    addMember key value members = Entries.put key value members := by
  induction members with
  | nil => rfl
  | cons member rest ih => simp only [addMember, Entries.put, ih]

theorem foldl_addMember_eq_putAll (members done : List (String × Json)) :
    members.foldl (fun object member => addMember member.1 member.2 object) done =
      Entries.putAll members done := by
  simp only [addMember_eq_put, Entries.putAll]

theorem member?_foldl_addMember (key : String) (members done : List (String × Json)) :
    member? key (members.foldl (fun object member => addMember member.1 member.2 object) done) =
      (member? key members.reverse).or (member? key done) := by
  rw [foldl_addMember_eq_putAll]
  exact Entries.value?_putAll key members done

theorem mem_addMember {key : String} {value : Json} {members : List (String × Json)}
    {member : String × Json} (added : member ∈ addMember key value members) :
    member = (key, value) ∨ member ∈ members := by
  rw [addMember_eq_put] at added
  exact Entries.mem_put added

theorem ascending_addMember {members : List (String × Json)} (ascending : Ascending members)
    (key : String) (value : Json) : Ascending (addMember key value members) := by
  rw [addMember_eq_put]
  exact Entries.ascending_put ascending key value

theorem mem_foldl_addMember {members done : List (String × Json)} {entry : String × Json}
    (member : entry ∈ members.foldl (fun object entry => addMember entry.1 entry.2 object) done) :
    entry ∈ members ∨ entry ∈ done := by
  induction members generalizing done with
  | nil => exact .inr member
  | cons first rest ih =>
      rcases ih member with later | earlier
      · exact .inl (List.mem_cons_of_mem _ later)
      · exact (mem_addMember earlier).imp_left fun same => List.mem_cons.mpr (.inl same)

theorem ascending_foldl_addMember {done : List (String × Json)} (ascending : Ascending done)
    (members : List (String × Json)) :
    Ascending (members.foldl (fun object entry => addMember entry.1 entry.2 object) done) := by
  rw [foldl_addMember_eq_putAll]
  exact Entries.ascending_putAll ascending members

theorem addMember_of_forall_lt {key : String} {members : List (String × Json)}
    (below : ∀ member ∈ members, member.1 < key) (value : Json) :
    addMember key value members = members ++ [(key, value)] := by
  induction members with
  | nil => rfl
  | cons first rest ih =>
      have lower := below first List.mem_cons_self
      rw [addMember, if_neg (ne_of_gt lower), if_neg (not_lt_of_gt lower),
        ih fun member inside => below member (List.mem_cons_of_mem _ inside), List.cons_append]

theorem foldl_addMember_of_ascending {done members : List (String × Json)}
    (ascending : Ascending (done ++ members)) :
    members.foldl (fun object member => addMember member.1 member.2 object) done =
      done ++ members := by
  induction members generalizing done with
  | nil => simp
  | cons member rest ih =>
      have split := List.pairwise_append.mp ascending
      have below : ∀ other ∈ done, other.1 < member.1 := fun other inside =>
        split.2.2 other inside member List.mem_cons_self
      rw [List.foldl_cons, addMember_of_forall_lt below, ih]
      · simp
      · simpa using ascending

theorem ofMembers_of_ascending {members : List (String × Json)} (ascending : Ascending members) :
    ofMembers members = .object members := by
  have whole := @foldl_addMember_of_ascending [] members ascending
  rw [ofMembers, whole, List.nil_append]

/-! ### Normal forms -/

mutual

/-- A document in which each object has kept the last value of each key, in ascending order. -/
def normal : Json → Json
  | .array items => .array (normalItems items)
  | .object members => ofMembers (normalMembers members)
  | document => document

def normalItems : List Json → List Json
  | [] => []
  | item :: rest => normal item :: normalItems rest

def normalMembers : List (String × Json) → List (String × Json)
  | [] => []
  | (key, value) :: rest => (key, normal value) :: normalMembers rest

end

theorem normalItems_eq_map (items : List Json) : normalItems items = items.map normal := by
  induction items with
  | nil => rfl
  | cons item rest ih => rw [normalItems, ih, List.map_cons]

theorem normalMembers_eq_map (members : List (String × Json)) :
    normalMembers members = members.map fun entry => (entry.1, entry.2.normal) := by
  induction members with
  | nil => rfl
  | cons entry rest ih => rw [normalMembers, ih, List.map_cons]

theorem InOrder.normal_eq {document : Json} (ordered : document.InOrder) :
    document.normal = document := by
  induction ordered with
  | @intro document here inside ih =>
      cases document with
      | array items =>
          have same : ∀ item ∈ items, item.normal = item := ih
          rw [normal, normalItems_eq_map, List.map_congr_left same, List.map_id']
      | object members =>
          have same : ∀ entry ∈ members, (entry.1, entry.2.normal) = entry := by
            intro entry there
            rw [ih entry.2 (List.mem_map_of_mem there)]
          rw [normal, normalMembers_eq_map, List.map_congr_left same, List.map_id',
            ofMembers_of_ascending here]
      | null => rfl
      | bool value => rfl
      | number value => rfl
      | string text => rfl

theorem Integral.normal {document : Json} (integral : document.Integral) :
    document.normal.Integral := by
  induction integral with
  | @intro document here inside ih =>
      cases document with
      | array items =>
          refine .intro trivial ?_
          intro part member
          change part ∈ normalItems items at member
          rw [normalItems_eq_map] at member
          obtain ⟨item, there, rfl⟩ := List.mem_map.mp member
          exact ih item there
      | object members =>
          refine .intro trivial ?_
          intro part member
          obtain ⟨entry, kept, rfl⟩ := List.mem_map.mp member
          rcases mem_foldl_addMember kept with added | nothing
          · rw [normalMembers_eq_map] at added
            obtain ⟨other, there, rfl⟩ := List.mem_map.mp added
            exact ih other.2 (List.mem_map_of_mem there)
          · cases nothing
      | null => exact .intro here inside
      | bool value => exact .intro here inside
      | number value => exact .intro here inside
      | string text => exact .intro here inside

theorem normal_object (members : List (String × Json)) :
    ∃ kept, (object members).normal = .object kept ∧ Ascending kept ∧
      ∀ key, member? key kept = (member? key members.reverse).map normal := by
  refine ⟨_, rfl, ascending_foldl_addMember .nil _, ?_⟩
  intro key
  rw [member?_foldl_addMember, normalMembers_eq_map, ← List.map_reverse]
  simp only [member?, List.find?_map, List.find?_nil, Option.map_none, Option.or_none,
    Option.map_map]
  rfl

end HttpServer.Json
