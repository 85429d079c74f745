import HttpServer.Proofs.Framing.DeclaredLength

/-!
How much is read for one request. Reads that are not the last deliver bytes or are interrupted;
then the connection ends or fails. Reading stops at the first read that completes the request, and
how many bytes complete it does not depend on how they are divided among the reads.
-/

namespace HttpServer.Framing

/-! ### Reads -/

namespace Delivery

def bytes : Delivery → Bytes
  | .data bytes => bytes
  | _ => []

def GoesOn : Delivery → Prop
  | .data bytes => bytes ≠ [] ∧ bytes.length ≤ readSize
  | .interrupted => True
  | .failure _ => False

instance : DecidablePred GoesOn
  | .data bytes => inferInstanceAs (Decidable (bytes ≠ [] ∧ bytes.length ≤ readSize))
  | .interrupted => inferInstanceAs (Decidable True)
  | .failure _ => inferInstanceAs (Decidable False)

end Delivery

def gathered (reads : List Delivery) : Bytes :=
  reads.flatMap Delivery.bytes

inductive Ending
  | silence
  | closed
  | failure (error : IoError)
deriving DecidableEq, Repr

namespace Ending

def deliveries : Ending → List Delivery
  | .silence => []
  | .closed => [.data []]
  | .failure error => [.failure error]

def result (ending : Ending) (received : Bytes) : Except IoError Bytes :=
  match ending with
  | .failure error => .error error
  | _ => .ok received

end Ending

@[simp] theorem gathered_nil : gathered [] = [] := rfl

@[simp] theorem gathered_cons (delivery : Delivery) (rest : List Delivery) :
    gathered (delivery :: rest) = delivery.bytes ++ gathered rest := rfl

@[simp] theorem gathered_append (first rest : List Delivery) :
    gathered (first ++ rest) = gathered first ++ gathered rest := by
  simp [gathered]

/-! ### What is needed -/

/-- The bytes that a request takes of all that is sent: up to the end of its head and as many more
as it declares, but no more than `maxRequest`; as many as that if no head ends there. -/
def Needs (sent : Bytes) (need : Nat) : Prop :=
  (∃ headEnd, IsLeast (headEnds sent) headEnd ∧ headEnd ≤ maxRequest ∧
    need = min (headEnd + declaredLength (sent.take headEnd)) maxRequest) ∨
  (∀ headEnd, IsLeast (headEnds sent) headEnd → maxRequest < headEnd) ∧ need = maxRequest

theorem needs_iff {sent : Bytes} {need : Nat} : Needs sent need ↔ need = wanted sent := by
  cases found : headEnd? sent with
  | none =>
      have nothing (headEnd : Nat) : ¬IsLeast (headEnds sent) headEnd := fun least => by
        rw [headEnd?_eq_some_iff.mpr least] at found
        cases found
      simp [Needs, wanted, found, nothing]
  | some headEnd =>
      have least := headEnd?_eq_some_iff.mp found
      have only (other : Nat) : IsLeast (headEnds sent) other ↔ other = headEnd :=
        ⟨fun also => also.unique least, fun same => same ▸ least⟩
      rw [wanted_of_headEnd? found]
      simp only [Needs, only, exists_eq_left, forall_eq]
      omega

theorem wanted_le (received : Bytes) : wanted received ≤ maxRequest := by
  unfold wanted
  split
  · exact Nat.min_le_right _ _
  · exact Nat.le_refl _

theorem wanted_le_iff (received rest : Bytes) :
    wanted received ≤ received.length ↔ wanted (received ++ rest) ≤ received.length := by
  cases found : headEnd? received with
  | some headEnd =>
      have within := (headEnd?_eq_some_iff.mp found).1.1
      rw [wanted_of_headEnd? found, wanted_of_headEnd? (headEnd?_append found rest),
        List.take_append_of_le_length within]
  | none =>
      -- As much as possible is awaited now. A head that is found later ends beyond these bytes.
      have early : wanted received = maxRequest := by simp only [wanted, found]
      cases later : headEnd? (received ++ rest) with
      | none => simp only [wanted, found, later]
      | some headEnd =>
          have beyond := length_lt_of_headEnd? found later
          rw [early, wanted_of_headEnd? later]
          omega

/-! ### One read -/

theorem readFrom_enough {received : Bytes} (enough : wanted received ≤ received.length)
    (reads : Nat) (deliveries : List Delivery) :
    readFrom received reads deliveries = ⟨.ok (received.take maxRequest), reads, deliveries⟩ := by
  cases deliveries <;> simp only [readFrom, enough, ↓reduceIte]

theorem readFrom_goesOn {received : Bytes} (short : received.length < wanted received)
    {delivery : Delivery} (goesOn : delivery.GoesOn) (reads : Nat) (rest : List Delivery) :
    readFrom received reads (delivery :: rest) =
      readFrom (received ++ delivery.bytes) (reads + 1) rest := by
  have unfinished : ¬wanted received ≤ received.length := Nat.not_le.mpr short
  cases delivery with
  | data bytes =>
      cases bytes with
      | nil => exact absurd rfl goesOn.1
      | cons byte more => simp only [readFrom, unfinished, ↓reduceIte, Delivery.bytes]
  | interrupted => simp only [readFrom, unfinished, ↓reduceIte, Delivery.bytes, List.append_nil]
  | failure error => cases goesOn

theorem readFrom_ending {received : Bytes} (short : received.length < wanted received)
    (ending : Ending) (reads : Nat) :
    readFrom received reads ending.deliveries = ⟨ending.result received, reads + 1, []⟩ := by
  have unfinished : ¬wanted received ≤ received.length := Nat.not_le.mpr short
  have whole : received.take maxRequest = received :=
    List.take_of_length_le (Nat.le_of_lt (Nat.lt_of_lt_of_le short (wanted_le received)))
  cases ending <;>
    simp only [Ending.deliveries, Ending.result, readFrom, unfinished, ↓reduceIte, whole]

/-! ### All reads -/

structure Completes (need : Nat) (reads before after : List Delivery) : Prop where
  split : reads = before ++ after
  enough : need ≤ (gathered before).length
  first : ∀ fewer, fewer <+: before → fewer ≠ before → (gathered fewer).length < need

theorem exists_completes {need : Nat} {reads : List Delivery}
    (enough : need ≤ (gathered reads).length) :
    ∃ before after, Completes need reads before after := by
  induction reads generalizing need with
  | nil =>
      refine ⟨[], [], rfl, enough, ?_⟩
      intro fewer begins other
      exact absurd (List.prefix_nil.mp begins) other
  | cons delivery rest ih =>
      rw [gathered_cons, List.length_append] at enough
      by_cases nothing : need = 0
      · refine ⟨[], delivery :: rest, rfl, by omega, ?_⟩
        intro fewer begins other
        exact absurd (List.prefix_nil.mp begins) other
      · have later : need - delivery.bytes.length ≤ (gathered rest).length := by omega
        obtain ⟨before, after, split, reached, first⟩ := ih later
        refine ⟨delivery :: before, after, by rw [split, List.cons_append], ?_, ?_⟩
        · rw [gathered_cons, List.length_append]
          omega
        · intro fewer begins other
          cases fewer with
          | nil =>
              rw [gathered_nil, List.length_nil]
              omega
          | cons head fewer =>
              obtain ⟨rfl, within⟩ := List.cons_prefix_cons.mp begins
              have short := first fewer within fun same => other (by rw [same])
              rw [gathered_cons, List.length_append]
              omega

theorem Completes.gathered_eq {need : Nat} {reads before after : List Delivery}
    (completes : Completes need reads before after) (exact : (gathered reads).length = need) :
    gathered before = gathered reads := by
  have enough := completes.enough
  rw [completes.split, gathered_append] at exact ⊢
  rw [List.length_append] at exact
  have nothing : gathered after = [] := List.eq_nil_of_length_eq_zero (by omega)
  rw [nothing, List.append_nil]

theorem readFrom_completes {before : List Delivery}
    (goesOn : ∀ delivery ∈ before, delivery.GoesOn) {received sent rest : Bytes}
    (split : sent = received ++ (gathered before ++ rest))
    (enough : wanted sent ≤ (received ++ gathered before).length)
    (first : ∀ fewer, fewer <+: before → fewer ≠ before →
      (received ++ gathered fewer).length < wanted sent)
    (reads : Nat) (after : List Delivery) :
    readFrom received reads (before ++ after) =
      ⟨.ok ((received ++ gathered before).take maxRequest), reads + before.length, after⟩ := by
  -- What was received grows with each read, while all that is sent stays the same.
  induction before generalizing received reads with
  | nil =>
      rw [gathered_nil, List.append_nil] at enough
      have now : wanted received ≤ received.length := by
        rw [wanted_le_iff received (gathered [] ++ rest), ← split]
        exact enough
      simpa using readFrom_enough now reads after
  | cons delivery before ih =>
      have short : received.length < wanted received := by
        have early := first [] List.nil_prefix (by simp)
        rw [gathered_nil, List.append_nil, split] at early
        rw [← Nat.not_le] at early ⊢
        exact fun now => early ((wanted_le_iff received _).mp now)
      have join (more : List Delivery) : (received ++ delivery.bytes) ++ gathered more =
          received ++ gathered (delivery :: more) := by simp
      have later : sent = (received ++ delivery.bytes) ++ (gathered before ++ rest) := by
        rw [split]
        simp
      have first' : ∀ fewer, fewer <+: before → fewer ≠ before →
          ((received ++ delivery.bytes) ++ gathered fewer).length < wanted sent := by
        intro fewer begins other
        rw [join]
        refine first (delivery :: fewer) (List.cons_prefix_cons.mpr ⟨rfl, begins⟩) ?_
        exact fun same => other (List.cons_inj_right delivery |>.mp same)
      rw [List.cons_append, readFrom_goesOn short (goesOn delivery (by simp)),
        ih (fun other member => goesOn other (by simp [member])) later (join before ▸ enough)
          first', join, List.length_cons, Nat.add_right_comm, Nat.add_assoc]

theorem readFrom_short {received : Bytes} {deliveries : List Delivery}
    (goesOn : ∀ delivery ∈ deliveries, delivery.GoesOn)
    (short : (received ++ gathered deliveries).length < wanted (received ++ gathered deliveries))
    (ending : Ending) (reads : Nat) :
    readFrom received reads (deliveries ++ ending.deliveries) =
      ⟨ending.result (received ++ gathered deliveries), reads + deliveries.length + 1, []⟩ := by
  induction deliveries generalizing received reads with
  | nil =>
      rw [gathered_nil, List.append_nil] at short ⊢
      exact readFrom_ending short ending reads
  | cons delivery rest ih =>
      have early : received.length < wanted received := by
        by_contra now
        have later := (wanted_le_iff received (gathered (delivery :: rest))).mp (Nat.not_lt.mp now)
        rw [List.length_append] at short
        omega
      rw [List.cons_append, readFrom_goesOn early (goesOn delivery (by simp)),
        ih (fun other member => goesOn other (by simp [member])) (by simpa using short),
        gathered_cons, List.append_assoc, List.length_cons]
      congr 1
      omega

/-! ### Reads that the buffer holds -/

theorem chunksFrom_of_le {size room : Nat} {input : Bytes} (fits : input.length ≤ room)
    (done : List Bytes) (chunk : Bytes) :
    chunksFrom size done chunk room input = ((chunk.reverse ++ input) :: done).reverse := by
  induction input generalizing chunk room with
  | nil => simp [chunksFrom]
  | cons byte rest ih =>
      cases room with
      | zero => simp at fits
      | succ room =>
          rw [chunksFrom, ih (by simpa using fits)]
          simp

theorem Delivery.GoesOn.portions {delivery : Delivery} (goesOn : delivery.GoesOn) :
    delivery.portions = [delivery] := by
  cases delivery with
  | data bytes => simp [Delivery.portions, chunks, chunksFrom_of_le goesOn.2]
  | interrupted => rfl
  | failure error => rfl

theorem flatMap_portions {reads : List Delivery} (goesOn : ∀ delivery ∈ reads, delivery.GoesOn)
    (ending : Ending) :
    (reads ++ ending.deliveries).flatMap Delivery.portions = reads ++ ending.deliveries := by
  induction reads with
  | nil => cases ending <;> rfl
  | cons delivery rest ih =>
      rw [List.cons_append, List.flatMap_cons, (goesOn delivery (by simp)).portions,
        ih fun other member => goesOn other (by simp [member])]
      rfl

/-! ### One request -/

section

variable {reads : List Delivery} (goesOn : ∀ delivery ∈ reads, delivery.GoesOn) (ending : Ending)
include goesOn

theorem readRequest_completes {before after : List Delivery}
    (completes : Completes (wanted (gathered reads)) reads before after) :
    readRequest (reads ++ ending.deliveries) =
      ⟨.ok ((gathered before).take maxRequest), before.length, after ++ ending.deliveries⟩ := by
  have split : gathered reads = [] ++ (gathered before ++ gathered after) := by
    simp [completes.split]
  have goesOn' : ∀ delivery ∈ before, delivery.GoesOn := fun delivery member =>
    goesOn delivery (by simp [completes.split, member])
  have done := readFrom_completes goesOn' split completes.enough completes.first 0
    (after ++ ending.deliveries)
  rw [readRequest, flatMap_portions goesOn, completes.split, List.append_assoc, done,
    List.nil_append, Nat.zero_add]

theorem readRequest_short (short : (gathered reads).length < wanted (gathered reads)) :
    readRequest (reads ++ ending.deliveries) =
      ⟨ending.result (gathered reads), reads.length + 1, []⟩ := by
  rw [readRequest, flatMap_portions goesOn, readFrom_short goesOn short ending, List.nil_append,
    Nat.zero_add]

end

/-- Reading stops right at the first read that brings what is needed, and takes all that this read
brings, up to `maxRequest`. It goes on to the end of the connection only if less than that was
sent. Where the head ends does not depend on how the bytes are divided among the reads. -/
theorem reads_needed {reads : List Delivery} (goesOn : ∀ delivery ∈ reads, delivery.GoesOn)
    (ending : Ending) {need : Nat} (needs : Needs (gathered reads) need) :
    (need ≤ (gathered reads).length → ∃ before after, Completes need reads before after ∧
      readRequest (reads ++ ending.deliveries) =
        ⟨.ok ((gathered before).take maxRequest), before.length, after ++ ending.deliveries⟩) ∧
    ((gathered reads).length < need → readRequest (reads ++ ending.deliveries) =
      ⟨ending.result (gathered reads), reads.length + 1, []⟩) ∧
    ((gathered reads).length ≤ need → ∀ received,
      (readRequest (reads ++ ending.deliveries)).result = .ok received →
        received = gathered reads) ∧
    (∀ before, before <+: reads → ∀ headEnd, headEnd? (gathered before) = some headEnd ↔
      IsLeast (headEnds (gathered reads)) headEnd ∧ headEnd ≤ (gathered before).length) := by
  obtain rfl := needs_iff.mp needs
  refine ⟨?_, ?_, ?_, ?_⟩
  · intro enough
    obtain ⟨before, after, completes⟩ := exists_completes enough
    exact ⟨before, after, completes, readRequest_completes goesOn ending completes⟩
  · exact readRequest_short goesOn ending
  · intro few received done
    rcases Nat.lt_or_eq_of_le few with short | exact
    · rw [readRequest_short goesOn ending short] at done
      cases ending <;> cases done <;> rfl
    · obtain ⟨before, after, completes⟩ := exists_completes (Nat.le_of_eq exact.symm)
      rw [readRequest_completes goesOn ending completes] at done
      cases done
      rw [completes.gathered_eq exact]
      exact List.take_of_length_le (exact ▸ wanted_le (gathered reads))
  · rintro before ⟨after, rfl⟩ headEnd
    rw [gathered_append]
    exact headEnd?_eq_some_iff_append (gathered before) (gathered after) headEnd

def tornReads : List Delivery := [
  .data (Utf8.bytes "POST / HTTP/1.1\r\ncontent-length: 4\r\n\r"),
  .data (Utf8.bytes "\nbo"),
  .interrupted,
  .data (Utf8.bytes "dyGET /"),
  .data (Utf8.bytes " HTTP/1.1")]

theorem reads_needed_torn : (∀ delivery ∈ tornReads, delivery.GoesOn) ∧
    Needs (gathered tornReads) 42 ∧
    ∃ before after, Completes 42 tornReads before after ∧
      readRequest (tornReads ++ Ending.closed.deliveries) =
        ⟨.ok ((gathered before).take maxRequest), before.length,
          after ++ Ending.closed.deliveries⟩ := by
  have goesOn : ∀ delivery ∈ tornReads, delivery.GoesOn := by decide
  have needs : Needs (gathered tornReads) 42 := needs_iff.mpr (by decide)
  exact ⟨goesOn, needs, (reads_needed goesOn .closed needs).1 (by decide)⟩

end HttpServer.Framing
