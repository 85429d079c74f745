import HttpServer.Proofs.Connection.Steps
import HttpServer.Proofs.Framing.Reading

/-!
What the division of a request among reads has to do with it. All that is needed is kept, and so
is whatever else the read that completes it happens to bring. So the head of a request never
depends on the division, and the whole request does so only if more is sent than it needs.
-/

namespace HttpServer

namespace Request

def readHead (input : Bytes) : Except Fault Request :=
  (parse input).map fun request => { request with body := [] }

end Request

namespace Framing

open Request (Layout readHead)

def Carries (sent : Bytes) (deliveries : List Delivery) : Prop :=
  ∃ reads, ∃ ending : Ending, deliveries = reads ++ ending.deliveries ∧
    (∀ delivery ∈ reads, delivery.GoesOn) ∧ gathered reads = sent ∧
    (ending = .silence ∨ ending = .closed)

/-- What can be received of a request that needs `need` of the bytes that are sent. -/
structure Receivable (sent : Bytes) (need : Nat) (received : Bytes) : Prop where
  begins : received <+: sent
  enough : sent.take need <+: received
  surplus : received.length < need + readSize
  bounded : received.length ≤ maxRequest

/-! ### What is received -/

theorem wanted_pos (sent : Bytes) : 0 < wanted sent := by
  have room : 0 < maxRequest := by decide
  cases found : headEnd? sent with
  | none => simpa only [wanted, found] using room
  | some headEnd =>
      have member := (headEnd?_eq_some_iff.mp found).1
      have positive : headEnd ≠ 0 := by
        rintro rfl
        exact zero_notMem_headEnds sent member
      rw [wanted_of_headEnd? found]
      omega

theorem Delivery.GoesOn.length_le {delivery : Delivery} (goesOn : delivery.GoesOn) :
    delivery.bytes.length ≤ readSize := by
  cases delivery with
  | data bytes => exact goesOn.2
  | interrupted => exact Nat.zero_le _
  | failure error => cases goesOn

theorem Completes.length_lt {need : Nat} {reads before after : List Delivery}
    (completes : Completes need reads before after) (something : 0 < need)
    (goesOn : ∀ delivery ∈ reads, delivery.GoesOn) :
    (gathered before).length < need + readSize := by
  rcases List.eq_nil_or_concat before with rfl | ⟨fewer, delivery, rfl⟩
  · rw [gathered_nil, List.length_nil]
    omega
  · rw [List.concat_eq_append] at completes ⊢
    have short := completes.first fewer (List.prefix_append _ _) (by simp)
    have held := (goesOn delivery (by simp [completes.split])).length_le
    rw [gathered_append, List.length_append, gathered_cons, gathered_nil, List.append_nil]
    omega

theorem receivable_take {sent received : Bytes} {need : Nat} (begins : received <+: sent)
    (enough : need ≤ received.length) (surplus : received.length < need + readSize)
    (room : need ≤ maxRequest) : Receivable sent need (received.take maxRequest) := by
  obtain ⟨rest, rfl⟩ := begins
  refine ⟨(List.take_prefix _ _).trans (List.prefix_append _ _), ?_, ?_, ?_⟩
  · rw [List.take_append_of_le_length enough]
    exact List.take_prefix_take_left room
  · rw [List.length_take]
    omega
  · rw [List.length_take]
    exact Nat.min_le_left _ _

theorem Carries.receivable {sent : Bytes} {deliveries : List Delivery}
    (carries : Carries sent deliveries) : ∃ received,
      (readRequest deliveries).result = .ok received ∧
        Receivable sent (wanted sent) received := by
  obtain ⟨reads, ending, rfl, goesOn, rfl, clean⟩ := carries
  have room := wanted_le (gathered reads)
  rcases Nat.lt_or_ge (gathered reads).length (wanted (gathered reads)) with short | enough
  · refine ⟨gathered reads, ?_, List.prefix_rfl, List.take_prefix _ _, ?_, ?_⟩
    · rw [readRequest_short goesOn ending short]
      rcases clean with rfl | rfl <;> rfl
    · omega
    · omega
  · obtain ⟨before, after, completes⟩ := exists_completes enough
    refine ⟨_, congrArg Reading.result (readRequest_completes goesOn ending completes), ?_⟩
    refine receivable_take ?_ completes.enough
      (completes.length_lt (wanted_pos _) goesOn) room
    rw [completes.split, gathered_append]
    exact List.prefix_append _ _

/-! ### Whatever can be received is received -/

def apart (bytes : Bytes) : List Delivery :=
  bytes.map fun byte => .data [byte]

theorem gathered_apart (bytes : Bytes) : gathered (apart bytes) = bytes := by
  induction bytes with
  | nil => rfl
  | cons byte rest ih => exact congrArg (byte :: ·) ih

theorem goesOn_apart (bytes : Bytes) : ∀ delivery ∈ apart bytes, delivery.GoesOn := by
  intro delivery member
  obtain ⟨byte, -, rfl⟩ := List.mem_map.mp member
  exact ⟨List.cons_ne_nil byte [], show 1 ≤ readSize by decide⟩

theorem length_gathered_le {fewer reads : List Delivery} (begins : fewer <+: reads) :
    (gathered fewer).length ≤ (gathered reads).length := by
  obtain ⟨rest, rfl⟩ := begins
  rw [gathered_append, List.length_append]
  exact Nat.le_add_right _ _

theorem completes_apart {need : Nat} {front last : Bytes} (short : front.length < need)
    (enough : need ≤ front.length + last.length) (after : List Delivery) :
    Completes need ((apart front ++ [.data last]) ++ after) (apart front ++ [.data last])
      after := by
  have joined : (gathered (apart front ++ [.data last])).length = front.length + last.length := by
    simp [gathered_apart, Delivery.bytes]
  refine ⟨rfl, joined ▸ enough, ?_⟩
  intro fewer begins other
  have within := (List.prefix_concat_iff.mp begins).resolve_left other
  have bound := length_gathered_le within
  rw [gathered_apart] at bound
  omega

theorem Receivable.exists_carries {sent received : Bytes}
    (receivable : Receivable sent (wanted sent) received) :
    ∃ deliveries, Carries sent deliveries ∧ (readRequest deliveries).result = .ok received := by
  have begins := receivable.begins.length_le
  have enough := receivable.enough.length_le
  rw [List.length_take] at enough
  rcases Nat.lt_or_ge sent.length (wanted sent) with short | more
  · have whole : received = sent :=
      receivable.begins.eq_of_length_le (by omega)
    refine ⟨apart sent ++ Ending.closed.deliveries,
      ⟨apart sent, .closed, rfl, goesOn_apart sent, gathered_apart sent, .inr rfl⟩, ?_⟩
    rw [readRequest_short (goesOn_apart sent) .closed (by rwa [gathered_apart]), whole]
    exact congrArg Except.ok (gathered_apart sent)
  · -- All reads bring one byte but the last, which brings the rest of what is received.
    obtain ⟨rest, rfl⟩ := receivable.begins
    generalize need : wanted (received ++ rest) = needed at receivable enough more
    have positive := need ▸ wanted_pos (received ++ rest)
    let front := received.take (needed - 1)
    let last := received.drop (needed - 1)
    have joined : front ++ last = received := List.take_append_drop _ _
    have fewer : front.length = needed - 1 := by
      rw [List.length_take]
      omega
    have left : last.length = received.length - (needed - 1) := List.length_drop
    have surplus := receivable.surplus
    let reads := (apart front ++ [.data last]) ++ apart rest
    have before : gathered (apart front ++ [.data last]) = received := by
      simp [gathered_apart, Delivery.bytes, joined]
    have sent : gathered reads = received ++ rest := by
      rw [gathered_append, before, gathered_apart]
    have goesOn : ∀ delivery ∈ reads, delivery.GoesOn := by
      intro delivery member
      simp only [reads, List.mem_append, List.mem_singleton] at member
      rcases member with (inside | rfl) | inside
      · exact goesOn_apart front delivery inside
      · refine ⟨?_, by omega⟩
        rintro empty
        rw [empty, List.length_nil] at left
        omega
      · exact goesOn_apart rest delivery inside
    have completes : Completes (wanted (gathered reads)) reads
        (apart front ++ [.data last]) (apart rest) := by
      rw [sent, need]
      exact completes_apart (by omega) (by omega) _
    refine ⟨reads ++ Ending.closed.deliveries, ⟨reads, .closed, rfl, goesOn, sent, .inr rfl⟩, ?_⟩
    rw [readRequest_completes goesOn .closed completes, before]
    exact congrArg Except.ok (List.take_of_length_le receivable.bounded)

/-! ### When it is always the same -/

theorem Receivable.eq_take {sent received : Bytes} {need : Nat}
    (receivable : Receivable sent need received)
    (exact : sent.length ≤ need ∨ need = maxRequest) : received = sent.take need := by
  have begins := receivable.begins.length_le
  have bounded := receivable.bounded
  refine (receivable.enough.eq_of_length_le ?_).symm
  rw [List.length_take]
  omega

theorem receivable_of_le {sent : Bytes} {need count : Nat} (enough : need ≤ count)
    (surplus : count < need + readSize) (bounded : count ≤ maxRequest) :
    Receivable sent need (sent.take count) := by
  have length : (sent.take count).length ≤ count := List.length_take_le _ _
  exact ⟨List.take_prefix _ _, List.take_prefix_take_left enough, by omega, by omega⟩

theorem readHead_append {head : Bytes} {headEnd : Nat} (found : headEnd? head = some headEnd)
    (rest : Bytes) : readHead (head ++ rest) = readHead head := by
  rcases Request.exists_layout_or_endless head with ⟨layout, wellFormed, rfl⟩ | ⟨_, _, endless⟩
  · let longer : Layout := { layout with body := layout.body ++ rest }
    have sound : longer.WellFormed := ⟨wellFormed.unbroken, wellFormed.texts, wellFormed.blank⟩
    have bytes : layout.bytes ++ rest = longer.bytes := List.append_assoc ..
    rw [bytes, readHead, readHead, Layout.parse_layout sound, Layout.parse_layout wellFormed]
    cases Request.parseLine (Request.lineText layout.first) <;> rfl
  · rw [headEnd?_of_endless endless] at found
    cases found

theorem Receivable.readHead_eq {sent first second : Bytes}
    (one : Receivable sent (wanted sent) first) (other : Receivable sent (wanted sent) second) :
    readHead first = readHead second := by
  by_cases exact : sent.length ≤ wanted sent ∨ wanted sent = maxRequest
  · rw [one.eq_take exact, other.eq_take exact]
  · cases found : headEnd? sent with
    | none =>
        simp [wanted, found] at exact
    | some headEnd =>
        have within := (headEnd?_eq_some_iff.mp found).1.1
        rw [wanted_of_headEnd? found] at exact one other
        have ends : headEnd? (sent.take headEnd) = some headEnd := by
          rw [headEnd?_eq_some_iff_append _ (sent.drop headEnd), List.take_append_drop,
            List.length_take]
          exact ⟨headEnd?_eq_some_iff.mp found, by omega⟩
        have behind {need : Nat} {received : Bytes} (reaches : headEnd ≤ need)
            (receivable : Receivable sent need received) :
            readHead received = readHead (sent.take headEnd) := by
          obtain ⟨rest, rfl⟩ := (List.take_prefix_take_left reaches).trans receivable.enough
          exact readHead_append ends rest
        rw [behind (by omega) one, behind (by omega) other]

theorem handle_congr {first second : List Delivery}
    (same : (readRequest first).result = (readRequest second).result) (router : Router)
    (files : FileTree) (connection : Connection) :
    Connection.handle router files { connection with deliveries := first } =
      Connection.handle router files { connection with deliveries := second } := by
  simp only [Connection.handle_eq, same]
  rfl

/-! ### One request in two divisions -/

/-- What is received of a request, whatever the division of its bytes: all that is needed, and of
the rest as much as one read can bring. Each such amount occurs. So what is received, and with it
everything that the connection does, depends on the division exactly if there is a rest that fits;
what stands in front of the body never does. -/
theorem divisions_agree {sent : Bytes} {need : Nat} (needs : Needs sent need) :
    (∀ deliveries, Carries sent deliveries → ∃ received,
      (readRequest deliveries).result = .ok received ∧ Receivable sent need received) ∧
    (∀ received, Receivable sent need received → ∃ deliveries, Carries sent deliveries ∧
      (readRequest deliveries).result = .ok received) ∧
    ((∀ first second, Carries sent first → Carries sent second →
        (readRequest first).result = (readRequest second).result) ↔
      sent.length ≤ need ∨ need = maxRequest) ∧
    (sent.length ≤ need ∨ need = maxRequest → ∀ first second, Carries sent first →
      Carries sent second → ∀ router files, ∀ connection : Connection,
        Connection.handle router files { connection with deliveries := first } =
          Connection.handle router files { connection with deliveries := second }) ∧
    (∀ first second, Receivable sent need first → Receivable sent need second →
      readHead first = readHead second) := by
  obtain rfl := needs_iff.mp needs
  have agree (exact : sent.length ≤ wanted sent ∨ wanted sent = maxRequest)
      {first second : List Delivery} (one : Carries sent first) (other : Carries sent second) :
      (readRequest first).result = (readRequest second).result := by
    obtain ⟨received, done, receivable⟩ := one.receivable
    obtain ⟨another, finished, also⟩ := other.receivable
    rw [done, finished, receivable.eq_take exact, also.eq_take exact]
  refine ⟨fun _ => Carries.receivable, fun _ => Receivable.exists_carries, ⟨?_, ?_⟩, ?_, ?_⟩
  · intro same
    by_contra rest
    have room := wanted_le sent
    have one : Receivable sent (wanted sent) (sent.take (wanted sent)) :=
      receivable_of_le (Nat.le_refl _) (Nat.lt_add_of_pos_right (by decide)) room
    have more : Receivable sent (wanted sent) (sent.take (wanted sent + 1)) :=
      receivable_of_le (Nat.le_succ _) (Nat.add_lt_add_left (by decide) _) (by omega)
    obtain ⟨first, carries, done⟩ := one.exists_carries
    obtain ⟨second, carried, finished⟩ := more.exists_carries
    have equal := same first second carries carried
    rw [done, finished, Except.ok.injEq] at equal
    have lengths := congrArg List.length equal
    rw [List.length_take, List.length_take] at lengths
    omega
  · exact fun exact first second => agree exact
  · exact fun exact first second one other => handle_congr (agree exact one other)
  · exact fun first second => Receivable.readHead_eq

def exactInput : Bytes :=
  Utf8.bytes "POST /x HTTP/1.1\nContent-Length: 4\n\nbody"

theorem divisions_agree_exact :
    Needs exactInput 40 ∧
    Carries exactInput [.data exactInput] ∧
    Carries exactInput [.data (exactInput.take 35), .interrupted,
      .data ((exactInput.drop 35).take 2), .data (exactInput.drop 37), .data []] ∧
    ∀ router files, ∀ connection : Connection,
      Connection.handle router files { connection with deliveries := [.data exactInput] } =
        Connection.handle router files { connection with
          deliveries := [.data (exactInput.take 35), .interrupted,
            .data ((exactInput.drop 35).take 2), .data (exactInput.drop 37), .data []] } := by
  have needs : Needs exactInput 40 := needs_iff.mpr (by decide)
  have whole : Carries exactInput [.data exactInput] :=
    ⟨[.data exactInput], .silence, rfl, by decide, rfl, .inl rfl⟩
  have torn : Carries exactInput [.data (exactInput.take 35), .interrupted,
      .data ((exactInput.drop 35).take 2), .data (exactInput.drop 37), .data []] :=
    ⟨[.data (exactInput.take 35), .interrupted, .data ((exactInput.drop 35).take 2),
      .data (exactInput.drop 37)], .closed, rfl, by decide, rfl, .inr rfl⟩
  exact ⟨needs, whole, torn,
    (divisions_agree needs).2.2.2.1 (.inl (by decide)) _ _ whole torn⟩

def surplusInput : Bytes :=
  Utf8.bytes "POST / HTTP/1.1\r\nContent-Length: 4\r\n\r\nbodyGET /"

/-- What is sent behind a request is taken for its body, if it comes in the same read. -/
theorem divisions_differ :
    Carries surplusInput [.data surplusInput] ∧
    Carries surplusInput [.data (surplusInput.take 42), .data (surplusInput.drop 42)] ∧
    (∃ received request, (readRequest [.data surplusInput]).result = .ok received ∧
      Request.parse received = .ok request ∧ request.contentLength = 4 ∧
      request.body = Utf8.bytes "bodyGET /") ∧
    ∃ received request,
      (readRequest [.data (surplusInput.take 42), .data (surplusInput.drop 42)]).result =
        .ok received ∧
      Request.parse received = .ok request ∧ request.contentLength = 4 ∧
      request.body = Utf8.bytes "body" :=
  ⟨⟨[.data surplusInput], .silence, rfl, by decide, rfl, .inl rfl⟩,
    ⟨[.data (surplusInput.take 42), .data (surplusInput.drop 42)], .silence, rfl, by decide, rfl,
      .inl rfl⟩,
    ⟨surplusInput, _, rfl, rfl, by decide, rfl⟩,
    ⟨surplusInput.take 42, _, rfl, rfl, by decide, rfl⟩⟩

end Framing

end HttpServer
