import HttpServer.Proofs.Json.Scalars

/-!
Documents, read from their texts. A reader of values reads the parts of a text one after another;
what is left behind each of them cannot go on with a number.
-/

namespace HttpServer.Json

def readWithin (levels : Nat) (input : Bytes) : Except Fault Json := do
  let (value, rest) ← valueWithin (input.length + 1) levels input
  let rest := skipBlanks rest
  if rest.isEmpty then return value else throw (faultAt .trailingCharacters rest)

theorem read_eq_readWithin : read = readWithin maxLevels := rfl

/-! ### How a text begins -/

theorem skipBlanks_cons {byte : UInt8} (solid : isBlank byte = false) (rest : Bytes) :
    skipBlanks (byte :: rest) = byte :: rest := by
  simp [skipBlanks, solid]

theorem skipBlanks_append {gap : Bytes} (blanks : Blanks gap) (rest : Bytes) :
    skipBlanks (gap ++ rest) = skipBlanks rest :=
  List.dropWhile_append_of_pos blanks

theorem head_decimal (value : Nat) :
    ∃ byte more, Utf8.bytes (decimal value) = byte :: more ∧ isDigit byte = true := by
  rw [Utf8.bytes, decimal, String.toList_ofList]
  rcases Nat.eq_zero_or_pos value with rfl | above
  · have zero : Utf8.encode (digitsOnto [] 0) = [0x30] := by simp [digitsOnto]; decide
    exact ⟨0x30, [], zero, by decide⟩
  · obtain ⟨byte, more, written, digit, -⟩ := head_digitsOnto above []
    exact ⟨byte, more, written, digit⟩

theorem isBlank_of_isDigit {byte : UInt8} (digit : isDigit byte = true) : isBlank byte = false := by
  simp only [isDigit, Bool.and_eq_true, decide_eq_true_eq, UInt8.le_iff_toNat_le] at digit
  have other (blank : UInt8) (low : blank.toNat < 0x30) : byte ≠ blank := by
    rintro rfl
    have first : (0x30 : UInt8).toNat = 0x30 := rfl
    omega
  simp [isBlank, other 0x20 (by decide), other 0x0A (by decide), other 0x09 (by decide),
    other 0x0D (by decide)]

theorem ne_of_isDigit {byte other : UInt8} (digit : isDigit byte = true)
    (none : isDigit other = false) : byte ≠ other := by
  rintro rfl
  rw [digit] at none
  cases none

def Begins (text : Bytes) : Prop :=
  ∃ byte more, text = byte :: more ∧ isBlank byte = false ∧ byte ≠ 0x5D

theorem begins_flatText {value : Json} {text : Bytes} (is : FlatText value text) :
    Begins text := by
  cases is with
  | null | yes | no | negative => exact ⟨_, _, rfl, by decide, by decide⟩
  | natural bound =>
      obtain ⟨byte, more, same, digit⟩ := head_decimal _
      exact ⟨byte, more, same, isBlank_of_isDigit digit, ne_of_isDigit digit (by decide)⟩
  | string quoted =>
      obtain ⟨inside⟩ := quoted
      exact ⟨_, _, rfl, by decide, by decide⟩

theorem begins_valueText {levels : Nat} {value : Json} {text : Bytes}
    (is : ValueText levels value text) : Begins text := by
  cases levels with
  | zero => exact begins_flatText is
  | succ levels =>
      cases is with
      | flat single => exact begins_flatText single
      | array enclosed => cases enclosed <;> exact ⟨_, _, rfl, by decide, by decide⟩
      | object enclosed => cases enclosed <;> exact ⟨_, _, rfl, by decide, by decide⟩

theorem ends_append {gap rest : Bytes} (blanks : Blanks gap) (ends : Ends rest) :
    Ends (gap ++ rest) := by
  cases gap with
  | nil => exact ends
  | cons byte gap =>
      refine ends_cons ?_ _
      have blank := blanks byte List.mem_cons_self
      simp only [isBlank, Bool.or_eq_true, decide_eq_true_eq] at blank
      rcases blank with ((rfl | rfl) | rfl) | rfl <;> decide

/-! ### Values by their first byte -/

section

variable (fuel levels : Nat) (rest : Bytes)

theorem valueWithin_append {gap : Bytes} (blanks : Blanks gap) :
    valueWithin fuel levels (gap ++ rest) = valueWithin fuel levels rest := by
  rw [valueWithin, skipBlanks_append blanks, valueWithin]

theorem valueWithin_string : valueWithin fuel levels (0x22 :: rest) = do
    let (text, rest) ← stringFrom .plain [] rest
    return (.string text, rest) := by
  rw [valueWithin, skipBlanks_cons (by decide)]
  rfl

theorem valueWithin_negative :
    valueWithin fuel levels (0x2D :: rest) = readNumber false rest := by
  rw [valueWithin, skipBlanks_cons (by decide)]
  rfl

theorem valueWithin_natural {byte : UInt8} (digit : isDigit byte = true) :
    valueWithin fuel levels (byte :: rest) = readNumber true (byte :: rest) := by
  have other {letter : UInt8} (none : isDigit letter = false) : byte ≠ letter :=
    ne_of_isDigit digit none
  rw [valueWithin, skipBlanks_cons (isBlank_of_isDigit digit)]
  simp [digit, other (show isDigit 0x6E = false by decide),
    other (show isDigit 0x74 = false by decide), other (show isDigit 0x66 = false by decide),
    other (show isDigit 0x2D = false by decide)]

theorem valueWithin_array : valueWithin fuel (levels + 1) (0x5B :: rest) =
    itemsFrom (valueWithin fuel levels) [] fuel rest := by
  rw [valueWithin, skipBlanks_cons (by decide)]
  rfl

theorem valueWithin_object : valueWithin fuel (levels + 1) (0x7B :: rest) =
    membersFrom (valueWithin fuel levels) true [] fuel rest := by
  rw [valueWithin, skipBlanks_cons (by decide)]
  rfl

end

theorem valueWithin_flatText {value : Json} {text : Bytes} (is : FlatText value text)
    (fuel levels : Nat) {rest : Bytes} (ends : Ends rest) :
    valueWithin fuel levels (text ++ rest) = .ok (value.normal, rest) := by
  cases is with
  | null | yes | no =>
      change valueWithin fuel levels (_ :: _) = _
      rw [valueWithin, skipBlanks_cons (by decide)]
      rfl
  | string quoted =>
      obtain ⟨after, same, read⟩ := stringFrom_stringText quoted rest
      rw [same, valueWithin_string, read]
      rfl
  | natural bound =>
      obtain ⟨byte, more, same, digit⟩ := head_decimal _
      have read := readNumber_decimal bound true ends
      rw [same, List.cons_append, valueWithin_natural fuel levels _ digit, ← List.cons_append,
        ← same, read]
      rfl
  | @negative magnitude positive bound =>
      have read := readNumber_decimal (Nat.le_trans bound (by decide)) false ends
      have small : ¬Nat.pow 2 63 < magnitude := Nat.not_lt.mpr bound
      rw [List.cons_append, valueWithin_negative, read]
      simp [numberTail.integer, Nat.pos_iff_ne_zero.mp positive, small, normal]

/-! ### Items and members -/

/-- A reader of values that have the texts `part`, as far as they are shorter than `bound`. -/
structure PartReader (part : Json → Bytes → Prop) (bound : Nat)
    (item : Bytes → Except Fault (Json × Bytes)) : Prop where
  begins : ∀ {value text}, part value text → Begins text
  skips : ∀ {gap}, Blanks gap → ∀ rest, item (gap ++ rest) = item rest
  reads : ∀ {value text}, part value text → text.length < bound → ∀ {rest}, Ends rest →
    item (text ++ rest) = .ok (value.normal, rest)

theorem Listed.length_le {α : Type} {entry : α → Bytes → Prop} {values : List α} {text : Bytes}
    (listed : Listed entry values text) : values.length ≤ text.length + 1 := by
  induction listed with
  | last here => simp
  | next here later ih =>
      simp only [List.length_cons, List.length_append]
      omega

theorem ends_comma (rest : Bytes) : Ends (0x2C :: rest) :=
  ends_cons (by decide) rest

def separator (first : Bool) : Bytes :=
  if first then [] else [0x2C]

section

variable {part : Json → Bytes → Prop} {bound : Nat} {item : Bytes → Except Fault (Json × Bytes)}

theorem itemsFrom_append {gap : Bytes} (blanks : Blanks gap) (done : List Json) (fuel : Nat)
    (rest : Bytes) :
    itemsFrom item done (fuel + 1) (gap ++ rest) = itemsFrom item done (fuel + 1) rest := by
  rw [itemsFrom, skipBlanks_append blanks, itemsFrom]

theorem itemsFrom_spaced (reader : PartReader part bound item) {value : Json} {text : Bytes}
    (spaced : Spaced (part value) text) (short : text.length < bound) (done : List Json)
    (fuel : Nat) {rest : Bytes} (ends : Ends rest) :
    itemsFrom item done (fuel + 2) (separator done.isEmpty ++ (text ++ rest)) =
      itemsFrom item (value.normal :: done) (fuel + 1) rest := by
  obtain ⟨opening, inside, closing⟩ := spaced
  rename_i before text after
  have shorter : text.length < bound := by
    simp only [List.length_append] at short
    omega
  have read := reader.reads inside shorter (ends_append closing ends)
  obtain ⟨byte, more, rfl, solid, noEnd⟩ := reader.begins inside
  have skipped : skipBlanks (before ++ (byte :: (more ++ (after ++ rest)))) =
      byte :: (more ++ (after ++ rest)) := by
    rw [skipBlanks_append opening, skipBlanks_cons solid]
  rw [List.cons_append] at read
  rw [← itemsFrom_append closing (value.normal :: done), List.append_assoc before,
    List.append_assoc (byte :: more), List.cons_append]
  cases done with
  | nil =>
      simp only [separator, List.isEmpty_nil, if_true, List.nil_append]
      rw [itemsFrom, skipped]
      simp only [noEnd, if_false, List.isEmpty_nil, if_true, read]
      rfl
  | cons first done =>
      simp only [separator, List.isEmpty_cons, Bool.false_eq_true, if_false, List.singleton_append]
      rw [itemsFrom, skipBlanks_cons (by decide)]
      simp only [List.isEmpty_cons, skipped, noEnd, if_false, read]
      rfl

theorem itemsFrom_listed (reader : PartReader part bound item) {items : List Json} {text : Bytes}
    (listed : Listed part items text) (short : text.length < bound) (done : List Json) {fuel : Nat}
    (enough : items.length < fuel) (rest : Bytes) :
    itemsFrom item done fuel (separator done.isEmpty ++ (text ++ 0x5D :: rest)) =
      .ok (.array (done.reverse ++ normalItems items), rest) := by
  induction listed generalizing done fuel with
  | @last value text here =>
      rw [List.length_singleton] at enough
      obtain ⟨fuel, rfl⟩ : ∃ left, fuel = left + 2 := ⟨fuel - 2, by omega⟩
      rw [itemsFrom_spaced reader here short done fuel (ends_cons (by decide) rest), itemsFrom,
        skipBlanks_cons (by decide)]
      simp [normalItems]
  | @next value values text more here later ih =>
      rw [List.length_append, List.length_cons] at short
      rw [List.length_cons] at enough
      obtain ⟨fuel, rfl⟩ : ∃ left, fuel = left + 2 := ⟨fuel - 2, by omega⟩
      have fewer : values.length < fuel + 1 := by omega
      have onward := ih (by omega) (value.normal :: done) fewer
      rw [List.append_assoc, List.cons_append,
        itemsFrom_spaced reader here (by omega) done fuel (ends_comma _)]
      simpa [separator, normalItems] using onward

theorem itemsFrom_enclosed (reader : PartReader part bound item) {items : List Json}
    {text : Bytes} (enclosed : Enclosed 0x5B 0x5D part items text) (short : text.length < bound)
    (rest : Bytes) : ∃ after, text ++ rest = 0x5B :: after ∧
      itemsFrom item [] bound after = .ok (.array (normalItems items), rest) := by
  cases enclosed with
  | empty blanks =>
      obtain ⟨fuel, rfl⟩ : ∃ left, bound = left + 1 := ⟨bound - 1, by omega⟩
      refine ⟨_, List.cons_append .., ?_⟩
      rw [List.append_assoc, itemsFrom_append blanks, List.singleton_append, itemsFrom,
        skipBlanks_cons (by decide)]
      rfl
  | entries listed =>
      have count := listed.length_le
      simp only [List.length_cons, List.length_append, List.length_nil] at short
      refine ⟨_, List.cons_append .., ?_⟩
      rw [List.append_assoc, List.singleton_append]
      exact itemsFrom_listed reader listed (by omega) [] (by omega) rest

theorem member_text (reader : PartReader part bound item) {entry : String × Json} {text : Bytes}
    (is : MemberText part entry text) (short : text.length < bound) {rest : Bytes}
    (ends : Ends rest) : ∃ after, text ++ rest = 0x22 :: after ∧
      member item after = .ok ((entry.1, entry.2.normal), rest) := by
  obtain ⟨quoted, blanks, opening, inside⟩ := is
  rename_i key value name gap before text
  have shorter : text.length < bound := by
    simp only [List.length_append, List.length_cons] at short
    omega
  have read := reader.reads inside shorter ends
  rw [← reader.skips opening] at read
  obtain ⟨after, same, named⟩ :=
    stringFrom_stringText quoted (gap ++ 0x3A :: (before ++ (text ++ rest)))
  have colon : skipBlanks (gap ++ 0x3A :: (before ++ (text ++ rest))) =
      0x3A :: (before ++ (text ++ rest)) := by
    rw [skipBlanks_append blanks, skipBlanks_cons (by decide)]
  refine ⟨after, ?_, ?_⟩
  · rw [← same]
    simp only [List.append_assoc, List.cons_append]
  · simp only [member, named, bind, Except.bind, colon, if_true, read]
    rfl

theorem membersFrom_append {gap : Bytes} (blanks : Blanks gap) (first : Bool)
    (done : List (String × Json)) (fuel : Nat) (rest : Bytes) :
    membersFrom item first done (fuel + 1) (gap ++ rest) =
      membersFrom item first done (fuel + 1) rest := by
  rw [membersFrom, skipBlanks_append blanks, membersFrom]

theorem membersFrom_spaced (reader : PartReader part bound item) {entry : String × Json}
    {text : Bytes} (spaced : Spaced (MemberText part entry) text) (short : text.length < bound)
    (first : Bool) (done : List (String × Json)) (fuel : Nat) {rest : Bytes} (ends : Ends rest) :
    membersFrom item first done (fuel + 2) (separator first ++ (text ++ rest)) =
      membersFrom item false (addMember entry.1 entry.2.normal done) (fuel + 1) rest := by
  obtain ⟨opening, inside, closing⟩ := spaced
  rename_i before text after
  have shorter : text.length < bound := by
    simp only [List.length_append] at short
    omega
  obtain ⟨behind, same, added⟩ := member_text reader inside shorter (ends_append closing ends)
  have skipped : skipBlanks (before ++ (0x22 :: behind)) = 0x22 :: behind := by
    rw [skipBlanks_append opening, skipBlanks_cons (by decide)]
  rw [← membersFrom_append closing false, List.append_assoc before, List.append_assoc text, same]
  cases first with
  | true =>
      rw [separator, if_pos rfl, List.nil_append, membersFrom, skipped]
      simp only [bind, Except.bind, added, if_true]
      rfl
  | false =>
      rw [separator, if_neg (by decide), List.singleton_append, membersFrom,
        skipBlanks_cons (by decide)]
      simp only [bind, Except.bind, skipped, added, if_true]
      rfl

theorem membersFrom_listed (reader : PartReader part bound item)
    {members : List (String × Json)} {text : Bytes}
    (listed : Listed (MemberText part) members text) (short : text.length < bound) (first : Bool)
    (done : List (String × Json)) {fuel : Nat} (enough : members.length < fuel) (rest : Bytes) :
    membersFrom item first done fuel (separator first ++ (text ++ 0x7D :: rest)) =
      .ok (.object ((normalMembers members).foldl
        (fun object entry => addMember entry.1 entry.2 object) done), rest) := by
  induction listed generalizing first done fuel with
  | @last entry text here =>
      rw [List.length_singleton] at enough
      obtain ⟨fuel, rfl⟩ : ∃ left, fuel = left + 2 := ⟨fuel - 2, by omega⟩
      rw [membersFrom_spaced reader here short first done fuel (ends_cons (by decide) rest),
        membersFrom, skipBlanks_cons (by decide)]
      simp [normalMembers]
  | @next entry members text more here later ih =>
      rw [List.length_append, List.length_cons] at short
      rw [List.length_cons] at enough
      obtain ⟨fuel, rfl⟩ : ∃ left, fuel = left + 2 := ⟨fuel - 2, by omega⟩
      have fewer : members.length < fuel + 1 := by omega
      have onward := ih (by omega) false (addMember entry.1 entry.2.normal done) fewer
      rw [List.append_assoc, List.cons_append,
        membersFrom_spaced reader here (by omega) first done fuel (ends_comma _)]
      simpa [separator, normalMembers] using onward

theorem membersFrom_enclosed (reader : PartReader part bound item)
    {members : List (String × Json)} {text : Bytes}
    (enclosed : Enclosed 0x7B 0x7D (MemberText part) members text) (short : text.length < bound)
    (rest : Bytes) : ∃ after, text ++ rest = 0x7B :: after ∧
      membersFrom item true [] bound after = .ok (ofMembers (normalMembers members), rest) := by
  cases enclosed with
  | empty blanks =>
      obtain ⟨fuel, rfl⟩ : ∃ left, bound = left + 1 := ⟨bound - 1, by omega⟩
      refine ⟨_, List.cons_append .., ?_⟩
      rw [List.append_assoc, membersFrom_append blanks, List.singleton_append, membersFrom,
        skipBlanks_cons (by decide)]
      rfl
  | entries listed =>
      have count := listed.length_le
      simp only [List.length_cons, List.length_append, List.length_nil] at short
      refine ⟨_, List.cons_append .., ?_⟩
      rw [List.append_assoc, List.singleton_append]
      exact membersFrom_listed reader listed (by omega) true [] (by omega) rest

end

/-! ### Documents -/

theorem partReader_valueWithin (fuel levels : Nat) :
    PartReader (ValueText levels) fuel (valueWithin fuel levels) where
  begins := begins_valueText
  skips blanks rest := valueWithin_append fuel levels rest blanks
  reads := by
    -- As the reader does, the induction goes down by levels; the fuel only counts the items of one
    -- array or object, so that it stays the same.
    induction levels with
    | zero =>
        intro value text is _ rest ends
        exact valueWithin_flatText is fuel 0 ends
    | succ levels ih =>
        intro value text is short rest ends
        have reader : PartReader (ValueText levels) fuel (valueWithin fuel levels) :=
          ⟨begins_valueText, fun blanks rest => valueWithin_append fuel levels rest blanks, ih⟩
        cases is with
        | flat single => exact valueWithin_flatText single fuel _ ends
        | array enclosed =>
            obtain ⟨after, same, read⟩ := itemsFrom_enclosed reader enclosed short rest
            rw [same, valueWithin_array, read, normal]
        | object enclosed =>
            obtain ⟨after, same, read⟩ := membersFrom_enclosed reader enclosed short rest
            rw [same, valueWithin_object, read, normal]

theorem reads_readWithin (levels : Nat) : Reads levels (readWithin levels) := by
  rintro document _ ⟨opening, inside, closing⟩
  rename_i before text after
  have reader := partReader_valueWithin ((before ++ (text ++ after)).length + 1) levels
  have ends : Ends after := by
    have whole := ends_append closing ends_nil
    rwa [List.append_nil] at whole
  have short : text.length < (before ++ (text ++ after)).length + 1 := by
    simp only [List.length_append]
    omega
  have blank := skipBlanks_append closing []
  rw [List.append_nil] at blank
  simp only [readWithin, bind, Except.bind, reader.skips opening, reader.reads inside short ends,
    blank]
  rfl

end HttpServer.Json
