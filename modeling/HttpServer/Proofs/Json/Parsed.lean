import HttpServer.Json.Standard
import HttpServer.Proofs.Json.Reading

/-!
Documents that were read. Whatever the text, the members of their objects ascend, and they are
nested no deeper than was allowed; so each is its own normal form. With that, the library that the
program runs with keeps its promises.
-/

namespace HttpServer.Json

/-- Whatever a reader returns is as it should be. -/
structure Makes (holds : Json → Prop) (result : Except Fault (Json × Bytes)) : Prop where
  fits : ∀ document rest, result = .ok (document, rest) → holds document

section

variable {holds : Json → Prop}

theorem makes_ok {document : Json} (fits : holds document) (rest : Bytes) :
    Makes holds (.ok (document, rest)) where
  fits := by
    intro other after same
    cases same
    exact fits

theorem makes_error (fault : Fault) : Makes holds (.error fault) where
  fits := by
    intro document rest read
    cases read

theorem makes_bind {α : Type} {first : Except Fault α} {next : α → Except Fault (Json × Bytes)}
    (later : ∀ value, first = .ok value → Makes holds (next value)) :
    Makes holds (first >>= next) := by
  cases result : first with
  | error fault => exact makes_error fault
  | ok value => exact later value result

end

/-! ### Readers of single values -/

def IsFlat (document : Json) : Prop :=
  document.isNested = false

theorem makes_number (value : Number) (rest : Bytes) :
    Makes IsFlat (.ok (.number value, rest)) :=
  makes_ok (by rfl) rest

theorem makes_readWord {value : Json} (flat : value.IsFlat) (letters rest : Bytes) :
    Makes IsFlat (readWord value letters rest) := by
  fun_induction readWord value letters rest with
  | case1 rest => exact makes_ok flat rest
  | case2 => exact makes_error _
  | case3 letters rest byte ih => exact ih
  | case4 => exact makes_error _

theorem makes_scaled (positive : Bool) (significand : Nat) (exponent : Int) (rest : Bytes) :
    Makes IsFlat (scaled positive significand exponent rest) := by
  unfold scaled
  split
  · exact makes_number _ rest
  · exact makes_error _

theorem makes_exponentDigits (positive up : Bool) (significand : Nat) (start : Int)
    (rest : Bytes) : Makes IsFlat (exponentDigits positive up significand start rest) := by
  unfold exponentDigits
  split
  · exact makes_error _
  · split
    · split
      · exact makes_scaled ..
      · split
        · exact makes_error _
        · exact makes_number _ _
    · exact makes_error _

theorem makes_exponentPart (positive : Bool) (significand : Nat) (start : Int) (rest : Bytes) :
    Makes IsFlat (exponentPart positive significand start rest) := by
  unfold exponentPart
  split
  · exact makes_scaled ..
  · split
    · split <;> exact makes_exponentDigits ..
    · exact makes_scaled ..

theorem makes_fractionPart (positive : Bool) (significand : Nat) (start : Int) (rest : Bytes) :
    Makes IsFlat (fractionPart positive significand start rest) := by
  unfold fractionPart
  dsimp only
  split
  · exact makes_exponentPart ..
  · split <;> exact makes_error _

theorem makes_integer (positive : Bool) (significand dropped : Nat) (rest : Bytes) :
    Makes IsFlat (numberTail.integer positive significand dropped rest) := by
  unfold numberTail.integer
  split
  · exact makes_scaled ..
  · split
    · exact makes_number _ rest
    · split <;> exact makes_number _ rest

theorem makes_numberTail (positive : Bool) (significand dropped : Nat) (rest : Bytes) :
    Makes IsFlat (numberTail positive significand dropped rest) := by
  unfold numberTail
  split
  · exact makes_fractionPart ..
  · split
    · exact makes_exponentPart ..
    · exact makes_integer ..
  · exact makes_integer ..

theorem makes_readNumber (positive : Bool) (rest : Bytes) :
    Makes IsFlat (readNumber positive rest) := by
  unfold readNumber
  split
  · exact makes_error _
  · split
    · split
      · exact makes_error _
      · exact makes_numberTail ..
    · split
      · exact makes_numberTail ..
      · exact makes_error _

/-! ### Arrays and objects -/

section

variable {holds : Json → Prop} {item : Bytes → Except Fault (Json × Bytes)}
  (sound : ∀ rest, Makes holds (item rest))
include sound

def IsArrayOf (holds : Json → Prop) (document : Json) : Prop :=
  ∃ items, document = .array items ∧ ∀ part ∈ items, holds part

def IsObjectOf (holds : Json → Prop) (document : Json) : Prop :=
  ∃ members, document = .object members ∧ Ascending members ∧ ∀ entry ∈ members, holds entry.2

theorem makes_itemsFrom {done : List Json} (before : ∀ part ∈ done, holds part) (fuel : Nat)
    (rest : Bytes) : Makes (IsArrayOf holds) (itemsFrom item done fuel rest) := by
  induction fuel generalizing done rest with
  | zero => exact makes_error _
  | succ fuel ih =>
      -- The first item and the later ones are read in two places, but go on alike.
      have next (text : Bytes) : Makes (IsArrayOf holds)
          (item text >>= fun read => itemsFrom item (read.1 :: done) fuel read.2) := by
        apply makes_bind
        rintro ⟨value, after⟩ read
        apply ih
        intro part member
        rcases List.mem_cons.mp member with rfl | earlier
        · exact (sound text).fits _ _ read
        · exact before part earlier
      unfold itemsFrom
      split
      · exact makes_error _
      · split
        · refine makes_ok ⟨done.reverse, rfl, ?_⟩ _
          intro part member
          exact before part (List.mem_reverse.mp member)
        · split
          · exact next _
          · split
            · split
              · exact makes_error _
              · split
                · exact makes_error _
                · exact next _
            · exact makes_error _

theorem holds_of_member {text rest : Bytes} {key : String} {value : Json}
    (read : member item text = .ok ((key, value), rest)) : holds value := by
  simp only [member, bind, Except.bind] at read
  split at read
  · cases read
  · split at read
    · cases read
    · split at read
      · split at read
        · cases read
        · rename_i pair valued
          obtain ⟨document, after⟩ := pair
          cases read
          exact (sound _).fits _ _ valued
      · cases read

theorem makes_membersFrom {done : List (String × Json)} (ascending : Ascending done)
    (before : ∀ entry ∈ done, holds entry.2) (first : Bool) (fuel : Nat) (rest : Bytes) :
    Makes (IsObjectOf holds) (membersFrom item first done fuel rest) := by
  induction fuel generalizing first done rest with
  | zero => exact makes_error _
  | succ fuel ih =>
      have next (text : Bytes) : Makes (IsObjectOf holds)
          (member item text >>= fun read =>
            membersFrom item false (addMember read.1.1 read.1.2 done) fuel read.2) := by
        apply makes_bind
        rintro ⟨⟨key, value⟩, after⟩ read
        apply ih (ascending_addMember ascending key value)
        intro entry inside
        rcases mem_addMember inside with rfl | earlier
        · exact holds_of_member sound read
        · exact before entry earlier
      unfold membersFrom
      split
      · exact makes_error _
      · split
        · exact makes_ok ⟨done, rfl, ascending, before⟩ _
        · split
          · split
            · exact next _
            · exact makes_error _
          · split
            · split
              · exact makes_error _
              · split
                · exact next _
                · split <;> exact makes_error _
            · exact makes_error _

end

/-! ### Documents -/

theorem regular_of_isArrayOf {levels : Nat} {document : Json}
    (array : IsArrayOf (Regular levels) document) : Regular (levels + 1) document := by
  obtain ⟨items, rfl, regular⟩ := array
  exact regular_array regular

theorem regular_of_isObjectOf {levels : Nat} {document : Json}
    (object : IsObjectOf (Regular levels) document) : Regular (levels + 1) document := by
  obtain ⟨members, rfl, ascending, regular⟩ := object
  exact regular_object ascending regular

theorem Makes.imp {holds weaker : Json → Prop} {result : Except Fault (Json × Bytes)}
    (makes : Makes holds result) (imp : ∀ document, holds document → weaker document) :
    Makes weaker result where
  fits document rest read := imp document (makes.fits document rest read)

theorem makes_text (levels : Nat) (rest : Bytes) : Makes (Regular levels) (do
    let (text, rest) ← stringFrom .plain [] rest
    return (.string text, rest)) := by
  apply makes_bind
  rintro ⟨text, after⟩ -
  exact makes_ok (regular_of_flat rfl levels) after

theorem makes_value {fuel levels : Nat}
    (inside : ∀ lower, levels = lower + 1 → ∀ rest,
      Makes (Regular lower) (valueWithin fuel lower rest)) (rest : Bytes) :
    Makes (Regular levels) (valueWithin fuel levels rest) := by
  have word {value : Json} (flat : value.IsFlat) (letters after : Bytes) :
      Makes (Regular levels) (readWord value letters after) :=
    (makes_readWord flat letters after).imp fun _ single => regular_of_flat single levels
  have number (positive : Bool) (after : Bytes) :
      Makes (Regular levels) (readNumber positive after) :=
    (makes_readNumber positive after).imp fun _ single => regular_of_flat single levels
  unfold valueWithin
  split
  · exact makes_error _
  split
  · exact word (by rfl) _ _
  split
  · exact word (by rfl) _ _
  split
  · exact word (by rfl) _ _
  split
  · exact number false _
  split
  · exact number true _
  split
  · exact makes_text levels _
  split
  · split
    · exact makes_error _
    · rename_i lower
      have sound := inside lower rfl
      exact (makes_itemsFrom sound (by simp) _ _).imp fun _ => regular_of_isArrayOf
  split
  · split
    · exact makes_error _
    · rename_i lower
      have sound := inside lower rfl
      exact (makes_membersFrom sound .nil (by simp) _ _ _).imp fun _ => regular_of_isObjectOf
  · exact makes_error _

theorem makes_valueWithin (fuel levels : Nat) (rest : Bytes) :
    Makes (Regular levels) (valueWithin fuel levels rest) := by
  induction levels generalizing rest with
  | zero =>
      apply makes_value
      intro lower above
      cases above
  | succ levels ih =>
      apply makes_value
      intro lower same
      cases same
      exact ih

theorem regular_of_read {levels : Nat} {input : Bytes} {document : Json}
    (made : readWithin levels input = .ok document) : Regular levels document := by
  simp only [readWithin, bind, Except.bind] at made
  split at made
  · cases made
  · rename_i pair value
    obtain ⟨found, after⟩ := pair
    split at made
    · cases made
      exact (makes_valueWithin _ _ _).fits _ _ value
    · cases made

theorem parse_eq_readWithin (input : Bytes) :
    parse input = (readWithin maxLevels input).mapError fun fault => fault.message input := by
  rw [parse, read_eq_readWithin]
  cases readWithin maxLevels input <;> rfl

theorem Library.standard_lawful : Library.standard.Lawful where
  reads document text is := by
    change Json.parse text = _
    rw [parse_eq_readWithin, reads_readWithin maxLevels document text is]
    rfl
  regular text document parsed := by
    change Json.parse text = _ at parsed
    rw [parse_eq_readWithin] at parsed
    cases made : readWithin maxLevels text with
    | error fault =>
        rw [made] at parsed
        cases parsed
    | ok found =>
        rw [made] at parsed
        cases parsed
        exact regular_of_read made
  writes document _ _ := bytes_render document

end HttpServer.Json
