import HttpServer.Proofs.Json.Grammar
import Mathlib.Data.List.TakeDrop

/-!
Strings and integers, read from their texts. However a character is written, it is read as that
character; the digits of an integer end in front of what cannot go on with a number.
-/

namespace HttpServer.Json

/-! ### Strings -/

def IsPlain (byte : UInt8) : Prop :=
  byte ≠ 0x22 ∧ byte ≠ 0x5C ∧ ¬byte < 0x20

theorem stringFrom_plain {letters : Bytes} (plain : ∀ byte ∈ letters, IsPlain byte)
    (text rest : Bytes) : stringFrom .plain text (letters ++ rest) =
      stringFrom .plain (letters.reverse ++ text) rest := by
  induction letters generalizing text with
  | nil => rfl
  | cons byte letters ih =>
      obtain ⟨noQuote, noEscape, noControl⟩ := plain byte List.mem_cons_self
      rw [List.cons_append, stringFrom]
      simp only [noQuote, noEscape, noControl, if_false]
      rw [ih fun other member => plain other (List.mem_cons_of_mem _ member)]
      simp

theorem stringFrom_escaped {byte meaning : UInt8} (known : escaped? byte = some meaning)
    (text rest : Bytes) : stringFrom .plain text (0x5C :: byte :: rest) =
      stringFrom .plain (meaning :: text) rest := by
  have noUnit : byte ≠ 0x75 := by
    rintro rfl
    cases known
  simp [stringFrom, noUnit, known]

theorem stringFrom_unit {first second third fourth : UInt8} {unit : Nat}
    (value : hexUnit? [fourth, third, second, first] = some unit) {lead : Option Nat}
    {text longer : Bytes} {next : StringState} (added : addUnit text lead unit = .ok (next, longer))
    (rest : Bytes) :
    stringFrom (.unit [] lead) text (first :: second :: third :: fourth :: rest) =
      stringFrom next longer rest := by
  simp [stringFrom, value, added]

theorem isPlain_of_mem {c : Char} (noQuote : c ≠ '"') (noEscape : c ≠ '\\')
    (noControl : ¬c.toNat < 0x20) {byte : UInt8} (member : byte ∈ String.utf8EncodeChar c) :
    IsPlain byte := by
  have value (ascii : byte.toNat < 0x80) : c.toNat = byte.toNat :=
    Utf8.mem_encodeChar_ascii ascii member
  refine ⟨?_, ?_, ?_⟩
  · rintro rfl
    exact noQuote (eq_of_toNat (value (by decide)))
  · rintro rfl
    exact noEscape (eq_of_toNat (value (by decide)))
  · intro control
    have small : byte.toNat < 0x20 := UInt8.lt_iff_toNat_lt.mp control
    rw [value (by omega)] at noControl
    exact noControl small

theorem stringFrom_charText {c : Char} {written : Bytes} (is : CharText c written)
    (text rest : Bytes) : stringFrom .plain text (written ++ rest) =
      stringFrom .plain ((String.utf8EncodeChar c).reverse ++ text) rest := by
  cases is with
  | plain noQuote noEscape noControl =>
      exact stringFrom_plain (fun byte => isPlain_of_mem noQuote noEscape noControl) text rest
  | letter known same =>
      rw [same]
      exact stringFrom_escaped known text rest
  | unit value =>
      obtain ⟨value⟩ := value
      have valid : c.toNat < 0xD800 ∨ 0xDFFF < c.toNat := by
        rcases c.valid with low | ⟨high, -⟩
        · exact .inl low
        · exact .inr high
      have added : addUnit text none c.toNat = .ok (.plain, addCode text c.toNat) := by
        have noLow : ¬(0xDC00 ≤ c.toNat ∧ c.toNat ≤ 0xDFFF) := by omega
        have noHigh : ¬(0xD800 ≤ c.toNat ∧ c.toNat ≤ 0xDBFF) := by omega
        simp [addUnit, noLow, noHigh]
      have read := stringFrom_unit value added rest
      rw [addCode, Char.ofNat_toNat] at read
      exact read
  | @pair high low first second lead trail highBound lowBound same =>
      obtain ⟨leadValue⟩ := lead
      obtain ⟨trailValue⟩ := trail
      have opened : addUnit text none (0xD800 + high) =
          .ok (.secondEscape (0xD800 + high), text) := by
        have noLow : ¬(0xDC00 ≤ 0xD800 + high ∧ 0xD800 + high ≤ 0xDFFF) := by omega
        have isHigh : 0xD800 ≤ 0xD800 + high ∧ 0xD800 + high ≤ 0xDBFF := by omega
        simp [addUnit, noLow, isHigh]
      have closed : addUnit text (some (0xD800 + high)) (0xDC00 + low) =
          .ok (.plain, addCode text c.toNat) := by
        have isLow : 0xDC00 ≤ 0xDC00 + low ∧ 0xDC00 + low ≤ 0xDFFF := by omega
        simp [addUnit, isLow, same]
      have firstRead := stringFrom_unit leadValue opened
      have secondRead := stringFrom_unit trailValue closed rest
      rw [addCode, Char.ofNat_toNat] at secondRead
      rw [List.append_assoc]
      exact (firstRead _).trans secondRead

theorem stringFrom_charsText {chars : List Char} {written : Bytes} (is : CharsText chars written)
    (done : List Char) (rest : Bytes) :
    stringFrom .plain (Utf8.encode done).reverse (written ++ 0x22 :: rest) =
      .ok (String.ofList (done ++ chars), rest) := by
  induction is generalizing done with
  | nil =>
      have read : Utf8.text? (Utf8.encode done) = some (String.ofList done) := by
        simpa [Utf8.bytes] using Utf8.text?_bytes (String.ofList done)
      change stringFrom .plain (Utf8.encode done).reverse (0x22 :: rest) = _
      simp only [stringFrom, if_true, List.reverse_reverse, read, List.append_nil]
  | @cons c chars text more first _ ih =>
      have longer : (String.utf8EncodeChar c).reverse ++ (Utf8.encode done).reverse =
          (Utf8.encode (done ++ [c])).reverse := by
        simp [Utf8.encode]
      rw [List.append_assoc, stringFrom_charText first, longer, ih, List.append_assoc,
        List.singleton_append]

theorem stringFrom_stringText {string : String} {text : Bytes} (is : StringText string text)
    (rest : Bytes) :
    ∃ after, text ++ rest = 0x22 :: after ∧ stringFrom .plain [] after = .ok (string, rest) := by
  obtain ⟨inside⟩ := is
  have read := stringFrom_charsText inside [] rest
  rw [List.nil_append, String.ofList_toList] at read
  refine ⟨_, List.cons_append .., ?_⟩
  rw [List.append_assoc]
  exact read

/-! ### Integers -/

/-- What may follow a number without being taken for a part of it. -/
def Ends (rest : Bytes) : Prop :=
  ∀ byte ∈ rest.head?, isDigit byte = false ∧ byte ≠ 0x2E ∧ byte ≠ 0x65 ∧ byte ≠ 0x45

theorem ends_nil : Ends [] := by
  intro byte first
  cases first

theorem ends_cons {byte : UInt8} (other : isDigit byte = false ∧ byte ≠ 0x2E ∧ byte ≠ 0x65 ∧
    byte ≠ 0x45) (rest : Bytes) : Ends (byte :: rest) := by
  intro first same
  cases same
  exact other

theorem digit_byte {digit : Nat} (bound : digit < 10) :
    ∃ byte, String.utf8EncodeChar (digitChar digit) = [byte] ∧ isDigit byte = true ∧
      byte.toNat - 0x30 = digit := by
  have all : ∀ digit < 10, String.utf8EncodeChar (digitChar digit) = [UInt8.ofNat (0x30 + digit)] ∧
      isDigit (UInt8.ofNat (0x30 + digit)) = true ∧
      (UInt8.ofNat (0x30 + digit)).toNat - 0x30 = digit := by
    decide
  exact ⟨_, all digit bound⟩

theorem takeDigits_step {byte : UInt8} {significand value : Nat} (digit : isDigit byte = true)
    (next : significand * 10 + (byte.toNat - 0x30) = value) (bound : value ≤ maxWord) (taken : Nat)
    (rest : Bytes) :
    takeDigits significand taken (byte :: rest) = takeDigits value (taken + 1) rest := by
  rw [takeDigits, next, if_pos (by simp [digit, bound])]

theorem takeDigits_ends {rest : Bytes} (ends : Ends rest) (significand taken : Nat) :
    takeDigits significand taken rest = (significand, taken, rest) := by
  cases rest with
  | nil => rfl
  | cons byte rest =>
      have other := (ends byte rfl).1
      rw [takeDigits, if_neg (by simp [other])]

theorem takeDigits_digitsOnto {value : Nat} (digits : List Char) (bound : value ≤ maxWord)
    (rest : Bytes) :
    ∃ taken, takeDigits 0 0 (Utf8.encode (digitsOnto digits value) ++ rest) =
      takeDigits value taken (Utf8.encode digits ++ rest) := by
  -- The last digit stands right in front of `digits`; those of the quotient are read before it.
  induction digits, value using digitsOnto.induct with
  | case1 digits value small =>
      obtain ⟨byte, written, digit, same⟩ := digit_byte small
      refine ⟨1, ?_⟩
      rw [digitsOnto, if_pos small, Utf8.encode_cons, written]
      exact takeDigits_step digit (by omega) bound 0 _
  | case2 digits value large ih =>
      have last : value % 10 < 10 := Nat.mod_lt value (by decide)
      obtain ⟨byte, written, digit, same⟩ := digit_byte last
      obtain ⟨taken, front⟩ := ih (by omega)
      refine ⟨taken + 1, ?_⟩
      rw [digitsOnto, if_neg large, front, Utf8.encode_cons, written]
      exact takeDigits_step digit (by omega) bound taken _

theorem head_digitsOnto {value : Nat} (positive : 0 < value) (digits : List Char) :
    ∃ byte more, Utf8.encode (digitsOnto digits value) = byte :: more ∧ isDigit byte = true ∧
      byte ≠ 0x30 := by
  induction digits, value using digitsOnto.induct with
  | case1 digits value small =>
      obtain ⟨byte, written, digit, same⟩ := digit_byte small
      refine ⟨byte, Utf8.encode digits, ?_, digit, ?_⟩
      · rw [digitsOnto, if_pos small, Utf8.encode_cons, written, List.singleton_append]
      · rintro rfl
        have zero : (0x30 : UInt8).toNat = 0x30 := rfl
        omega
  | case2 digits value large ih =>
      rw [digitsOnto, if_neg large]
      exact ih (by omega)

theorem numberTail_ends {rest : Bytes} (ends : Ends rest) (positive : Bool) (value : Nat) :
    numberTail positive value 0 rest = numberTail.integer positive value 0 rest := by
  cases rest with
  | nil => rfl
  | cons byte rest =>
      obtain ⟨-, noPoint, noSmall, noLarge⟩ := ends byte rfl
      rw [numberTail]
      · simp [noSmall, noLarge]
      · exact noPoint

theorem readNumber_decimal {value : Nat} (bound : value ≤ maxWord) (positive : Bool)
    {rest : Bytes} (ends : Ends rest) :
    readNumber positive (Utf8.bytes (decimal value) ++ rest) =
      numberTail.integer positive value 0 rest := by
  rw [Utf8.bytes, decimal, String.toList_ofList]
  rcases Nat.eq_zero_or_pos value with rfl | above
  · have zero : Utf8.encode (digitsOnto [] 0) = [0x30] := by simp [digitsOnto]; decide
    have next : (rest.head?.map isDigit).getD false = false := by
      cases rest with
      | nil => rfl
      | cons byte rest => exact (ends byte rfl).1
    rw [zero, List.singleton_append, readNumber, if_pos rfl, next]
    exact numberTail_ends ends positive 0
  · obtain ⟨byte, more, written, digit, noZero⟩ := head_digitsOnto above []
    obtain ⟨taken, took⟩ := takeDigits_digitsOnto [] bound rest
    have value_le : byte.toNat - 0x30 ≤ maxWord :=
      Nat.le_trans (Nat.sub_le _ _) (Nat.le_trans (Nat.le_of_lt byte.toNat_lt) (by decide))
    rw [written, List.cons_append, takeDigits_step digit (by omega) value_le,
      show Utf8.encode [] = [] from rfl, List.nil_append, takeDigits_ends ends] at took
    have none_left : rest.span isDigit = ([], rest) := by
      cases rest with
      | nil => rfl
      | cons byte rest => simp [List.span_eq_takeWhile_dropWhile, (ends byte rfl).1]
    rw [written, List.cons_append, readNumber, if_neg noZero, if_pos digit, took]
    simp only [none_left, List.length_nil]
    exact numberTail_ends ends positive value

end HttpServer.Json
