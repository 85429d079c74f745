import HttpServer.Proofs.Text.Utf8
import HttpServer.Text.Percent
import Mathlib.Logic.ExistsUnique

/-!
Percent-encodings of a text. `Encodes` leaves open how each character is written; whatever is
chosen, decoding gives the text back. `Scanned` cuts any input into the escapes and characters
that decoding reads one after the other.
-/

namespace HttpServer.Percent

/-! ### Digits -/

def IsDigitOf (value : Nat) (c : Char) : Prop :=
  c = Nat.digitChar value ∨ c = (Nat.digitChar value).toUpper

def IsHexDigit (c : Char) : Prop :=
  ∃ value < 16, IsDigitOf value c

instance (value : Nat) (c : Char) : Decidable (IsDigitOf value c) :=
  inferInstanceAs (Decidable (_ ∨ _))

instance : DecidablePred IsHexDigit := fun c =>
  inferInstanceAs (Decidable (∃ value < 16, IsDigitOf value c))

theorem hexValue_digit {value : Nat} {c : Char} (below : value < 16) (digit : IsDigitOf value c) :
    String.utf8EncodeChar c = [UInt8.ofNat c.toNat] ∧
      hexValue? (UInt8.ofNat c.toNat) = some (UInt8.ofNat value) := by
  have lower : ∀ value < 16,
      String.utf8EncodeChar (Nat.digitChar value) =
        [UInt8.ofNat (Nat.digitChar value).toNat] ∧
      hexValue? (UInt8.ofNat (Nat.digitChar value).toNat) = some (UInt8.ofNat value) := by
    decide
  have upper : ∀ value < 16,
      String.utf8EncodeChar (Nat.digitChar value).toUpper =
        [UInt8.ofNat (Nat.digitChar value).toUpper.toNat] ∧
      hexValue? (UInt8.ofNat (Nat.digitChar value).toUpper.toNat) = some (UInt8.ofNat value) := by
    decide
  rcases digit with rfl | rfl
  · exact lower value below
  · exact upper value below

theorem IsDigitOf.eq {one other : Nat} {c : Char} (first : IsDigitOf one c)
    (second : IsDigitOf other c) (below : one < 16) (less : other < 16) : one = other := by
  have read := (hexValue_digit below first).2
  rw [(hexValue_digit less second).2, Option.some.injEq, ← UInt8.toNat_inj] at read
  simp at read
  omega

theorem isHexDigit_of_hexValue {byte value : UInt8} (read : hexValue? byte = some value) :
    byte.toNat < 0x80 ∧ IsHexDigit (Char.ofNat byte.toNat) := by
  have all : ∀ byte < 256, (hexValue? (UInt8.ofNat byte)).isSome = true →
      byte < 0x80 ∧ IsHexDigit (Char.ofNat byte) := by
    decide +kernel
  exact all byte.toNat byte.toNat_lt (by simp [read])

/-! ### Bytes -/

def OpensEscape : Bytes → Prop
  | 0x25 :: high :: low :: _ => (hexValue? high).isSome ∧ (hexValue? low).isSome
  | _ => False

theorem unescapeFrom_single {byte : UInt8} {rest : Bytes} (alone : ¬OpensEscape (byte :: rest))
    (done : Bytes) : unescapeFrom done (byte :: rest) =
      unescapeFrom ((if byte = 0x2B then 0x20 else byte) :: done) rest := by
  by_cases shaped : ∃ high low more, byte = 0x25 ∧ rest = high :: low :: more
  · obtain ⟨high, low, more, rfl, rfl⟩ := shaped
    rw [unescapeFrom]
    split
    · rename_i readHigh readLow
      exact absurd ⟨by simp [readHigh], by simp [readLow]⟩ alone
    · rfl
  · rw [unescapeFrom]
    intro high low more percent digits
    exact shaped ⟨high, low, more, percent, digits⟩

theorem unescapeFrom_append (done older input : Bytes) :
    unescapeFrom (done ++ older) input = older.reverse ++ unescapeFrom done input := by
  induction done, input using unescapeFrom.induct with
  | case1 done => simp [unescapeFrom]
  | case2 done high low rest first second readLow readHigh ih =>
      simp only [unescapeFrom, readHigh, readLow]
      exact ih
  | case3 done high low rest malformed ih =>
      have alone : ¬OpensEscape (0x25 :: high :: low :: rest) := by
        intro opens
        obtain ⟨first, readHigh⟩ := Option.isSome_iff_exists.mp opens.1
        obtain ⟨second, readLow⟩ := Option.isSome_iff_exists.mp opens.2
        exact malformed first second readHigh readLow
      rw [unescapeFrom_single alone, unescapeFrom_single alone]
      exact ih
  | case4 done byte rest other ih =>
      rw [unescapeFrom.eq_3 _ _ _ other, unescapeFrom.eq_3 _ _ _ other]
      exact ih

theorem unescape_escape {high low first second : UInt8} (readHigh : hexValue? high = some first)
    (readLow : hexValue? low = some second) (rest : Bytes) :
    unescape (0x25 :: high :: low :: rest) = (first * 16 + second) :: unescape rest := by
  rw [unescape, unescapeFrom]
  simp only [readHigh, readLow]
  exact unescapeFrom_append [] [first * 16 + second] rest

theorem unescape_single {byte : UInt8} {rest : Bytes} (alone : ¬OpensEscape (byte :: rest)) :
    unescape (byte :: rest) = (if byte = 0x2B then 0x20 else byte) :: unescape rest := by
  rw [unescape, unescapeFrom_single alone]
  exact unescapeFrom_append [] [if byte = 0x2B then 0x20 else byte] rest

theorem unescape_append_of_not_mem {front : Bytes} (noPercent : 0x25 ∉ front)
    (noPlus : 0x2B ∉ front) (rest : Bytes) :
    unescape (front ++ rest) = front ++ unescape rest := by
  induction front with
  | nil => rfl
  | cons byte front ih =>
      obtain ⟨notPercent, noPercent⟩ := List.ne_and_not_mem_of_not_mem_cons noPercent
      obtain ⟨notPlus, noPlus⟩ := List.ne_and_not_mem_of_not_mem_cons noPlus
      have alone : ¬OpensEscape (byte :: (front ++ rest)) := by
        unfold OpensEscape
        split
        · rename_i same
          exact absurd (List.cons.inj same).1.symm notPercent
        · exact not_false
      rw [List.cons_append, unescape_single alone, if_neg notPlus.symm, ih noPercent noPlus]
      rfl

/-! ### Characters -/

def BeginsEscape : List Char → Prop
  | '%' :: high :: low :: _ => IsHexDigit high ∧ IsHexDigit low
  | _ => False

instance : DecidablePred BeginsEscape := fun text => by
  unfold BeginsEscape
  split <;> infer_instance

theorem beginsEscape_of_ne {c : Char} (other : c ≠ '%') (rest : List Char) :
    ¬BeginsEscape (c :: rest) := by
  unfold BeginsEscape
  split
  · rename_i same
    exact absurd (List.cons.inj same).1 other
  · exact not_false

theorem beginsEscape_of_opensEscape {text : List Char}
    (opens : OpensEscape (Utf8.encode text)) : BeginsEscape text := by
  unfold OpensEscape at opens
  split at opens
  · rename_i high low rest spelled
    obtain ⟨first, readHigh⟩ := Option.isSome_iff_exists.mp opens.1
    obtain ⟨second, readLow⟩ := Option.isSome_iff_exists.mp opens.2
    obtain ⟨asciiHigh, digitHigh⟩ := isHexDigit_of_hexValue readHigh
    obtain ⟨asciiLow, digitLow⟩ := isHexDigit_of_hexValue readLow
    obtain ⟨digits, rfl, behind⟩ := Utf8.exists_of_encode_eq_cons (by decide) spelled
    obtain ⟨digit, rfl, last⟩ := Utf8.exists_of_encode_eq_cons asciiHigh behind.symm
    obtain ⟨more, rfl, -⟩ := Utf8.exists_of_encode_eq_cons asciiLow last.symm
    exact ⟨digitHigh, digitLow⟩
  · exact opens.elim

theorem unescape_encode_escape {value : UInt8} {high low : Char}
    (first : IsDigitOf (value.toNat / 16) high) (second : IsDigitOf (value.toNat % 16) low)
    (rest : List Char) :
    unescape (Utf8.encode ('%' :: high :: low :: rest)) =
      value :: unescape (Utf8.encode rest) := by
  have below := value.toNat_lt
  obtain ⟨oneHigh, readHigh⟩ := hexValue_digit (by omega) first
  obtain ⟨oneLow, readLow⟩ := hexValue_digit (by omega) second
  have whole : UInt8.ofNat (value.toNat / 16) * 16 + UInt8.ofNat (value.toNat % 16) = value := by
    rw [← UInt8.toNat_inj]
    simp
    omega
  rw [Utf8.encode_cons, Utf8.encode_cons, Utf8.encode_cons, oneHigh, oneLow]
  have read := unescape_escape readHigh readLow (Utf8.encode rest)
  rw [whole] at read
  exact read

theorem unescape_encode_single {c : Char} {rest : List Char}
    (alone : ¬BeginsEscape (c :: rest)) :
    unescape (Utf8.encode (c :: rest)) =
      String.utf8EncodeChar (if c = '+' then ' ' else c) ++ unescape (Utf8.encode rest) := by
  have kept : ¬OpensEscape (Utf8.encode (c :: rest)) := alone ∘ beginsEscape_of_opensEscape
  by_cases plus : c = '+'
  · subst plus
    exact unescape_single kept
  · by_cases percent : c = '%'
    · subst percent
      exact unescape_single kept
    · rw [if_neg plus, Utf8.encode_cons]
      apply unescape_append_of_not_mem
      · intro member
        exact percent (Char.toNat_inj.mp (Utf8.mem_encodeChar_ascii (by decide) member))
      · intro member
        exact plus (Char.toNat_inj.mp (Utf8.mem_encodeChar_ascii (by decide) member))

/-! ### Encodings -/

inductive Escapes : Bytes → List Char → Prop
  | nil : Escapes [] []
  | byte {byte : UInt8} {bytes : Bytes} {high low : Char} {written : List Char}
      (first : IsDigitOf (byte.toNat / 16) high) (second : IsDigitOf (byte.toNat % 16) low)
      (more : Escapes bytes written) :
      Escapes (byte :: bytes) ('%' :: high :: low :: written)

/-- The ways to write a text. Each character stands for itself or is escaped byte by byte, and a
space may be a plus sign. A percent sign stands for itself only where no escape begins with it. -/
inductive Encodes : List Char → List Char → Prop
  | nil : Encodes [] []
  | plain {c : Char} {text written : List Char} (free : c ≠ '%' ∧ c ≠ '+')
      (more : Encodes text written) : Encodes (c :: text) (c :: written)
  | plus {text written : List Char} (more : Encodes text written) :
      Encodes (' ' :: text) ('+' :: written)
  | escaped {c : Char} {text escape written : List Char}
      (escapes : Escapes (String.utf8EncodeChar c) escape) (more : Encodes text written) :
      Encodes (c :: text) (escape ++ written)
  | percent {text written : List Char} (alone : ¬BeginsEscape ('%' :: written))
      (more : Encodes text written) : Encodes ('%' :: text) ('%' :: written)

theorem Escapes.unescape_append {bytes : Bytes} {escape : List Char}
    (escapes : Escapes bytes escape) (rest : List Char) :
    unescape (Utf8.encode (escape ++ rest)) = bytes ++ unescape (Utf8.encode rest) := by
  induction escapes with
  | nil => rfl
  | byte first second _ ih =>
      rw [List.cons_append, List.cons_append, List.cons_append,
        unescape_encode_escape first second, ih]
      rfl

theorem Encodes.unescape_eq {text written : List Char} (encodes : Encodes text written) :
    unescape (Utf8.encode written) = Utf8.encode text := by
  induction encodes with
  | nil => rfl
  | plain free _ ih =>
      rw [unescape_encode_single (beginsEscape_of_ne free.1 _), if_neg free.2, ih,
        Utf8.encode_cons]
  | plus _ ih =>
      rw [unescape_encode_single (beginsEscape_of_ne (by decide) _), if_pos rfl, ih,
        Utf8.encode_cons]
  | escaped escapes _ ih => rw [escapes.unescape_append, ih, Utf8.encode_cons]
  | percent alone _ ih =>
      rw [unescape_encode_single alone, if_neg (by decide), ih, Utf8.encode_cons]

theorem Encodes.decode_eq {text written : String}
    (encodes : Encodes text.toList written.toList) : decode written = text := by
  rw [decode, Utf8.bytes, encodes.unescape_eq]
  exact Utf8.lossy_bytes text

/-! ### The scan -/

inductive Token
  | escape (value : UInt8) (high low : Char)
  | single (c : Char)
deriving DecidableEq, Repr

namespace Token

def written : Token → List Char
  | escape _ high low => ['%', high, low]
  | single c => [c]

def bytes : Token → Bytes
  | escape value _ _ => [value]
  | single c => String.utf8EncodeChar (if c = '+' then ' ' else c)

end Token

/-- The text is read as these tokens, an escape wherever one begins. -/
inductive Scanned : List Char → List Token → Prop
  | nil : Scanned [] []
  | escape {value : UInt8} {high low : Char} {rest : List Char} {tokens : List Token}
      (first : IsDigitOf (value.toNat / 16) high) (second : IsDigitOf (value.toNat % 16) low)
      (more : Scanned rest tokens) :
      Scanned ('%' :: high :: low :: rest) (.escape value high low :: tokens)
  | single {c : Char} {rest : List Char} {tokens : List Token}
      (alone : ¬BeginsEscape (c :: rest)) (more : Scanned rest tokens) :
      Scanned (c :: rest) (.single c :: tokens)

theorem Scanned.written_eq {text : List Char} {tokens : List Token}
    (scanned : Scanned text tokens) : tokens.flatMap Token.written = text := by
  induction scanned with
  | nil => rfl
  | escape _ _ _ ih => simp [Token.written, ih]
  | single _ _ ih => simp [Token.written, ih]

theorem Scanned.unescape_eq {text : List Char} {tokens : List Token}
    (scanned : Scanned text tokens) :
    unescape (Utf8.encode text) = tokens.flatMap Token.bytes := by
  induction scanned with
  | nil => rfl
  | escape first second _ ih =>
      rw [unescape_encode_escape first second, ih]
      rfl
  | single alone _ ih =>
      rw [unescape_encode_single alone, ih]
      rfl

theorem beginsEscape_of_digits {value : UInt8} {high low : Char}
    (first : IsDigitOf (value.toNat / 16) high) (second : IsDigitOf (value.toNat % 16) low)
    (rest : List Char) : BeginsEscape ('%' :: high :: low :: rest) := by
  have below := value.toNat_lt
  exact ⟨⟨_, by omega, first⟩, ⟨_, by omega, second⟩⟩

theorem Scanned.unique {text : List Char} {tokens others : List Token}
    (scanned : Scanned text tokens) (again : Scanned text others) : others = tokens := by
  induction scanned generalizing others with
  | nil =>
      cases again
      rfl
  | @escape value high low rest tokens first second more ih =>
      cases again with
      | @escape same _ _ _ _ firstSame secondSame moreSame =>
          have below := value.toNat_lt
          have less := same.toNat_lt
          have upper := first.eq firstSame (by omega) (by omega)
          have lower := second.eq secondSame (by omega) (by omega)
          obtain rfl : same = value := UInt8.toNat_inj.mp (by omega)
          rw [ih moreSame]
      | single alone _ => exact absurd (beginsEscape_of_digits first second rest) alone
  | single alone _ ih =>
      cases again with
      | escape first second _ => exact absurd (beginsEscape_of_digits first second _) alone
      | single _ moreSame => rw [ih moreSame]

theorem exists_scanned (text : List Char) : ∃ tokens, Scanned text tokens := by
  induction sizeEq : text.length using Nat.strongRecOn generalizing text with
  | ind size ih =>
      subst sizeEq
      by_cases begins : BeginsEscape text
      · unfold BeginsEscape at begins
        split at begins
        · rename_i high low rest
          obtain ⟨⟨upper, below, first⟩, lower, less, second⟩ := begins
          obtain ⟨tokens, more⟩ := ih rest.length (by simp; omega) rest rfl
          have value : (UInt8.ofNat (upper * 16 + lower)).toNat = upper * 16 + lower := by
            simp
            omega
          refine ⟨.escape (UInt8.ofNat (upper * 16 + lower)) high low :: tokens,
            .escape ?_ ?_ more⟩
          · rwa [value, show (upper * 16 + lower) / 16 = upper by omega]
          · rwa [value, show (upper * 16 + lower) % 16 = lower by omega]
        · exact begins.elim
      · cases text with
        | nil => exact ⟨[], .nil⟩
        | cons c rest =>
            obtain ⟨tokens, more⟩ := ih rest.length (by simp) rest rfl
            exact ⟨.single c :: tokens, .single begins more⟩

/-- Decoding undoes every encoding. Any text at all is read in one way, from its beginning to its
end and no further: as escapes and, where none begins, as characters, each of which gives its
bytes. -/
theorem decode_encoded :
    (∀ text written : String, Encodes text.toList written.toList → decode written = text) ∧
    ∀ input : String, ∃! tokens, Scanned input.toList tokens ∧
      tokens.flatMap Token.written = input.toList ∧
      unescape (Utf8.bytes input) = tokens.flatMap Token.bytes := by
  constructor
  · intro text written encodes
    exact encodes.decode_eq
  · intro input
    obtain ⟨tokens, scanned⟩ := exists_scanned input.toList
    refine ⟨tokens, ⟨scanned, scanned.written_eq, scanned.unescape_eq⟩, ?_⟩
    rintro others ⟨again, -⟩
    exact scanned.unique again

theorem decode_encoded_mixed :
    Encodes "é +%zz 5%".toList "%c3%A9+%2b%zz 5%".toList ∧
      decode "%c3%A9+%2b%zz 5%" = "é +%zz 5%" := by
  have letter : Escapes (String.utf8EncodeChar 'é') ['%', 'c', '3', '%', 'A', '9'] :=
    .byte (by decide) (by decide) (.byte (by decide) (by decide) .nil)
  have sign : Escapes (String.utf8EncodeChar '+') ['%', '2', 'b'] :=
    .byte (by decide) (by decide) .nil
  have encodes : Encodes "é +%zz 5%".toList "%c3%A9+%2b%zz 5%".toList := by
    refine .escaped letter (.plus (.escaped sign ?_))
    refine .percent (by decide) (.plain (by decide) (.plain (by decide) ?_))
    exact .plain (by decide) (.plain (by decide) (.percent (by decide) .nil))
  exact ⟨encodes, decode_encoded.1 _ _ encodes⟩

end HttpServer.Percent
