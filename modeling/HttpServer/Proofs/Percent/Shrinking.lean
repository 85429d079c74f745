import HttpServer.Proofs.Percent.Encodings
import Mathlib.Logic.Function.Iterate

/-!
Decoding never makes a text longer, and changes it unless there is nothing to decode. Both come
from a weight: the bytes of a text, and as an extra its signs `%` and `+`. An escape weighs at
least as much as a replacement, so malformed bytes do not add to it, and with the extra it weighs
more than any byte that it stands for.
-/

namespace HttpServer.Percent

def HasEscape (text : List Char) : Prop :=
  ∃ front high low rest, text = front ++ '%' :: high :: low :: rest ∧
    IsHexDigit high ∧ IsHexDigit low

theorem not_hasEscape_nil : ¬HasEscape [] := by
  rintro ⟨front, high, low, rest, split, -⟩
  simp at split

theorem hasEscape_cons (c : Char) (rest : List Char) :
    HasEscape (c :: rest) ↔ BeginsEscape (c :: rest) ∨ HasEscape rest := by
  constructor
  · rintro ⟨front, high, low, more, split, digits⟩
    cases front with
    | nil =>
        obtain ⟨rfl, rfl⟩ := List.cons.inj split
        exact .inl digits
    | cons first front =>
        exact .inr ⟨front, high, low, more, (List.cons.inj split).2, digits⟩
  · rintro (begins | ⟨front, high, low, more, rfl, digits⟩)
    · unfold BeginsEscape at begins
      split at begins
      · rename_i high low more opened
        exact ⟨[], high, low, more, opened, begins⟩
      · exact begins.elim
    · exact ⟨c :: front, high, low, more, rfl, digits⟩

instance decidableHasEscape : DecidablePred HasEscape
  | [] => .isFalse not_hasEscape_nil
  | c :: rest =>
      have := decidableHasEscape rest
      decidable_of_iff _ (hasEscape_cons c rest).symm

theorem encodes_self {text : List Char} (noPlus : '+' ∉ text) (noEscape : ¬HasEscape text) :
    Encodes text text := by
  induction text with
  | nil => exact .nil
  | cons c rest ih =>
      rw [hasEscape_cons, not_or] at noEscape
      obtain ⟨notPlus, noPlus⟩ := List.ne_and_not_mem_of_not_mem_cons noPlus
      have more := ih noPlus noEscape.2
      by_cases percent : c = '%'
      · subst percent
        exact .percent noEscape.1 more
      · exact .plain ⟨percent, notPlus.symm⟩ more

/-! ### Weights -/

def isSign (c : Char) : Bool :=
  c = '%' || c = '+'

def weight (extra : Nat) (text : List Char) : Nat :=
  (Utf8.encode text).length + extra * text.countP isSign

theorem weight_append (extra : Nat) (front rest : List Char) :
    weight extra (front ++ rest) = weight extra front + weight extra rest := by
  simp only [weight, Utf8.encode_append, List.length_append, List.countP_append, Nat.mul_add]
  omega

theorem weight_single (extra : Nat) (c : Char) :
    weight extra [c] = c.utf8Size + if isSign c then extra else 0 := by
  simp only [weight, Utf8.encode, List.flatMap_singleton, String.length_utf8EncodeChar,
    List.countP_singleton]
  split <;> simp

theorem weight_escape_le (extra : Nat) (high low : Char) (rest : List Char) :
    3 + extra + weight extra rest ≤ weight extra ('%' :: high :: low :: rest) := by
  have whole : weight extra ('%' :: high :: low :: rest) =
      weight extra ['%'] + weight extra [high] + weight extra [low] + weight extra rest := by
    rw [← weight_append, ← weight_append, ← weight_append]
    rfl
  have sign : weight extra ['%'] = 1 + extra := weight_single extra '%'
  have first := high.utf8Size_pos
  have second := low.utf8Size_pos
  rw [whole, sign, weight_single extra high, weight_single extra low]
  omega

theorem weight_decode_concat {extra : Nat} (small : extra ≤ 1) (input : Bytes) (byte : UInt8) :
    weight extra (Utf8.decode (input ++ [byte])) ≤ weight extra (Utf8.decode input) + 3 := by
  have replaced : weight extra [Utf8.replacement] = 3 := by
    rw [weight_single]
    rfl
  rcases Utf8.decode_concat_cases input byte with
    ⟨c, read, rfl | ascii⟩ | ⟨front, c, before, after⟩
  · simp only [read, weight_append, replaced, Nat.le_refl]
  · have below : c.val ≤ 127 := by
      rw [UInt32.le_iff_toNat_le]
      change c.toNat ≤ 127
      omega
    have short := Char.utf8Size_eq_one_iff.mpr below
    rw [read, weight_append, weight_single, short]
    split <;> omega
  · have long := c.utf8Size_le_four
    rw [before, after, weight_append, weight_append, replaced, weight_single]
    split <;> omega

/-! ### Decoding token by token -/

def Token.isCoded : Token → Bool
  | escape _ _ _ => true
  | single c => c = '+'

/-- Each token that stands for something else costs an extra. -/
theorem Scanned.weight_le {extra : Nat} (small : extra ≤ 1) {text : List Char}
    {tokens : List Token} (scanned : Scanned text tokens) (before : Bytes) :
    weight extra (Utf8.decode (before ++ unescape (Utf8.encode text))) +
        extra * tokens.countP Token.isCoded ≤
      weight extra (Utf8.decode before) + weight extra text := by
  -- On the steps of the scan, with what they have given so far in `before`: a byte may end a
  -- sequence that began there.
  induction scanned generalizing before with
  | nil => simp [unescape, unescapeFrom, Utf8.encode]
  | @escape value high low rest tokens first second more ih =>
      have later := ih (before ++ [value])
      have here := weight_decode_concat small before value
      have removed := weight_escape_le extra high low rest
      rw [List.append_assoc, List.singleton_append] at later
      rw [unescape_encode_escape first second, List.countP_cons_of_pos rfl, Nat.mul_succ]
      omega
  | @single c rest tokens alone more ih =>
      have later := ih (before ++ String.utf8EncodeChar (if c = '+' then ' ' else c))
      have whole : weight extra (c :: rest) = weight extra [c] + weight extra rest :=
        weight_append extra [c] rest
      rw [Utf8.decode_concat_char, weight_append, List.append_assoc] at later
      rw [unescape_encode_single alone]
      by_cases plus : c = '+'
      · subst plus
        have sign : weight extra ['+'] = 1 + extra := weight_single extra '+'
        have space : weight extra [' '] = 1 := weight_single extra ' '
        rw [List.countP_cons_of_pos rfl, Nat.mul_succ]
        simp only [if_true] at later ⊢
        omega
      · rw [List.countP_cons_of_neg (by simpa [Token.isCoded] using plus)]
        simp only [plus, if_false] at later ⊢
        omega

theorem Scanned.exists_isCoded {text : List Char} {tokens : List Token}
    (scanned : Scanned text tokens) (coded : '+' ∈ text ∨ HasEscape text) :
    ∃ token ∈ tokens, token.isCoded = true := by
  induction scanned with
  | nil => simp [not_hasEscape_nil] at coded
  | escape _ _ _ _ => exact ⟨_, List.mem_cons_self, rfl⟩
  | @single c rest tokens alone more ih =>
      by_cases plus : c = '+'
      · subst plus
        exact ⟨_, List.mem_cons_self, rfl⟩
      · rw [hasEscape_cons, List.mem_cons, or_iff_right (Ne.symm plus), or_iff_right alone] at coded
        obtain ⟨token, member, isCoded⟩ := ih coded
        exact ⟨token, List.mem_cons_of_mem _ member, isCoded⟩

theorem weight_decode_le {extra : Nat} (small : extra ≤ 1) {text : String} {tokens : List Token}
    (scanned : Scanned text.toList tokens) :
    weight extra (decode text).toList + extra * tokens.countP Token.isCoded ≤
      weight extra text.toList := by
  have whole := scanned.weight_le small []
  rw [(Utf8.decode_eq_nil_iff []).mpr rfl, List.nil_append] at whole
  rw [decode, Utf8.lossy, String.toList_ofList, Utf8.bytes]
  simpa [weight, Utf8.encode] using whole

theorem decode_ne_of_coded {text : String} (coded : '+' ∈ text.toList ∨ HasEscape text.toList) :
    decode text ≠ text := by
  intro same
  obtain ⟨tokens, scanned⟩ := exists_scanned text.toList
  have lighter := weight_decode_le (Nat.le_refl 1) scanned
  have costs := List.countP_pos_iff.mpr (scanned.exists_isCoded coded)
  rw [same] at lighter
  omega

/-- Decoding never makes a text longer, malformed bytes and their replacements included. It leaves
a text alone if and only if there is neither a plus sign nor an escape in it, so such a text stays
as it is however often it is decoded, and one with an escape does not. -/
theorem decode_shrinks (text : String) :
    (Utf8.bytes (decode text)).length ≤ (Utf8.bytes text).length ∧
    (decode text = text ↔ '+' ∉ text.toList ∧ ¬HasEscape text.toList) ∧
    ('+' ∉ text.toList ∧ ¬HasEscape text.toList → ∀ times, decode^[times] text = text) ∧
    (HasEscape text.toList → decode text ≠ text) := by
  have fixed (plain : '+' ∉ text.toList ∧ ¬HasEscape text.toList) : decode text = text :=
    (encodes_self plain.1 plain.2).decode_eq
  refine ⟨?_, ⟨?_, fixed⟩, ?_, ?_⟩
  · obtain ⟨tokens, scanned⟩ := exists_scanned text.toList
    simpa [weight, Utf8.bytes] using weight_decode_le (Nat.zero_le 1) scanned
  · intro same
    rw [← not_or]
    exact fun coded => decode_ne_of_coded coded same
  · intro plain times
    exact Function.iterate_fixed (fixed plain) times
  · intro escape
    exact decode_ne_of_coded (.inr escape)

theorem decode_shrinks_malformed :
    HasEscape "%C3é%2".toList ∧ decode "%C3é%2" ≠ "%C3é%2" ∧
      (Utf8.bytes (decode "%C3é%2")).length = (Utf8.bytes "%C3é%2").length ∧
      decode^[3] "5%é%2" = "5%é%2" := by
  have escape : HasEscape "%C3é%2".toList := by decide
  have plain : '+' ∉ "5%é%2".toList ∧ ¬HasEscape "5%é%2".toList := by decide
  exact ⟨escape, (decode_shrinks _).2.2.2 escape, by decide,
    (decode_shrinks _).2.2.1 plain 3⟩

end HttpServer.Percent
