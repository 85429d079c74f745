import HttpServer.Text.Utf8

/-!
Decoding text. An ASCII byte always stands for itself, so what stands before and behind it is
decoded independently. An encoded text is decoded to itself, whatever precedes or follows it. An
ASCII character is decoded from nothing but its own byte.
-/

namespace HttpServer.Utf8

/-! ### What is certain so far -/

def Decoder.flush (decoder : Decoder) : List Char :=
  match decoder.pending with
  | none => decoder.decoded
  | some _ => replacement :: decoder.decoded

theorem Decoder.finish_eq (decoder : Decoder) : decoder.finish = decoder.flush.reverse := by
  cases pending : decoder.pending <;> simp [finish, flush, pending]

theorem decode_eq (input : Bytes) :
    decode input = (input.foldl Decoder.push {}).flush.reverse :=
  Decoder.finish_eq _

/-! ### Sequences -/

/-- A sequence does not go on with an ASCII byte, and does not end in an ASCII value. -/
structure Pending.Sound (pending : Pending) : Prop where
  low : 0x80 ≤ pending.low.toNat
  single : pending.missing = 1 → 2 ≤ pending.value
  several : pending.missing ≠ 1 → 2 ≤ pending.value * 64 + (pending.low.toNat - 0x80)

def Decoder.Sound (decoder : Decoder) : Prop :=
  ∀ pending, decoder.pending = some pending → pending.Sound

theorem Decoder.start_sound (decoded : List Char) (byte : UInt8) :
    (Decoder.start decoded byte).Sound := by
  intro pending started
  simp only [start, Bool.and_eq_true, decide_eq_true_eq, UInt8.le_iff_toNat_le] at started
  repeat' split at started
  all_goals
    simp only [Option.some.injEq, reduceCtorEq] at started
  all_goals
    subst started
    constructor <;> simp <;> simp_all <;> omega

theorem Decoder.push_sound {decoder : Decoder} (sound : decoder.Sound) (byte : UInt8) :
    (decoder.push byte).Sound := by
  intro after pushed
  unfold push at pushed
  cases current : decoder.pending with
  | none =>
      rw [current] at pushed
      exact start_sound _ _ after pushed
  | some pending =>
      have kept := sound pending current
      simp only [current, Bool.and_eq_true, decide_eq_true_eq, UInt8.le_iff_toNat_le] at pushed
      split at pushed
      · rename_i fits
        split at pushed
        · cases pushed
        · rename_i several
          simp only [Option.some.injEq] at pushed
          subst after
          have large := kept.several several
          constructor <;> intros <;> simp <;> omega
      · exact start_sound _ _ after pushed

theorem Decoder.push_ascii {decoder : Decoder} (sound : decoder.Sound) {byte : UInt8}
    (ascii : byte.toNat < 0x80) :
    decoder.push byte = ⟨none, Char.ofNat byte.toNat :: decoder.flush⟩ := by
  have starts (decoded : List Char) :
      start decoded byte = ⟨none, Char.ofNat byte.toNat :: decoded⟩ := by
    have below : byte < 0x80 := UInt8.lt_iff_toNat_lt.mpr ascii
    simp [start, below]
  unfold push flush
  cases current : decoder.pending with
  | none => exact starts _
  | some pending =>
      have low := (sound pending current).low
      have refused : ¬(pending.low ≤ byte) := by
        rw [UInt8.le_iff_toNat_le]
        omega
      simp [refused, starts]

theorem Decoder.start_append (recent older : List Char) (byte : UInt8) :
    start (recent ++ older) byte =
      { start recent byte with decoded := (start recent byte).decoded ++ older } := by
  unfold start
  repeat' split
  all_goals rfl

theorem Decoder.push_append (pending : Option Pending) (recent older : List Char) (byte : UInt8) :
    push ⟨pending, recent ++ older⟩ byte =
      { push ⟨pending, recent⟩ byte with
        decoded := (push ⟨pending, recent⟩ byte).decoded ++ older } := by
  cases pending with
  | none => exact start_append recent older byte
  | some pending =>
      simp only [push]
      split
      · split <;> rfl
      · exact start_append (replacement :: recent) older byte

theorem Decoder.foldl_push_append (older : List Char) (input : Bytes) :
    ∀ (pending : Option Pending) (recent : List Char),
      input.foldl push ⟨pending, recent ++ older⟩ =
        { input.foldl push ⟨pending, recent⟩ with
          decoded := (input.foldl push ⟨pending, recent⟩).decoded ++ older } := by
  induction input with
  | nil => intro pending recent; rfl
  | cons byte rest ih =>
      intro pending recent
      rw [List.foldl_cons, List.foldl_cons, push_append]
      exact ih _ _

theorem Decoder.foldl_push_sound {decoder : Decoder} (sound : decoder.Sound) (input : Bytes) :
    (input.foldl push decoder).Sound := by
  induction input generalizing decoder with
  | nil => exact sound
  | cons byte rest ih => exact ih (push_sound sound byte)

theorem Decoder.empty_sound : (({} : Decoder)).Sound := by
  intro pending started
  cases started

theorem Decoder.flush_foldl_push (older : List Char) (input : Bytes) :
    (input.foldl push ⟨none, older⟩).flush.reverse = older.reverse ++ decode input := by
  have moved := foldl_push_append older input none []
  rw [List.nil_append] at moved
  rw [moved, decode_eq, ← List.reverse_append]
  congr 1
  generalize input.foldl push {} = decoder
  cases pending : decoder.pending <;> simp [flush, pending]

theorem decode_append_ascii (before after : Bytes) {byte : UInt8} (ascii : byte.toNat < 0x80) :
    decode (before ++ byte :: after) =
      decode before ++ Char.ofNat byte.toNat :: decode after := by
  have sound := Decoder.foldl_push_sound Decoder.empty_sound before
  rw [decode_eq, List.foldl_append, List.foldl_cons, Decoder.push_ascii sound ascii,
    Decoder.flush_foldl_push, decode_eq before]
  simp

/-! ### Encoded characters -/

theorem Decoder.start_two {byte : UInt8} (low : 0xC2 ≤ byte.toNat) (high : byte.toNat ≤ 0xDF)
    (older : List Char) :
    start older byte = ⟨some ⟨byte.toNat - 0xC0, 1, 0x80, 0xBF⟩, older⟩ := by
  have notAscii : ¬byte.toNat < 0x80 := by omega
  simp [start, UInt8.lt_iff_toNat_lt, UInt8.le_iff_toNat_le, notAscii, low, high]

theorem Decoder.push_last {pending : Pending} {byte : UInt8}
    (low : pending.low.toNat ≤ byte.toNat) (high : byte.toNat ≤ pending.high.toNat)
    (single : pending.missing = 1) (older : List Char) :
    push ⟨some pending, older⟩ byte =
      ⟨none, Char.ofNat (pending.value * 64 + (byte.toNat - 0x80)) :: older⟩ := by
  simp [push, UInt8.le_iff_toNat_le, low, high, single]

theorem Decoder.push_next {pending : Pending} {byte : UInt8}
    (low : pending.low.toNat ≤ byte.toNat) (high : byte.toNat ≤ pending.high.toNat)
    (several : pending.missing ≠ 1) (older : List Char) :
    push ⟨some pending, older⟩ byte =
      ⟨some ⟨pending.value * 64 + (byte.toNat - 0x80), pending.missing - 1, 0x80, 0xBF⟩,
        older⟩ := by
  simp [push, UInt8.le_iff_toNat_le, low, high, several]

theorem Decoder.push_start_three {first second : UInt8} (low : 0xE0 ≤ first.toNat)
    (high : first.toNat ≤ 0xEF) (continues : 0x80 ≤ second.toNat ∧ second.toNat ≤ 0xBF)
    (notOverlong : first.toNat = 0xE0 → 0xA0 ≤ second.toNat)
    (notSurrogate : first.toNat = 0xED → second.toNat ≤ 0x9F) (older : List Char) :
    push (start older first) second =
      ⟨some ⟨(first.toNat - 0xE0) * 64 + (second.toNat - 0x80), 1, 0x80, 0xBF⟩, older⟩ := by
  have notAscii : ¬first.toNat < 0x80 := by omega
  have notTwo : ¬first.toNat ≤ 0xDF := by omega
  by_cases smallest : first.toNat = 0xE0
  · simp [start, push, UInt8.lt_iff_toNat_lt, UInt8.le_iff_toNat_le, ← UInt8.toNat_inj, smallest,
      notOverlong smallest, continues.2]
  · by_cases surrogate : first.toNat = 0xED
    · simp [start, push, UInt8.lt_iff_toNat_lt, UInt8.le_iff_toNat_le, ← UInt8.toNat_inj, surrogate,
        notSurrogate surrogate, continues.1]
    · have usual : 0xE1 ≤ first.toNat := by omega
      simp [start, push, UInt8.lt_iff_toNat_lt, UInt8.le_iff_toNat_le, ← UInt8.toNat_inj, notAscii,
        notTwo, smallest, surrogate, usual, high, continues]

theorem Decoder.push_start_four {first second : UInt8} (low : 0xF0 ≤ first.toNat)
    (high : first.toNat ≤ 0xF4) (continues : 0x80 ≤ second.toNat ∧ second.toNat ≤ 0xBF)
    (notOverlong : first.toNat = 0xF0 → 0x90 ≤ second.toNat)
    (notBeyond : first.toNat = 0xF4 → second.toNat ≤ 0x8F) (older : List Char) :
    push (start older first) second =
      ⟨some ⟨(first.toNat - 0xF0) * 64 + (second.toNat - 0x80), 2, 0x80, 0xBF⟩, older⟩ := by
  have notAscii : ¬first.toNat < 0x80 := by omega
  have notTwo : ¬first.toNat ≤ 0xDF := by omega
  have notThree : ¬first.toNat ≤ 0xEF := by omega
  have different : first.toNat ≠ 0xE0 ∧ first.toNat ≠ 0xED := by omega
  by_cases smallest : first.toNat = 0xF0
  · simp [start, push, UInt8.lt_iff_toNat_lt, UInt8.le_iff_toNat_le, ← UInt8.toNat_inj, smallest,
      notOverlong smallest, continues.2]
  · by_cases greatest : first.toNat = 0xF4
    · simp [start, push, UInt8.lt_iff_toNat_lt, UInt8.le_iff_toNat_le, ← UInt8.toNat_inj, greatest,
        notBeyond greatest, continues.1]
    · have usual : 0xF1 ≤ first.toNat ∧ first.toNat ≤ 0xF3 := by omega
      simp [start, push, UInt8.lt_iff_toNat_lt, UInt8.le_iff_toNat_le, ← UInt8.toNat_inj, notAscii,
        notTwo, notThree, different, smallest, usual, continues]

theorem Decoder.push_encodeChar (c : Char) (older : List Char) :
    (String.utf8EncodeChar c).foldl push ⟨none, older⟩ = ⟨none, c :: older⟩ := by
  have valid : c.val.toNat < 0xD800 ∨ 0xDFFF < c.val.toNat ∧ c.val.toNat < 0x110000 := c.valid
  have same : Char.ofNat c.val.toNat = c := Char.ofNat_toNat c
  have begin (byte : UInt8) : push ⟨none, older⟩ byte = start older byte := rfl
  unfold String.utf8EncodeChar
  generalize c.val.toNat = value at *
  dsimp only
  split
  · have byte : (UInt8.ofNat value).toNat = value := by simp; omega
    simp [begin, start, UInt8.lt_iff_toNat_lt, byte, same]
    omega
  · have last : (UInt8.ofNat (value % 0x40 + 0x80)).toNat = value % 64 + 0x80 := by simp; omega
    have second : (UInt8.ofNat (value / 64 % 0x40 + 0x80)).toNat = value / 64 % 64 + 0x80 := by
      simp; omega
    have third : (UInt8.ofNat (value / 4096 % 0x40 + 0x80)).toNat = value / 4096 % 64 + 0x80 := by
      simp; omega
    split
    · have first : (UInt8.ofNat (value / 64 % 0x20 + 0xC0)).toNat = value / 64 + 0xC0 := by
        simp; omega
      rw [List.foldl_cons, begin, start_two (by omega) (by omega), List.foldl_cons,
        push_last (by simp; omega) (by simp; omega) rfl, List.foldl_nil, first, last,
        show (value / 64 + 0xC0 - 0xC0) * 64 + (value % 64 + 0x80 - 0x80) = value by omega, same]
    · split
      · have first : (UInt8.ofNat (value / 4096 % 0x10 + 0xE0)).toNat = value / 4096 + 0xE0 := by
          simp; omega
        rw [List.foldl_cons, begin, List.foldl_cons,
          push_start_three (by omega) (by omega) (by omega) (by omega) (by omega), List.foldl_cons,
          push_last (by simp; omega) (by simp; omega) rfl, List.foldl_nil, first, second, last]
        dsimp only
        rw [show ((value / 4096 + 0xE0 - 0xE0) * 64 + (value / 64 % 64 + 0x80 - 0x80)) * 64 +
          (value % 64 + 0x80 - 0x80) = value by omega, same]
      · have first : (UInt8.ofNat (value / 262144 % 0x08 + 0xF0)).toNat =
            value / 262144 + 0xF0 := by
          simp; omega
        rw [List.foldl_cons, begin, List.foldl_cons,
          push_start_four (by omega) (by omega) (by omega) (by omega) (by omega), List.foldl_cons,
          push_next (by simp; omega) (by simp; omega) (by simp), List.foldl_cons,
          push_last (by simp; omega) (by simp; omega) rfl, List.foldl_nil, first, third, second,
          last]
        dsimp only
        rw [show (((value / 262144 + 0xF0 - 0xF0) * 64 + (value / 4096 % 64 + 0x80 - 0x80)) * 64 +
          (value / 64 % 64 + 0x80 - 0x80)) * 64 + (value % 64 + 0x80 - 0x80) = value by omega, same]

theorem encode_cons (c : Char) (text : List Char) :
    encode (c :: text) = String.utf8EncodeChar c ++ encode text := by
  simp [encode]

theorem encode_append (first second : List Char) :
    encode (first ++ second) = encode first ++ encode second := by
  simp [encode]

theorem bytes_append (first second : String) :
    bytes (first ++ second) = bytes first ++ bytes second := by
  simp [bytes, encode_append]

theorem Decoder.foldl_push_encode (text older : List Char) :
    (encode text).foldl push ⟨none, older⟩ = ⟨none, text.reverse ++ older⟩ := by
  induction text generalizing older with
  | nil => rfl
  | cons c rest ih =>
      rw [encode_cons, List.foldl_append, push_encodeChar, ih]
      simp

theorem decode_encode_append (text : List Char) (rest : Bytes) :
    decode (encode text ++ rest) = text ++ decode rest := by
  rw [decode_eq, List.foldl_append]
  have read := Decoder.foldl_push_encode text []
  rw [List.append_nil] at read
  rw [read, Decoder.flush_foldl_push, List.reverse_reverse]

@[simp] theorem decode_encode (text : List Char) : decode (encode text) = text := by
  simpa [decode_eq [], Decoder.flush] using decode_encode_append text []

@[simp] theorem lossy_bytes (text : String) : lossy (bytes text) = text := by
  simp [lossy, bytes, decode_encode]

@[simp] theorem text?_bytes (text : String) : text? (bytes text) = some text := by
  simp [text?]

theorem encode_isPrefix_iff (first whole : List Char) :
    encode first <+: encode whole ↔ first <+: whole := by
  constructor
  · rintro ⟨rest, joined⟩
    refine ⟨decode rest, ?_⟩
    rw [← decode_encode_append, joined, decode_encode]
  · rintro ⟨rest, rfl⟩
    exact ⟨encode rest, (encode_append first rest).symm⟩

theorem encode_eq_nil_iff {text : List Char} : encode text = [] ↔ text = [] := by
  cases text <;> simp [encode]

theorem isUTF8FirstByte_iff {c : Char} {front rest : Bytes} {byte : UInt8}
    (split : String.utf8EncodeChar c = front ++ byte :: rest) :
    byte.IsUTF8FirstByte ↔ front = [] := by
  have bound : front.length < (String.utf8EncodeChar c).length := by simp [split]
  have here : (String.utf8EncodeChar c)[front.length] = byte := by simp [split]
  rw [← here, UInt8.isUTF8FirstByte_getElem_utf8EncodeChar, List.length_eq_zero_iff]

theorem exists_of_encode_eq_append {text : List Char} {c : Char} {before after : Bytes}
    (same : encode text = before ++ (String.utf8EncodeChar c ++ after)) :
    ∃ front back, text = front ++ c :: back ∧ before = encode front ∧ after = encode back := by
  induction text generalizing before with
  | nil =>
      have nothing : String.utf8EncodeChar c = [] := by simp_all [encode]
      exact absurd nothing String.utf8EncodeChar_ne_nil
  | cons d rest ih =>
      rw [encode_cons] at same
      rcases List.append_eq_append_iff.mp same with ⟨more, apart, onward⟩ | ⟨inner, apart, onward⟩
      · obtain ⟨front, back, rfl, rfl, rfl⟩ := ih onward
        exact ⟨d :: front, back, rfl, by rw [apart, encode_cons], rfl⟩
      · rcases before with _ | ⟨byte, before⟩
        · have first : [c] <+: d :: rest := by
            rw [← encode_isPrefix_iff, encode_cons, encode_cons, same]
            exact ⟨after, by simp [encode]⟩
          obtain rfl : c = d := (List.cons_prefix_cons.mp first).1
          exact ⟨[], rest, rfl, rfl, (List.append_cancel_left same).symm⟩
        · rcases inner with _ | ⟨next, inner⟩
          · obtain ⟨front, back, rfl, empty, rfl⟩ := @ih [] onward.symm
            exact ⟨d :: front, back, rfl, by simp [encode_cons, apart, ← empty], rfl⟩
          · -- The first byte of `c` would stand behind the first byte of `d`.
            obtain ⟨head, others, opened⟩ :=
              List.exists_cons_of_ne_nil (String.utf8EncodeChar_ne_nil (c := c))
            have begins := (@isUTF8FirstByte_iff c [] others head opened).mpr rfl
            rw [opened, List.cons_append, List.cons_append] at onward
            rw [(List.cons.inj onward).1] at begins
            exact absurd ((isUTF8FirstByte_iff apart).mp begins) (by simp)

/-! ### Characters behind any bytes -/

theorem Decoder.push_bounded {decoder : Decoder} {byte : UInt8} {pending : Pending}
    (pushed : (decoder.push byte).pending = some pending) : pending.high.toNat ≤ 0xBF := by
  have started (decoded : List Char) (begun : (start decoded byte).pending = some pending) :
      pending.high.toNat ≤ 0xBF := by
    unfold start at begun
    repeat' split at begun
    all_goals
      simp only [Option.some.injEq, reduceCtorEq] at begun
    all_goals
      subst begun
      simp
  unfold push at pushed
  cases current : decoder.pending with
  | none =>
      rw [current] at pushed
      exact started _ pushed
  | some earlier =>
      simp only [current] at pushed
      split at pushed
      · split at pushed
        · cases pushed
        · simp only [Option.some.injEq] at pushed
          subst pushed
          simp
      · exact started _ pushed

theorem pending_bounded (input : Bytes) {pending : Pending}
    (unended : (input.foldl Decoder.push {}).pending = some pending) :
    pending.high.toNat ≤ 0xBF := by
  rcases List.eq_nil_or_concat input with rfl | ⟨front, last, rfl⟩
  · cases unended
  · rw [List.concat_eq_append, List.foldl_append] at unended
    exact Decoder.push_bounded unended

theorem encodeChar_head (c : Char) : ∃ first rest, String.utf8EncodeChar c = first :: rest ∧
    (first.toNat < 0x80 ∨ 0xC0 ≤ first.toNat) := by
  have valid : c.val.toNat < 0xD800 ∨ 0xDFFF < c.val.toNat ∧ c.val.toNat < 0x110000 := c.valid
  unfold String.utf8EncodeChar
  generalize c.val.toNat = value at *
  dsimp only
  repeat' split
  all_goals
    refine ⟨_, _, rfl, ?_⟩
    simp only [UInt8.toNat_ofNat']
    omega

theorem decode_append_char (input : Bytes) (c : Char) (after : Bytes) :
    decode (input ++ (String.utf8EncodeChar c ++ after)) = decode input ++ c :: decode after := by
  have sound := Decoder.foldl_push_sound Decoder.empty_sound input
  obtain ⟨first, rest, opened, begins⟩ := encodeChar_head c
  have restarted : Decoder.push (input.foldl Decoder.push {}) first =
      Decoder.push ⟨none, (input.foldl Decoder.push {}).flush⟩ first := by
    cases current : (input.foldl Decoder.push {}).pending with
    | none => simp [Decoder.push, Decoder.flush, current]
    | some pending =>
        have low := (sound pending current).low
        have high := pending_bounded input current
        have refused : ¬(pending.low ≤ first ∧ first ≤ pending.high) := by
          rw [UInt8.le_iff_toNat_le, UInt8.le_iff_toNat_le]
          omega
        simp [Decoder.push, Decoder.flush, current, refused]
  have read := Decoder.push_encodeChar c (input.foldl Decoder.push {}).flush
  rw [opened, List.foldl_cons] at read
  rw [decode_eq, List.foldl_append, List.foldl_append, opened, List.foldl_cons, restarted, read,
    Decoder.flush_foldl_push, decode_eq input]
  simp

theorem decode_concat_char (before : Bytes) (c : Char) :
    decode (before ++ String.utf8EncodeChar c) = decode before ++ [c] := by
  have read := decode_append_char before c []
  rw [List.append_nil] at read
  exact read

/-! ### ASCII characters -/

theorem toNat_ofNat_of_ascii {value : Nat} (ascii : value < 0x80) :
    (Char.ofNat value).toNat = value := by
  rw [Char.ofNat, dif_pos (.inl (by omega))]
  rfl

theorem encodeChar_ascii {byte : UInt8} (ascii : byte.toNat < 0x80) :
    String.utf8EncodeChar (Char.ofNat byte.toNat) = [byte] := by
  have same : (Char.ofNat byte.toNat).val.toNat = byte.toNat := toNat_ofNat_of_ascii ascii
  unfold String.utf8EncodeChar
  simp only [same]
  rw [if_pos (by omega)]
  simp

theorem exists_of_encode_eq_cons {text : List Char} {byte : UInt8} {rest : Bytes}
    (ascii : byte.toNat < 0x80) (same : encode text = byte :: rest) :
    ∃ more, text = Char.ofNat byte.toNat :: more ∧ rest = encode more := by
  have found : encode text = [] ++ (String.utf8EncodeChar (Char.ofNat byte.toNat) ++ rest) := by
    rw [encodeChar_ascii ascii]
    exact same
  obtain ⟨front, more, rfl, nothing, onward⟩ := exists_of_encode_eq_append found
  rw [encode_eq_nil_iff.mp nothing.symm]
  exact ⟨more, rfl, onward⟩

theorem mem_encodeChar_ascii {c : Char} {byte : UInt8} (ascii : byte.toNat < 0x80)
    (member : byte ∈ String.utf8EncodeChar c) : c.toNat = byte.toNat := by
  have valid : c.val.toNat < 0xD800 ∨ 0xDFFF < c.val.toNat ∧ c.val.toNat < 0x110000 := c.valid
  change c.val.toNat = byte.toNat
  unfold String.utf8EncodeChar at member
  generalize c.val.toNat = value at *
  dsimp only at member
  repeat' split at member
  all_goals
    simp only [List.mem_cons, List.not_mem_nil, or_false, ← UInt8.toNat_inj, UInt8.toNat_ofNat']
      at member
    omega

theorem mem_encode_ascii {text : List Char} {byte : UInt8} (ascii : byte.toNat < 0x80)
    (member : byte ∈ encode text) : Char.ofNat byte.toNat ∈ text := by
  obtain ⟨c, belongs, inside⟩ := List.mem_flatMap.mp member
  rw [← mem_encodeChar_ascii ascii inside, Char.ofNat_toNat]
  exact belongs

theorem toNat_ofNat (value : Nat) :
    (Char.ofNat value).toNat = value ∨ (Char.ofNat value).toNat = 0 := by
  by_cases valid : value.isValidChar
  · left
    rw [Char.ofNat, dif_pos valid]
    rfl
  · right
    rw [Char.ofNat, dif_neg valid]
    rfl

theorem Decoder.flush_start_eq (decoded : List Char) (byte : UInt8) :
    ∃ newest, (start decoded byte).flush = newest :: decoded ∧
      (newest = replacement ∨ newest.toNat < 0x80 ∧ newest.toNat = byte.toNat) := by
  unfold start
  split
  · rename_i below
    have ascii : byte.toNat < 0x80 := UInt8.lt_iff_toNat_lt.mp below
    have same := toNat_ofNat_of_ascii ascii
    exact ⟨_, rfl, .inr ⟨by omega, same⟩⟩
  · repeat' split
    all_goals exact ⟨replacement, rfl, .inl rfl⟩

/-- A byte adds itself or a replacement, or it goes on with a sequence, which stands for a
character that is not ASCII. -/
theorem Decoder.flush_push_cases {decoder : Decoder} (sound : decoder.Sound) (byte : UInt8) :
    (∃ newest, (decoder.push byte).flush = newest :: decoder.flush ∧
      (newest = replacement ∨ newest.toNat < 0x80 ∧ newest.toNat = byte.toNat)) ∨
    ∃ newest, decoder.flush = replacement :: decoder.decoded ∧
      (decoder.push byte).flush = newest :: decoder.decoded ∧
      ¬(0 < newest.toNat ∧ newest.toNat < 0x80) := by
  unfold push
  cases current : decoder.pending with
  | none =>
      have before : decoder.flush = decoder.decoded := by simp [flush, current]
      rw [before]
      exact .inl (flush_start_eq decoder.decoded byte)
  | some pending =>
      have before : decoder.flush = replacement :: decoder.decoded := by simp [flush, current]
      have kept := sound pending current
      simp only [Bool.and_eq_true, decide_eq_true_eq, UInt8.le_iff_toNat_le]
      split
      · rename_i fits
        split
        · rename_i single
          have large := kept.single single
          have value := toNat_ofNat (pending.value * 64 + (byte.toNat - 0x80))
          exact .inr ⟨_, before, rfl, fun ascii => by omega⟩
        · exact .inr ⟨replacement, before, rfl, by decide⟩
      · rw [before]
        exact .inl (flush_start_eq (replacement :: decoder.decoded) byte)

theorem Decoder.flush_push_eq {decoder : Decoder} (sound : decoder.Sound) (byte : UInt8) :
    ∃ newest older, (decoder.push byte).flush = newest :: older ∧
      (∀ c ∈ older, c ∈ decoder.flush) ∧
      (0 < newest.toNat ∧ newest.toNat < 0x80 → newest.toNat = byte.toNat) := by
  rcases flush_push_cases sound byte with
    ⟨newest, read, rfl | ⟨-, same⟩⟩ | ⟨newest, before, read, notAscii⟩
  · exact ⟨replacement, _, read, fun _ member => member, fun ascii => absurd ascii (by decide)⟩
  · exact ⟨newest, _, read, fun _ member => member, fun _ => same⟩
  · refine ⟨newest, _, read, fun c member => ?_, fun ascii => absurd ascii notAscii⟩
    rw [before]
    exact List.mem_cons_of_mem _ member

theorem mem_decode_ascii {input : Bytes} {c : Char} (member : c ∈ decode input)
    (ascii : 0 < c.toNat ∧ c.toNat < 0x80) : UInt8.ofNat c.toNat ∈ input := by
  have main (decoder : Decoder) (sound : decoder.Sound) (input : Bytes)
      (member : c ∈ (input.foldl Decoder.push decoder).flush) :
      c ∈ decoder.flush ∨ UInt8.ofNat c.toNat ∈ input := by
    induction input generalizing decoder with
    | nil => exact Or.inl member
    | cons byte rest ih =>
        rcases ih _ (Decoder.push_sound sound byte) member with earlier | later
        · obtain ⟨newest, older, read, before, same⟩ := Decoder.flush_push_eq sound byte
          rw [read] at earlier
          rcases List.mem_cons.mp earlier with rfl | earlier
          · right
            simp [same ascii]
          · exact Or.inl (before c earlier)
        · exact Or.inr (by simp [later])
  rw [decode_eq, List.mem_reverse] at member
  simpa [Decoder.flush] using main {} Decoder.empty_sound input member

theorem getLast?_of_decode {input : Bytes} {c : Char}
    (last : (decode input).getLast? = some c) (ascii : 0 < c.toNat ∧ c.toNat < 0x80) :
    input.getLast? = some (UInt8.ofNat c.toNat) := by
  rcases List.eq_nil_or_concat input with rfl | ⟨front, byte, rfl⟩
  · cases last
  · have sound := Decoder.foldl_push_sound Decoder.empty_sound front
    obtain ⟨newest, older, read, before, same⟩ := Decoder.flush_push_eq sound byte
    rw [decode_eq, List.getLast?_reverse, List.concat_eq_append, List.foldl_append,
      List.foldl_cons, List.foldl_nil, read, List.head?_cons, Option.some.injEq] at last
    subst last
    simp [same ascii]

theorem decode_eq_nil_iff (input : Bytes) : decode input = [] ↔ input = [] := by
  constructor
  · intro empty
    rcases List.eq_nil_or_concat input with rfl | ⟨front, last, rfl⟩
    · rfl
    · have sound := Decoder.foldl_push_sound Decoder.empty_sound front
      obtain ⟨newest, older, read, before, same⟩ := Decoder.flush_push_eq sound last
      rw [decode_eq, List.concat_eq_append, List.foldl_append, List.foldl_cons, List.foldl_nil,
        read] at empty
      simp at empty
  · rintro rfl
    rfl

/-! ### One more byte -/

/-- One more byte adds a character that is short or a replacement, or it changes what stands for
an unended sequence. -/
theorem decode_concat_cases (input : Bytes) (byte : UInt8) :
    (∃ c, decode (input ++ [byte]) = decode input ++ [c] ∧
      (c = replacement ∨ c.toNat < 0x80)) ∨
    ∃ front c, decode input = front ++ [replacement] ∧ decode (input ++ [byte]) = front ++ [c] := by
  have sound := Decoder.foldl_push_sound Decoder.empty_sound input
  rw [decode_eq, decode_eq input, List.foldl_append, List.foldl_cons, List.foldl_nil]
  rcases Decoder.flush_push_cases sound byte with
    ⟨newest, read, short⟩ | ⟨newest, before, read, -⟩
  · exact .inl ⟨newest, by rw [read, List.reverse_cons], short.imp_right And.left⟩
  · exact .inr ⟨_, newest, by rw [before, List.reverse_cons], by rw [read, List.reverse_cons]⟩

end HttpServer.Utf8
