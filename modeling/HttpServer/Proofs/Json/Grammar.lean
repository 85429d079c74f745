import HttpServer.Json.Parser
import HttpServer.Proofs.Json.Written

/-!
The texts of JSON documents, and what a library for JSON promises of them. A text may have blanks
between its parts and may write a character in several ways. Of numbers only integers of 64 bits
have texts here: how others are rounded is left to the library.
-/

namespace HttpServer.Json

def Blanks (gap : Bytes) : Prop :=
  ∀ byte ∈ gap, isBlank byte = true

/-! ### Strings -/

inductive UnitText (unit : Nat) : Bytes → Prop
  | digits {first second third fourth : UInt8}
      (value : hexUnit? [fourth, third, second, first] = some unit) :
      UnitText unit [0x5C, 0x75, first, second, third, fourth]

inductive CharText (c : Char) : Bytes → Prop
  | plain (noQuote : c ≠ '"') (noEscape : c ≠ '\\') (noControl : ¬c.toNat < 0x20) :
      CharText c (String.utf8EncodeChar c)
  | letter {byte meaning : UInt8} (known : escaped? byte = some meaning)
      (same : String.utf8EncodeChar c = [meaning]) : CharText c [0x5C, byte]
  | unit {text : Bytes} (value : UnitText c.toNat text) : CharText c text
  | pair {high low : Nat} {first second : Bytes} (lead : UnitText (0xD800 + high) first)
      (trail : UnitText (0xDC00 + low) second) (highBound : high < 1024) (lowBound : low < 1024)
      (same : c.toNat = high * 1024 + low + 0x10000) : CharText c (first ++ second)

inductive CharsText : List Char → Bytes → Prop
  | nil : CharsText [] []
  | cons {c : Char} {chars : List Char} {text more : Bytes} (first : CharText c text)
      (rest : CharsText chars more) : CharsText (c :: chars) (text ++ more)

inductive StringText (string : String) : Bytes → Prop
  | quoted {text : Bytes} (inside : CharsText string.toList text) :
      StringText string (0x22 :: (text ++ [0x22]))

/-! ### Arrays and objects -/

inductive Spaced (holds : Bytes → Prop) : Bytes → Prop
  | between {before text after : Bytes} (opening : Blanks before) (inside : holds text)
      (closing : Blanks after) : Spaced holds (before ++ (text ++ after))

section

variable {α : Type}

inductive Listed (entry : α → Bytes → Prop) : List α → Bytes → Prop
  | last {value : α} {text : Bytes} (here : Spaced (entry value) text) :
      Listed entry [value] text
  | next {value : α} {values : List α} {text more : Bytes} (here : Spaced (entry value) text)
      (later : Listed entry values more) : Listed entry (value :: values) (text ++ 0x2C :: more)

inductive Enclosed (first last : UInt8) (entry : α → Bytes → Prop) : List α → Bytes → Prop
  | empty {gap : Bytes} (blanks : Blanks gap) :
      Enclosed first last entry [] (first :: (gap ++ [last]))
  | entries {values : List α} {text : Bytes} (listed : Listed entry values text) :
      Enclosed first last entry values (first :: (text ++ [last]))

end

section

variable (part : Json → Bytes → Prop)

inductive MemberText : String × Json → Bytes → Prop
  | named {key : String} {value : Json} {name gap before text : Bytes}
      (quoted : StringText key name) (blanks : Blanks gap) (opening : Blanks before)
      (inside : part value text) :
      MemberText (key, value) (name ++ (gap ++ 0x3A :: (before ++ text)))

inductive FlatText : Json → Bytes → Prop
  | null : FlatText .null (Utf8.bytes "null")
  | yes : FlatText (.bool true) (Utf8.bytes "true")
  | no : FlatText (.bool false) (Utf8.bytes "false")
  | natural {value : Nat} (bound : value ≤ maxWord) :
      FlatText (.number (.natural value)) (Utf8.bytes (decimal value))
  | negative {magnitude : Nat} (positive : 0 < magnitude) (bound : magnitude ≤ 2 ^ 63) :
      FlatText (.number (.negative magnitude)) (0x2D :: Utf8.bytes (decimal magnitude))
  | string {string : String} {text : Bytes} (quoted : StringText string text) :
      FlatText (.string string) text

inductive LayerText : Json → Bytes → Prop
  | flat {value : Json} {text : Bytes} (single : FlatText value text) : LayerText value text
  | array {items : List Json} {text : Bytes} (enclosed : Enclosed 0x5B 0x5D part items text) :
      LayerText (.array items) text
  | object {members : List (String × Json)} {text : Bytes}
      (enclosed : Enclosed 0x7B 0x7D (MemberText part) members text) :
      LayerText (.object members) text

end

/-- The texts of a value with brackets and braces nested `levels` deep at most. An object is given
with its members as they are written, in any order and also twice. -/
def ValueText : Nat → Json → Bytes → Prop
  | 0 => FlatText
  | levels + 1 => LayerText (ValueText levels)

def DocumentText (levels : Nat) (document : Json) : Bytes → Prop :=
  Spaced (ValueText levels document)

/-! ### Libraries -/

/-- A reader takes the text of a document for its normal form, in which each key has its last
value. -/
def Reads {ε : Type} (levels : Nat) (parse : Bytes → Except ε Json) : Prop :=
  ∀ document text, DocumentText levels document text → parse text = .ok document.normal

/-- A library keeps the members of an object in the order of their keys, refuses what is nested
too deeply, and writes compact texts. -/
structure Library.Lawful (library : Library) : Prop where
  reads : Reads maxLevels library.parse
  regular : ∀ text document, library.parse text = .ok document → Regular maxLevels document
  writes : ∀ document : Json, document.Integral → document.InOrder →
    Utf8.bytes (library.render document) = document.written

/-! ### Compact texts -/

theorem blanks_nil : Blanks [] := by
  simp [Blanks]

theorem Spaced.tight {holds : Bytes → Prop} {text : Bytes} (inside : holds text) :
    Spaced holds text := by
  have whole := Spaced.between blanks_nil inside blanks_nil
  rwa [List.nil_append, List.append_nil] at whole

theorem eq_of_toNat {c : Char} {value : Nat} (same : c.toNat = value) : c = Char.ofNat value := by
  rw [← same, Char.ofNat_toNat]

theorem hexDigit_byte {digit : Nat} (bound : digit < 16) :
    ∃ byte, String.utf8EncodeChar (Nat.digitChar digit) = [byte] ∧
      hexValue? byte = some digit := by
  have all : ∀ digit < 16,
      String.utf8EncodeChar (Nat.digitChar digit) =
        [UInt8.ofNat (Nat.digitChar digit).toNat] ∧
      hexValue? (UInt8.ofNat (Nat.digitChar digit).toNat) = some digit := by
    decide
  exact ⟨_, all digit bound⟩

theorem unitText_control {c : Char} (control : c.toNat < 0x20) :
    UnitText c.toNat (Utf8.encode
      ['\\', 'u', '0', '0', Nat.digitChar (c.toNat / 16), Nat.digitChar (c.toNat % 16)]) := by
  obtain ⟨high, highWritten, highRead⟩ := hexDigit_byte (show c.toNat / 16 < 16 by omega)
  obtain ⟨low, lowWritten, lowRead⟩ := hexDigit_byte (show c.toNat % 16 < 16 by omega)
  have written : Utf8.encode
      ['\\', 'u', '0', '0', Nat.digitChar (c.toNat / 16), Nat.digitChar (c.toNat % 16)] =
        [0x5C, 0x75, 0x30, 0x30, high, low] := by
    simp only [Utf8.encode_cons, highWritten, lowWritten]
    rfl
  have zero : hexValue? 0x30 = some 0 := by decide
  rw [written]
  refine .digits ?_
  simp only [hexUnit?, zero, highRead, lowRead, Option.bind_eq_bind, Option.bind_some,
    Option.pure_def, Option.some.injEq]
  omega

def lettered : List Char :=
  ['"', '\\', '\x08', '\x0c', '\n', '\r', '\t']

theorem charText_lettered {c : Char} (member : c ∈ lettered) :
    CharText c (Utf8.encode (escapeChar c)) := by
  simp only [lettered, List.mem_cons, List.not_mem_nil, or_false] at member
  rcases member with rfl | rfl | rfl | rfl | rfl | rfl | rfl <;>
    exact .letter rfl (by decide)

theorem escapeChar_of_not_mem {c : Char} (other : c ∉ lettered) : escapeChar c =
    if c.toNat < 0x20 then
      ['\\', 'u', '0', '0', Nat.digitChar (c.toNat / 16), Nat.digitChar (c.toNat % 16)]
    else [c] := by
  simp only [lettered, List.mem_cons, List.not_mem_nil, or_false, not_or] at other
  obtain ⟨noQuote, noEscape, noBackspace, noFeed, noLine, noReturn, noTab⟩ := other
  have backspace : c.toNat ≠ 0x08 := fun same => noBackspace (eq_of_toNat same)
  have feed : c.toNat ≠ 0x0C := fun same => noFeed (eq_of_toNat same)
  simp only [escapeChar, noQuote, noEscape, backspace, feed, noLine, noReturn, noTab, if_false]

theorem charText_escapeChar (c : Char) : CharText c (Utf8.encode (escapeChar c)) := by
  by_cases member : c ∈ lettered
  · exact charText_lettered member
  rw [escapeChar_of_not_mem member]
  by_cases control : c.toNat < 0x20
  · rw [if_pos control]
    exact .unit (unitText_control control)
  · have single : Utf8.encode [c] = String.utf8EncodeChar c := by simp [Utf8.encode]
    have noQuote : c ≠ '"' := by
      rintro rfl
      exact member (by decide)
    have noEscape : c ≠ '\\' := by
      rintro rfl
      exact member (by decide)
    rw [if_neg control, single]
    exact .plain noQuote noEscape control

theorem charsText_escaped (chars : List Char) :
    CharsText chars (Utf8.encode (chars.flatMap escapeChar)) := by
  induction chars with
  | nil => exact .nil
  | cons c chars ih =>
      rw [List.flatMap_cons, Utf8.encode_append]
      exact .cons (charText_escapeChar c) ih

theorem stringText_quotedText (text : String) :
    StringText text (Utf8.bytes (quotedText text)) := by
  have bytes : Utf8.bytes (quotedText text) =
      0x22 :: (Utf8.encode (text.toList.flatMap escapeChar) ++ [0x22]) := by
    rw [quotedText, Utf8.bytes, String.toList_ofList, Utf8.encode_cons, Utf8.encode_append]
    rfl
  rw [bytes]
  exact .quoted (charsText_escaped text.toList)

theorem flatText_written {value : Json} (single : value.isNested = false) (word : value.IsWord) :
    FlatText value value.written := by
  cases value with
  | null => exact .null
  | bool value =>
      cases value with
      | true => exact .yes
      | false => exact .no
  | string text => exact .string (stringText_quotedText text)
  | number value =>
      cases value with
      | natural value => exact .natural word
      | negative magnitude =>
          have bytes : (number (.negative magnitude)).written =
              0x2D :: Utf8.bytes (decimal magnitude) := Utf8.bytes_append "-" (decimal magnitude)
          rw [bytes]
          exact .negative word.1 word.2
      | double bits => cases word
  | array items => cases single
  | object members => cases single

section

variable {part : Json → Bytes → Prop}

theorem listed_items {item : Json} {items : List Json}
    (written : ∀ value ∈ item :: items, part value value.written) :
    Listed part (item :: items) (writtenItems true (item :: items)) := by
  have here := Spaced.tight (written item List.mem_cons_self)
  induction items generalizing item with
  | nil => simpa [writtenItems] using Listed.last here
  | cons next items ih =>
      have others (value : Json) (member : value ∈ next :: items) : part value value.written :=
        written value (List.mem_cons_of_mem item member)
      have later := ih others (.tight (others next List.mem_cons_self))
      simpa [writtenItems] using Listed.next here later

theorem spaced_member {member : String × Json} (written : part member.2 member.2.written) :
    Spaced (MemberText part member)
      (Utf8.bytes (quotedText member.1) ++ 0x3A :: member.2.written) := by
  have named := MemberText.named (stringText_quotedText member.1) blanks_nil blanks_nil written
  rw [List.nil_append, List.nil_append] at named
  exact .tight named

theorem listed_members {member : String × Json} {members : List (String × Json)}
    (written : ∀ entry ∈ member :: members, part entry.2 entry.2.written) :
    Listed (MemberText part) (member :: members) (writtenMembers true (member :: members)) := by
  have here := spaced_member (written member List.mem_cons_self)
  induction members generalizing member with
  | nil => simpa [writtenMembers] using Listed.last here
  | cons next members ih =>
      have others (entry : String × Json) (inside : entry ∈ next :: members) :
          part entry.2 entry.2.written := written entry (List.mem_cons_of_mem member inside)
      have later := ih others (spaced_member (others next List.mem_cons_self))
      simpa [writtenMembers] using Listed.next here later

end

theorem valueText_written {levels : Nat} {document : Json} (nests : Nests levels document)
    (integral : document.Integral) : ValueText levels document document.written := by
  induction nests with
  | @flat levels document single =>
      have flat := flatText_written single integral.here
      cases levels with
      | zero => exact flat
      | succ levels => exact .flat flat
  | @nested levels document inside ih =>
      obtain ⟨word, integral⟩ := integral
      cases document with
      | array items =>
          cases items with
          | nil => exact .array (.empty blanks_nil)
          | cons item items =>
              exact .array (.entries (listed_items fun value member =>
                ih value member (integral value member)))
      | object members =>
          cases members with
          | nil => exact .object (.empty blanks_nil)
          | cons member members =>
              refine .object (.entries (listed_members fun entry inside => ?_))
              have part : entry.2 ∈ (object (member :: members)).parts :=
                List.mem_map_of_mem inside
              exact ih entry.2 part (integral entry.2 part)
      | null => exact .flat (flatText_written rfl word)
      | bool value => exact .flat (flatText_written rfl word)
      | number value => exact .flat (flatText_written rfl word)
      | string text => exact .flat (flatText_written rfl word)

/-! ### Printed objects -/

section

variable {library : Library} {members : List (String × Json)}

/-- An object is read as it was printed if its members ascend and have been read themselves, or
could have been. The text is one level deeper than they are. -/
theorem Library.Lawful.reads_render (lawful : library.Lawful) {ε : Type} {levels : Nat}
    {parse : Bytes → Except ε Json} (reads : Reads (levels + 1) parse)
    (ascending : Ascending members) (regular : ∀ entry ∈ members, Regular levels entry.2)
    (integral : ∀ entry ∈ members, entry.2.Integral) :
    parse (Utf8.bytes (library.render (ofMembers members))) = .ok (.object members) := by
  obtain ⟨nests, ordered⟩ := regular_object ascending regular
  have words := integral_object integral
  rw [ofMembers_of_ascending ascending, lawful.writes _ words ordered,
    reads _ _ (.tight (valueText_written nests words)), ordered.normal_eq]

theorem Library.Lawful.parse_strings (lawful : library.Lawful) (ascending : Ascending members)
    (strings : ∀ entry ∈ members, ∃ text, entry.2 = .string text) :
    library.parse (Utf8.bytes (library.render (ofMembers members))) = .ok (.object members) := by
  have reads : Reads (maxLevels - 1 + 1) library.parse := lawful.reads
  refine lawful.reads_render reads ascending ?_ ?_
  · intro entry member
    obtain ⟨text, same⟩ := strings entry member
    rw [same]
    exact regular_of_flat rfl _
  · intro entry member
    obtain ⟨text, same⟩ := strings entry member
    rw [same]
    exact .intro trivial (by simp [parts])

end

end HttpServer.Json
