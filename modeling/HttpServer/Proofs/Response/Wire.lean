import HttpServer.Proofs.Response.Edits

/-!
The wire format, read back. `Wire.read?` is a reader of its own: it cuts at the first empty line,
reads the status line, and splits the other lines at their first colon with a space. Of the bytes
of a response that is fit to be written it makes that response.
-/

namespace HttpServer

/-! ### The first occurrence of a mark of several items -/

section

variable {α : Type} [DecidableEq α]

def cutAt? (mark : List α) : List α → Option (List α × List α)
  | [] => if mark = [] then some ([], []) else none
  | item :: rest =>
    if mark.isPrefixOf (item :: rest) then some ([], (item :: rest).drop mark.length)
    else (cutAt? mark rest).map fun found => (item :: found.1, found.2)

theorem cutAt_of_prefix (mark after : List α) : cutAt? mark (mark ++ after) = some ([], after) := by
  cases mark with
  | nil => cases after <;> simp [cutAt?]
  | cons item rest => simp [cutAt?]

theorem cutAt_cons {mark : List α} {item : α} {rest : List α}
    (later : ¬ mark <+: item :: rest) :
    cutAt? mark (item :: rest) =
      (cutAt? mark rest).map fun found => (item :: found.1, found.2) := by
  rw [cutAt?, if_neg (fun begins => later (List.isPrefixOf_iff_prefix.mp begins))]

theorem cutAt_append {first : α} {mark before : List α} (absent : first ∉ before)
    (rest : List α) :
    cutAt? (first :: mark) (before ++ rest) =
      (cutAt? (first :: mark) rest).map fun found => (before ++ found.1, found.2) := by
  induction before with
  | nil => simp
  | cons item before ih =>
      obtain ⟨different, absent⟩ := List.ne_and_not_mem_of_not_mem_cons absent
      have later : ¬ first :: mark <+: item :: (before ++ rest) := by
        rintro ⟨tail, same⟩
        exact different (List.cons.inj same).1
      rw [List.cons_append, cutAt_cons later, ih absent]
      cases cutAt? (first :: mark) rest <;> rfl

end

namespace Wire

open Response (lineEnd)

def lines : Bytes → List Bytes
  | [] => [[]]
  | 0x0D :: 0x0A :: rest => [] :: lines rest
  | byte :: rest =>
    match lines rest with
    | [] => [[byte]]
    | line :: more => (byte :: line) :: more

structure Message where
  statusLine : StatusLine
  fields : List (String × String)
  body : Bytes
deriving DecidableEq, Repr

def readField? (line : Bytes) : Option (String × String) := do
  let text ← Utf8.text? line
  let (name, value) ← cutAt? [':', ' '] text.toList
  return (String.ofList name, String.ofList value)

def readHead? : List Bytes → Option (StatusLine × List (String × String))
  | [] => none
  | first :: rest => do
    let text ← Utf8.text? first
    let statusLine ← StatusLine.read? text
    let fields ← rest.mapM readField?
    return (statusLine, fields)

/-- Reads a response as a client does. -/
def read? (input : Bytes) : Option Message := do
  let (head, body) ← cutAt? (lineEnd ++ lineEnd) input
  let (statusLine, fields) ← readHead? (lines head)
  return ⟨statusLine, fields, body⟩

/-! ### Lines -/

theorem lines_append {line : Bytes} (unbroken : 0x0D ∉ line) (rest : Bytes) :
    lines (line ++ (lineEnd ++ rest)) = line :: lines rest := by
  induction line with
  | nil => rfl
  | cons byte line ih =>
      obtain ⟨different, unbroken⟩ := List.ne_and_not_mem_of_not_mem_cons unbroken
      rw [List.cons_append, lines, ih unbroken]
      intro more same
      exact absurd same.symm different

theorem lines_single {line : Bytes} (unbroken : 0x0D ∉ line) : lines line = [line] := by
  induction line with
  | nil => rfl
  | cons byte line ih =>
      obtain ⟨different, unbroken⟩ := List.ne_and_not_mem_of_not_mem_cons unbroken
      rw [lines, ih unbroken]
      intro more same
      exact absurd same.symm different

def joinLines : List Bytes → Bytes
  | [] => []
  | [line] => line
  | line :: rest => line ++ (lineEnd ++ joinLines rest)

theorem lines_joinLines {first : Bytes} {rest : List Bytes}
    (unbroken : ∀ line ∈ first :: rest, 0x0D ∉ line) :
    lines (joinLines (first :: rest)) = first :: rest := by
  induction rest generalizing first with
  | nil => exact lines_single (unbroken first (by simp))
  | cons second rest ih =>
      rw [joinLines, lines_append (unbroken first (by simp))]
      · rw [ih fun line member => unbroken line (.tail _ member)]
      · simp

theorem cutAt_joinLines {first : Bytes} {rest : List Bytes}
    (unbroken : ∀ line ∈ first :: rest, 0x0D ∉ line) (full : ∀ line ∈ rest, line ≠ [])
    (body : Bytes) :
    cutAt? (lineEnd ++ lineEnd)
        ((first :: rest).flatMap (· ++ lineEnd) ++ (lineEnd ++ body)) =
      some (joinLines (first :: rest), body) := by
  induction rest generalizing first with
  | nil =>
      have next := cutAt_of_prefix (lineEnd ++ lineEnd) body
      simp only [lineEnd, List.cons_append, List.nil_append] at next
      simp only [List.flatMap_cons, List.flatMap_nil, List.append_nil, lineEnd, List.append_assoc,
        List.cons_append, List.nil_append]
      rw [cutAt_append (unbroken first (by simp)), next]
      simp [joinLines]
  | cons second rest ih =>
      obtain ⟨byte, others, filled⟩ : ∃ byte others, second = byte :: others := by
        cases second with
        | nil => exact absurd rfl (full [] (by simp))
        | cons byte others => exact ⟨byte, others, rfl⟩
      -- The end of the first line is followed by no carriage return: no mark begins in it.
      have different : (0x0D : UInt8) ≠ byte := by
        intro same
        exact unbroken second (by simp) (by simp [filled, same])
      have found := ih (fun line member => unbroken line (.tail _ member))
        (fun line member => full line (.tail _ member))
      rw [List.flatMap_cons, List.append_assoc, List.append_assoc]
      simp only [lineEnd, List.cons_append, List.nil_append] at found ⊢
      rw [cutAt_append (unbroken first (by simp)), cutAt_cons, cutAt_cons, found]
      · simp [joinLines, lineEnd]
      · simp
      · simp [filled, different]

end Wire

/-! ### The status line -/

theorem StatusLine.trimEnd_of_last {line : List Char} {c : Char} (last : line.getLast? = some c)
    (other : isLineEnd c = false) : trimEnd line = line := by
  obtain ⟨front, rfl⟩ := List.getLast?_eq_some_iff.mp last
  simp [trimEnd, other]

theorem Status.reason_last (status : Status) :
    ∃ c, status.reason.toList.getLast? = some c ∧ StatusLine.isLineEnd c = false := by
  cases status <;> exact ⟨_, rfl, rfl⟩

theorem Status.ofCode_code (status : Status) : Status.ofCode? status.code = some status := by
  cases status <;> rfl

theorem Status.code_le (status : Status) : status.code ≤ 65535 := by
  cases status <;> decide

theorem StatusLine.read_text {version : String} (begins : "HTTP/".toList <+: version.toList)
    (unbroken : ' ' ∉ version.toList) (status : Status) :
    StatusLine.read? (version ++ " " ++ status.text) = some ⟨version, status, status.reason⟩ := by
  obtain ⟨c, last, other⟩ := status.reason_last
  have noSpace : ' ' ∉ (decimal status.code).toList := by
    intro member
    exact absurd (mem_decimal member) (by decide)
  have spelled : (version ++ " " ++ status.text).toList =
      version.toList ++ ' ' :: ((decimal status.code).toList ++ ' ' :: status.reason.toList) := by
    simp [Status.text]
  have ending : (version ++ " " ++ status.text).toList.getLast? = some c := by
    rw [Status.text, ← String.append_assoc, String.toList_append, List.getLast?_append, last]
    rfl
  have whole := trimEnd_of_last ending other
  rw [spelled] at whole
  simp only [StatusLine.read?, spelled, whole, cut_append unbroken, cut_append noSpace,
    Option.bind_eq_bind, Option.bind_some, Option.getD_some, readNatural_decimal status.code_le,
    Except.toOption, List.isPrefixOf_iff_prefix.mpr begins, if_true, Status.ofCode_code,
    String.ofList_toList]
  rfl

/-! ### Clean texts -/

theorem IsCleanValue.append {first second : String} (clean : IsCleanValue first)
    (more : IsCleanValue second) : IsCleanValue (first ++ second) := by
  intro c member
  rw [String.toList_append] at member
  rcases List.mem_append.mp member with before | after
  · exact clean c before
  · exact more c after

theorem IsCleanName.isCleanValue {name : String} (clean : IsCleanName name) : IsCleanValue name :=
  fun c member => ⟨(clean c member).1, (clean c member).2.1⟩

theorem Status.isCleanValue_text (status : Status) : IsCleanValue status.text := by
  have reason : IsCleanValue status.reason := by
    cases status <;> decide
  exact ((isCleanValue_decimal status.code).append (by decide)).append reason

theorem not_mem_bytes {text : String} (clean : IsCleanValue text) : 0x0D ∉ Utf8.bytes text := by
  intro member
  have inside := Utf8.mem_encode_ascii (by decide) member
  exact (clean '\r' inside).1 rfl

namespace Response

/-! ### Reading what was written -/

def fieldText (entry : String × String) : String :=
  entry.1 ++ ": " ++ entry.2

theorem readField_fieldText {entry : String × String} (clean : IsCleanName entry.1) :
    Wire.readField? (Utf8.bytes (fieldText entry)) = some entry := by
  have noColon : ':' ∉ entry.1.toList := fun member => (clean ':' member).2.2 rfl
  have spelled : (fieldText entry).toList =
      entry.1.toList ++ ([':', ' '] ++ entry.2.toList) := by
    simp [fieldText]
  simp only [Wire.readField?, Utf8.text?_bytes, spelled, Option.bind_eq_bind, Option.bind_some,
    cutAt_append noColon, cutAt_of_prefix, Option.map_some, List.append_nil, String.ofList_toList]
  rfl

theorem mapM_readField {entries : List (String × String)}
    (clean : ∀ entry ∈ entries, IsCleanName entry.1) :
    (entries.map fun entry => Utf8.bytes (fieldText entry)).mapM Wire.readField? =
      some entries := by
  induction entries with
  | nil => rfl
  | cons entry rest ih =>
      rw [List.map_cons, List.mapM_cons, readField_fieldText (clean entry List.mem_cons_self),
        ih fun other member => clean other (.tail _ member)]
      rfl

def headLines (response : Response) : List Bytes :=
  Utf8.bytes (response.version ++ " " ++ response.status.text) ::
    response.headers.entries.map fun entry => Utf8.bytes (fieldText entry)

theorem bytes_eq (response : Response) :
    response.bytes = response.headLines.flatMap (· ++ lineEnd) ++ (lineEnd ++ response.body) := by
  have fields : response.headers.entries.flatMap headerLine =
      (response.headers.entries.map fun entry => Utf8.bytes (fieldText entry)).flatMap
        (· ++ lineEnd) := by
    rw [List.flatMap_map]
    rfl
  rw [bytes, statusLine, fields, headLines, List.flatMap_cons]
  simp only [List.append_assoc]

theorem Sound.headLines_unbroken {response : Response} (sound : response.Sound) :
    ∀ line ∈ response.headLines, 0x0D ∉ line := by
  intro line member
  rcases List.mem_cons.mp member with rfl | field
  · have version : IsCleanValue response.version := isCleanValue_of_solid sound.unbroken
    exact not_mem_bytes ((version.append (by decide)).append response.status.isCleanValue_text)
  · obtain ⟨entry, stored, rfl⟩ := List.mem_map.mp field
    obtain ⟨name, value⟩ := sound.clean entry stored
    exact not_mem_bytes ((name.isCleanValue.append (by decide)).append value)

theorem fieldText_bytes_ne_nil (entry : String × String) :
    Utf8.bytes (fieldText entry) ≠ [] := by
  intro empty
  have nothing : fieldText entry = "" := by
    rw [← Utf8.lossy_bytes (fieldText entry), empty]
    rfl
  have letters := congrArg String.toList nothing
  simp [fieldText] at letters

/-- A reader of the bytes finds the response. -/
theorem Sound.read_bytes {response : Response} (sound : response.Sound) :
    Wire.read? response.bytes =
      some ⟨⟨response.version, response.status, response.status.reason⟩,
        response.headers.entries, response.body⟩ := by
  have unbroken := sound.headLines_unbroken
  have space : ' ' ∉ response.version.toList :=
    fun member => absurd (sound.unbroken ' ' member) (by decide)
  have full : ∀ line ∈ response.headers.entries.map fun entry => Utf8.bytes (fieldText entry),
      line ≠ [] := by
    intro line member
    obtain ⟨entry, -, rfl⟩ := List.mem_map.mp member
    exact fieldText_bytes_ne_nil entry
  have head : Wire.readHead? response.headLines =
      some (⟨response.version, response.status, response.status.reason⟩,
        response.headers.entries) := by
    simp only [Wire.readHead?, headLines, Utf8.text?_bytes, Option.bind_eq_bind, Option.bind_some,
      StatusLine.read_text sound.version space,
      mapM_readField fun entry member => (sound.clean entry member).1]
    rfl
  have found := Wire.cutAt_joinLines unbroken full response.body
  have split := Wire.lines_joinLines unbroken
  change cutAt? _ (response.headLines.flatMap _ ++ _) = _ at found
  rw [Wire.read?, bytes_eq, found]
  simp only [Option.bind_eq_bind, Option.bind_some, split]
  change (Wire.readHead? response.headLines).bind _ = _
  rw [head]
  rfl

/-! ### The head by itself -/

def head (response : Response) : Bytes :=
  response.statusLine ++ (response.headers.entries.flatMap headerLine ++ lineEnd)

theorem count_setEntry {value : String} (unbroken : '\n' ∉ value.toList) (name : String)
    (entries : List (String × String)) :
    ((Fields.setEntry name value entries).flatMap headerLine).count Request.lineFeed =
      ((Fields.setEntry name "" entries).flatMap headerLine).count Request.lineFeed := by
  have absent : (Utf8.bytes value).count Request.lineFeed = 0 :=
    List.count_eq_zero.mpr fun member =>
      unbroken (Utf8.mem_encode_ascii (show Request.lineFeed.toNat < 0x80 by decide) member)
  have line : (headerLine (name, value)).count Request.lineFeed =
      (headerLine (name, "")).count Request.lineFeed := by
    simp only [headerLine, Utf8.bytes_append, List.count_append, absent]
    rfl
  induction entries with
  | nil => simpa [Fields.setEntry] using line
  | cons entry rest ih =>
      simp only [Fields.setEntry]
      split
      · simp only [List.flatMap_cons, List.count_append, line]
      · simp only [List.flatMap_cons, List.count_append, ih]

theorem count_head_setHeader {value : String} (unbroken : '\n' ∉ value.toList)
    (response : Response) (name : String) :
    (response.setHeader name value).head.count Request.lineFeed =
      (response.setHeader name "").head.count Request.lineFeed := by
  have same := count_setEntry unbroken name response.headers.entries
  simp only [head, List.count_append]
  exact congrArg (fun fields => _ + (fields + _)) same

end Response

end HttpServer
