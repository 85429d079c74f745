import HttpServer.Proofs.Request.Layout
import HttpServer.Proofs.Response.Wire

/-!
What holds of every request that was read, whatever the bytes were. Its header fields are tidy, so
their values can be put into a response without adding a line to its head. A request that is not
valid holds nothing of the input.
-/

namespace HttpServer

namespace Request

/-! ### Header fields -/

structure Tidy (headers : Fields) : Prop where
  distinct : headers.names.Nodup
  names : ∀ entry ∈ headers.entries,
    ':' ∉ entry.1.toList ∧ '\n' ∉ entry.1.toList ∧ Text.IsTrimmed entry.1.toList
  values : ∀ entry ∈ headers.entries, '\n' ∉ entry.2.toList ∧ Text.IsTrimmed entry.2.toList

theorem tidy_empty : Tidy {} where
  distinct := List.nodup_nil
  names := by simp
  values := by simp

theorem Tidy.addHeader {headers : Fields} (tidy : Tidy headers) {line : List Char}
    (unbroken : '\n' ∉ line) : Tidy (addHeader headers line) := by
  unfold Request.addHeader
  split
  · rename_i name value found
    obtain ⟨rfl, noColon⟩ := cut_eq_some_iff.mp found
    have inName : '\n' ∉ name := fun member => unbroken (by simp [member])
    have inValue : '\n' ∉ value := fun member => unbroken (by simp [member])
    refine ⟨Fields.nodup_names_set tidy.distinct _ _, ?_, ?_⟩
    · intro entry member
      rcases Fields.mem_setEntry member with rfl | old
      · simp only [String.toList_ofList]
        exact ⟨noColon ∘ Text.mem_of_mem_trim, inName ∘ Text.mem_of_mem_trim,
          Text.isTrimmed_trim name⟩
      · exact tidy.names entry old
    · intro entry member
      rcases Fields.mem_setEntry member with rfl | old
      · simp only [String.toList_ofList]
        exact ⟨inValue ∘ Text.mem_of_mem_trim, Text.isTrimmed_trim value⟩
      · exact tidy.values entry old
  · exact tidy

theorem size_addHeader_le (headers : Fields) (line : List Char) :
    (addHeader headers line).size ≤ headers.size + 1 := by
  unfold addHeader
  split
  · exact Fields.size_set_le headers _ _
  · exact Nat.le_succ _

theorem not_mem_lineText {line : Bytes} (unbroken : lineFeed ∉ line) : '\n' ∉ lineText line := by
  intro member
  exact unbroken (mem_of_mem_dropLastIf (Utf8.mem_decode_ascii member (by decide)))

def addHeaders (headers : Fields) (lines : List Bytes) : Fields :=
  lines.foldl (fun headers line => addHeader headers (lineText line)) headers

theorem Tidy.addHeaders {headers : Fields} (tidy : Tidy headers) {lines : List Bytes}
    (unbroken : ∀ line ∈ lines, lineFeed ∉ line) : Tidy (addHeaders headers lines) := by
  induction lines generalizing headers with
  | nil => exact tidy
  | cons line rest ih =>
      exact ih (tidy.addHeader (not_mem_lineText (unbroken line (by simp))))
        fun other member => unbroken other (by simp [member])

theorem size_addHeaders_le (headers : Fields) (lines : List Bytes) :
    (addHeaders headers lines).size ≤ headers.size + lines.length := by
  induction lines generalizing headers with
  | nil => exact Nat.le_refl _
  | cons line rest ih =>
      have first := size_addHeader_le headers (lineText line)
      have later := ih (addHeader headers (lineText line))
      rw [List.length_cons]
      change (addHeaders (addHeader headers (lineText line)) rest).size ≤ _
      omega

/-! ### The lines of the head -/

def headerLines (input : Bytes) : List Bytes :=
  ((pieces lineFeed input).drop 1).takeWhile fun line => lineText line ≠ []

theorem readHeaders_eq (headers : Fields) (rest : Bytes) :
    (readHeaders headers [] rest).1 = addHeaders headers
      ((pieces lineFeed rest).takeWhile fun line => lineText line ≠ []) := by
  induction rest using pieces_induction lineFeed generalizing headers with
  | single line unended =>
      rw [readHeaders_unended unended, List.reverse_nil, List.nil_append,
        pieces_of_not_mem unended]
      by_cases empty : lineText line = []
      · simp [empty, addHeaders, addHeader, cut]
      · simp [empty, addHeaders]
  | onward line rest unbroken ih =>
      rw [readHeaders_line unbroken, List.reverse_nil, List.nil_append, pieces_cons unbroken]
      by_cases empty : lineText line = []
      · simp [empty, addHeaders]
      · rw [if_neg empty, ih, List.takeWhile_cons_of_pos (by simpa using empty)]
        rfl

theorem length_readHeaders_le (headers : Fields) (begun rest : Bytes) :
    (readHeaders headers begun rest).2.length ≤ rest.length := by
  induction rest generalizing headers begun with
  | nil => exact Nat.le_refl _
  | cons byte rest ih =>
      rw [readHeaders, List.length_cons]
      split
      · split
        · exact Nat.le_succ _
        · exact (ih _ _).trans (Nat.le_succ _)
      · exact (ih _ _).trans (Nat.le_succ _)

theorem headerLines_eq (input : Bytes) : headerLines input =
    (pieces lineFeed ((input.dropWhile (· ≠ lineFeed)).drop 1)).takeWhile
      fun line => lineText line ≠ [] := by
  by_cases member : lineFeed ∈ input
  · obtain ⟨first, rest, rfl, unbroken⟩ := List.eq_append_cons_of_mem member
    rw [headerLines, pieces_cons unbroken, dropWhile_append_mark unbroken]
    rfl
  · have nothing : input.dropWhile (· ≠ lineFeed) = [] :=
      List.dropWhile_eq_nil_iff.mpr (ne_of_not_mem member)
    rw [headerLines, pieces_of_not_mem member, nothing]
    rfl

theorem headers_of_parse {input : Bytes} {request : Request}
    (accepted : parse input = .ok request) :
    request.headers = addHeaders {} (headerLines input) := by
  rw [(parts_of_parse accepted).1, readHeaders_eq, headerLines_eq]

theorem length_body_le {input : Bytes} {request : Request}
    (accepted : parse input = .ok request) : request.body.length ≤ input.length := by
  rw [(parts_of_parse accepted).2]
  calc (dropLastIf lineFeed _).length
      ≤ (readHeaders {} [] ((input.dropWhile (· ≠ lineFeed)).drop 1)).2.length :=
        length_dropLastIf_le _ _
    _ ≤ ((input.dropWhile (· ≠ lineFeed)).drop 1).length := length_readHeaders_le _ _ _
    _ ≤ (input.dropWhile (· ≠ lineFeed)).length := (List.drop_suffix 1 _).length_le
    _ ≤ input.length := (List.dropWhile_suffix _).length_le

theorem not_mem_headerLines {input line : Bytes} (member : line ∈ headerLines input) :
    lineFeed ∉ line :=
  not_mem_of_mem_pieces (List.mem_of_mem_drop ((List.takeWhile_prefix _).subset member))

/-! ### What was read -/

theorem statusLine_unbroken (input : Bytes) (status : Status) :
    ∃ line, ((Response.forRequest (read input)).setStatus status).statusLine =
        line ++ Response.lineEnd ∧ carriageReturn ∉ line ∧ lineFeed ∉ line := by
  have sound := Response.sound_forRequest input
  have version : IsCleanValue (Response.forRequest (read input)).version :=
    isCleanValue_of_solid sound.unbroken
  have clean := (version.append (show IsCleanValue " " by decide)).append status.isCleanValue_text
  refine ⟨_, rfl, ?_, ?_⟩
  · intro member
    exact (clean '\r' (Utf8.mem_encode_ascii (by decide) member)).1 rfl
  · intro member
    exact (clean '\n' (Utf8.mem_encode_ascii (by decide) member)).2 rfl

/-- Every request that is read. Its header fields are tidy and no more than the lines they come
from. If it is valid its version is one word and its body no longer than the input, and if not it
is the same for all inputs. So neither its version nor the value of a header field, whatever it
is copied to, makes another line in the head of a response. -/
theorem read_tidy (input : Bytes) :
    let request := read input
    Tidy request.headers ∧
    request.headers.size ≤ (headerLines input).length ∧
    (request.valid = true →
      "HTTP/".toList <+: request.version.toList ∧
      (∀ c ∈ request.version.toList, Text.isBlank c = false) ∧ IsCleanValue request.version ∧
      request.body.length ≤ input.length) ∧
    (request.valid = false →
      request.method = .unknown ∧ request.path = "" ∧ request.version = "" ∧
      request.headers = {} ∧ request.query = {} ∧ request.body = []) ∧
    (∀ status, ∃ line, ((Response.forRequest request).setStatus status).statusLine =
      line ++ Response.lineEnd ∧ carriageReturn ∉ line ∧ lineFeed ∉ line) ∧
    ∀ entry ∈ request.headers.entries, ∀ (response : Response) (name : String),
      (response.setHeader name entry.2).head.count lineFeed =
        (response.setHeader name "").head.count lineFeed := by
  intro request
  cases parsed : parse input with
  | error fault =>
      have unread : request = invalid := read_of_error parsed
      rw [unread]
      refine ⟨tidy_empty, Nat.zero_le _, ?_, ?_, ?_, ?_⟩
      · intro valid
        cases valid
      · intro _
        exact ⟨rfl, rfl, rfl, rfl, rfl, rfl⟩
      · rw [← unread]
        exact statusLine_unbroken input
      · intro entry member
        cases member
  | ok accepted =>
      have taken : request = accepted := read_of_parse parsed
      obtain ⟨valid, http, solid⟩ := version_of_parse parsed
      have stored := headers_of_parse parsed
      have tidy : Tidy accepted.headers := by
        rw [stored]
        exact tidy_empty.addHeaders fun line member => not_mem_headerLines member
      refine ⟨taken ▸ tidy, ?_, ?_, ?_, statusLine_unbroken input, ?_⟩
      · rw [taken, stored]
        exact (size_addHeaders_le {} (headerLines input)).trans_eq (Nat.zero_add _)
      · intro _
        rw [taken]
        exact ⟨http, solid, isCleanValue_of_solid solid, length_body_le parsed⟩
      · intro refused
        rw [taken, valid] at refused
        cases refused
      · intro entry member response name
        rw [taken] at member
        exact response.count_head_setHeader (tidy.values entry member).1 name

def untidyInput : Bytes :=
  Utf8.bytes "GET / HTTP/1.0\nA : x\r\nB: y\rz \n: " ++ 0xFF :: Utf8.bytes "\nA:w:\nnone\n\nbody\n"

theorem read_tidy_untidy :
    let request := read untidyInput
    request.headers.entries = [("A", "w:"), ("B", "y\rz"), ("", "\uFFFD")] ∧
      request.headers.size ≤ (headerLines untidyInput).length ∧
      request.valid = true ∧ request.body.length ≤ untidyInput.length ∧
      (Response.setHeader {} "C" "y\rz").head.count lineFeed =
        (Response.setHeader {} "C" "").head.count lineFeed ∧
      (read (untidyInput.drop 4)).valid = false ∧ (read (untidyInput.drop 4)).headers = {} := by
  intro request
  have entries : request.headers.entries = [("A", "w:"), ("B", "y\rz"), ("", "\uFFFD")] := by
    decide
  have valid : request.valid = true := by decide
  have refused : (read (untidyInput.drop 4)).valid = false := by decide
  obtain ⟨tidy, size, accepted, -, -, copied⟩ := read_tidy untidyInput
  obtain ⟨-, -, -, unread, -⟩ := read_tidy (untidyInput.drop 4)
  exact ⟨entries, size, valid, (accepted valid).2.2.2,
    copied ("B", "y\rz") (by rw [entries]; simp) {} "C", refused,
    (unread refused).2.2.2.1⟩

end Request

end HttpServer
