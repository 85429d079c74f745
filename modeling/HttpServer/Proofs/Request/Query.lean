import HttpServer.Proofs.Fields
import HttpServer.Proofs.Percent.Encodings
import HttpServer.Proofs.Text.Cutting
import HttpServer.Request

/-!
Queries, read back. Somebody writes a list of parameters, each as he likes: escaped as much as he
likes, a value that is empty without its sign, and any number of pieces in between that are
empty. The parameters are found again, of each name the last one.
-/

namespace HttpServer.Request

open Percent (Encodes Escapes)

/-- A way to write a parameter. No mark stands in it but the sign behind the name. -/
inductive WritesParameter : String × String → List Char → Prop
  | pair {name value : String} {first second : List Char}
      (nameWritten : Encodes name.toList first) (unsplit : '=' ∉ first ∧ '&' ∉ first)
      (valueWritten : Encodes value.toList second) (unbroken : '&' ∉ second) :
      WritesParameter (name, value) (first ++ '=' :: second)
  | flag {name : String} {written : List Char} (named : name ≠ "")
      (nameWritten : Encodes name.toList written) (unsplit : '=' ∉ written ∧ '&' ∉ written) :
      WritesParameter (name, "") written

inductive Writes : List (String × String) → List (List Char) → Prop
  | nil : Writes [] []
  | empty {parameters : List (String × String)} {pieces : List (List Char)}
      (more : Writes parameters pieces) : Writes parameters ([] :: pieces)
  | parameter {parameter : String × String} {piece : List Char}
      {parameters : List (String × String)} {pieces : List (List Char)}
      (here : WritesParameter parameter piece) (more : Writes parameters pieces) :
      Writes (parameter :: parameters) (piece :: pieces)

theorem WritesParameter.unbroken {parameter : String × String} {piece : List Char}
    (written : WritesParameter parameter piece) : '&' ∉ piece := by
  cases written with
  | pair _ unsplit _ unbroken => simp [unsplit.2, unbroken]
  | flag _ _ unsplit => exact unsplit.2

theorem decode_written {text : String} {written : List Char}
    (encodes : Encodes text.toList written) : Percent.decode (String.ofList written) = text :=
  Percent.Encodes.decode_eq (by rwa [String.toList_ofList])

theorem addParameter_written {parameter : String × String} {piece : List Char}
    (written : WritesParameter parameter piece) (fields : Fields) :
    addParameter fields piece = fields.set parameter.1 parameter.2 := by
  cases written with
  | pair nameWritten unsplit valueWritten _ =>
      simp [addParameter, cut_append unsplit.1, decode_written nameWritten,
        decode_written valueWritten]
  | flag named nameWritten unsplit =>
      have something : piece ≠ [] := by
        rintro rfl
        exact named (decode_written nameWritten).symm
      have decoded : Percent.decode (String.ofList []) = "" := rfl
      simp [addParameter, something, cut_of_not_mem unsplit.1, decode_written nameWritten, decoded]

theorem Writes.unbroken {parameters : List (String × String)} {pieces : List (List Char)}
    (writes : Writes parameters pieces) : ∀ piece ∈ pieces, '&' ∉ piece := by
  induction writes with
  | nil => simp
  | empty _ ih => simpa using ih
  | parameter here _ ih => simpa using ⟨here.unbroken, ih⟩

theorem Writes.foldl_addParameter {parameters : List (String × String)}
    {pieces : List (List Char)} (writes : Writes parameters pieces) (fields : Fields) :
    pieces.foldl addParameter fields = fields.store parameters := by
  induction writes generalizing fields with
  | nil => rfl
  | empty _ ih => exact ih fields
  | parameter here _ ih =>
      rw [List.foldl_cons, addParameter_written here, ih]
      rfl

theorem parseQuery_written {parameters : List (String × String)} {pieces : List (List Char)}
    (writes : Writes parameters pieces) :
    parseQuery (['&'].intercalate pieces) = Fields.store {} parameters := by
  cases pieces with
  | nil =>
      cases writes
      rfl
  | cons piece more =>
      rw [parseQuery, pieces_eq_splitOn, List.splitOn_intercalate '&' writes.unbroken (by simp)]
      exact writes.foldl_addParameter {}

/-- A query gives back the parameters that were written, however that was done. Each name has the
value of its last place in the list, and there are no other names. -/
theorem query_recovered {parameters : List (String × String)} {pieces : List (List Char)}
    (writes : Writes parameters pieces) :
    let query := parseQuery (['&'].intercalate pieces)
    (∀ name value, query.get? name = some value ↔
      ∃ front rest, parameters = front ++ (name, value) :: rest ∧
        ∀ later ∈ rest, later.1 ≠ name) ∧
    (∀ name, name ∈ query.names ↔ ∃ value, (name, value) ∈ parameters) ∧
    query.names.Nodup := by
  intro query
  have stored : query = Fields.store {} parameters := parseQuery_written writes
  rw [stored]
  refine ⟨Fields.get?_store_eq_some_iff parameters, ?_, ?_⟩
  · intro name
    simpa [Fields.names] using Fields.mem_names_store {} parameters name
  · exact @Fields.nodup_names_store {} List.nodup_nil parameters

theorem query_recovered_mixed :
    let query := parseQuery "k%26==&&f&%6B%26=%2b+".toList
    query.get? "k&" = some "+ " ∧ query.get? "f" = some "" ∧ query.names.Nodup ∧
      "k" ∉ query.names := by
  have mark : Escapes (String.utf8EncodeChar '&') ['%', '2', '6'] :=
    .byte (by decide) (by decide) .nil
  have letter : Escapes (String.utf8EncodeChar 'k') ['%', '6', 'B'] :=
    .byte (by decide) (by decide) .nil
  have plus : Escapes (String.utf8EncodeChar '+') ['%', '2', 'b'] :=
    .byte (by decide) (by decide) .nil
  have first : WritesParameter ("k&", "=") "k%26==".toList :=
    @WritesParameter.pair _ _ "k%26".toList "=".toList (.plain (by decide) (.escaped mark .nil))
      (by decide) (.plain (by decide) .nil) (by decide)
  have second : WritesParameter ("f", "") "f".toList :=
    .flag (by decide) (.plain (by decide) .nil) (by decide)
  have third : WritesParameter ("k&", "+ ") "%6B%26=%2b+".toList :=
    @WritesParameter.pair _ _ "%6B%26".toList "%2b+".toList
      (.escaped letter (.escaped mark .nil)) (by decide)
      (.escaped plus (.plus .nil)) (by decide)
  have writes : Writes [("k&", "="), ("f", ""), ("k&", "+ ")]
      ["k%26==".toList, [], "f".toList, "%6B%26=%2b+".toList] :=
    .parameter first (.empty (.parameter second (.parameter third .nil)))
  obtain ⟨last, names, distinct⟩ := query_recovered writes
  refine ⟨(last _ _).mpr ⟨[("k&", "="), ("f", "")], [], rfl, by decide⟩,
    (last _ _).mpr ⟨[("k&", "=")], [("k&", "+ ")], rfl, by decide⟩, distinct, ?_⟩
  intro member
  simpa using (names "k").mp member

end HttpServer.Request
