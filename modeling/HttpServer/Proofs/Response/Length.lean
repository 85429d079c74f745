import HttpServer.Proofs.Fields
import HttpServer.Proofs.History
import HttpServer.Response

/-!
`Content-Length` in step with the body. Whatever sets a body also says how long it is; a change
inside the body does not, and then the header tells of the body as it was measured last.
-/

namespace HttpServer.Response

open History

/-! ### Headers of the body -/

@[simp] theorem header?_setHeader (response : Response) (name value other : String) :
    (response.setHeader name value).header? other =
      if name = other then some value else response.header? other :=
  Fields.get?_set response.headers name value other

theorem header?_updateContentLength (response : Response) :
    response.updateContentLength.header? "Content-Length" =
      some (decimal response.body.length) := by
  rw [updateContentLength, header?_setHeader, if_pos rfl]

def isOther (name : String) : Bool :=
  name ≠ "Content-Type" && name ≠ "Content-Length"

structure Tells (before after : Response) (status : Status) (text : String) : Prop where
  status : after.status = status
  body : after.body = Utf8.bytes text
  contentType : after.header? "Content-Type" = some "text/plain; charset=utf-8"
  contentLength : after.header? "Content-Length" = some (decimal (Utf8.bytes text).length)
  others : (after.headers.entries.filter fun entry => isOther entry.1) =
    before.headers.entries.filter fun entry => isOther entry.1
  version : after.version = before.version

theorem tells_setText (response : Response) (status : Status) (text : String) :
    response.Tells ((response.setStatus status).setText text) status text where
  status := rfl
  body := rfl
  contentType := by
    rw [setText, setContent, setBody, updateContentLength, header?_setHeader, if_neg (by decide)]
    exact (header?_setHeader _ _ _ _).trans (if_pos rfl)
  contentLength := header?_updateContentLength _
  others := by
    simp only [setText, setContent, setBody, updateContentLength, setHeader, setStatus, Fields.set]
    rw [Fields.filter_setEntry (by decide), Fields.filter_setEntry (by decide)]
  version := rfl

/-! ### Changes -/

inductive Change
  | setStatus (status : Status)
  | setHeader (name value : String) (other : name ≠ "Content-Length")
  | setBody (body : Bytes)
  | setText (text : String)
  | setHtml (html : String)
  | setJson (json : String)
  | setFile (files : FileTree) (path : String)
  | enableCors (origin : String)
  | updateContentLength
  | mutateBody (mutate : Bytes → Bytes)

namespace Change

def apply (response : Response) : Change → Response
  | .setStatus status => response.setStatus status
  | .setHeader name value _ => response.setHeader name value
  | .setBody body => response.setBody body
  | .setText text => response.setText text
  | .setHtml html => response.setHtml html
  | .setJson json => response.setJson json
  | .setFile files path => response.setFile files path
  | .enableCors origin => response.enableCors origin
  | .updateContentLength => response.updateContentLength
  | .mutateBody mutate => { response with body := mutate response.body }

def measures : Change → Bool
  | .setBody _ | .setText _ | .setHtml _ | .setJson _ | .setFile _ _ | .updateContentLength => true
  | .setStatus _ | .setHeader _ _ _ | .enableCors _ | .mutateBody _ => false

def mutates : Change → Bool
  | .mutateBody _ => true
  | _ => false

variable {change : Change}

theorem header?_of_measures (measured : change.measures = true) (response : Response) :
    (change.apply response).header? "Content-Length" =
      some (decimal (change.apply response).body.length) := by
  cases change with
  | setBody _ | setText _ | setHtml _ | setJson _ | updateContentLength =>
      exact header?_updateContentLength _
  | setFile files path =>
      simp only [apply, Response.setFile]
      cases files.read path with
      | ok content => exact header?_updateContentLength _
      | error fault => exact header?_updateContentLength _
  | setStatus _ | setHeader _ _ _ | enableCors _ | mutateBody _ => cases measured

theorem header?_of_not_measures (unmeasured : change.measures = false) (response : Response) :
    (change.apply response).header? "Content-Length" = response.header? "Content-Length" := by
  cases change with
  | setStatus _ | mutateBody _ => rfl
  | setHeader name value other => exact (header?_setHeader _ _ _ _).trans (if_neg other)
  | enableCors origin => simp [apply, Response.enableCors]
  | setBody _ | setText _ | setHtml _ | setJson _ | setFile _ _ | updateContentLength =>
      cases unmeasured

theorem body_of_not_measures (unmeasured : change.measures = false)
    (unmutated : change.mutates = false) (response : Response) :
    (change.apply response).body = response.body := by
  cases change with
  | setStatus _ | setHeader _ _ _ | enableCors _ => rfl
  | mutateBody _ => cases unmutated
  | setBody _ | setText _ | setHtml _ | setJson _ | setFile _ _ | updateContentLength =>
      cases unmeasured

theorem nodup_apply {response : Response} (distinct : response.headers.names.Nodup)
    (change : Change) : (change.apply response).headers.names.Nodup := by
  have content (contentType : String) (body : Bytes) :
      (response.setContent contentType body).headers.names.Nodup :=
    Fields.nodup_names_set (Fields.nodup_names_set distinct _ _) _ _
  cases change with
  | setStatus _ | mutateBody _ => exact distinct
  | setHeader _ _ _ | setBody _ | updateContentLength =>
      exact Fields.nodup_names_set distinct _ _
  | setText _ | setHtml _ | setJson _ => exact content _ _
  | setFile files path =>
      simp only [apply, Response.setFile]
      cases files.read path with
      | ok bytes => exact content _ bytes
      | error fault => exact content _ (Utf8.bytes "File not found")
  | enableCors origin =>
      exact Fields.nodup_names_set (Fields.nodup_names_set
        (Fields.nodup_names_set distinct _ _) _ _) _ _

end Change

/-! ### Histories of changes -/

inductive Fresh : Response → Prop
  | ofStatus (status : Status) : Fresh (ofStatus status)
  | forRequest (request : Request) : Fresh (forRequest request)

theorem Fresh.headers_eq {start : Response} (fresh : Fresh start) : start.headers = {} := by
  cases fresh with
  | ofStatus status => rfl
  | forRequest request =>
      unfold Response.forRequest
      split <;> rfl

def after (start : Response) (changes : List Change) : Response :=
  changes.foldl Change.apply start

theorem after_concat (start : Response) (changes : List Change) (change : Change) :
    start.after (changes ++ [change]) = change.apply (start.after changes) :=
  List.foldl_concat Change.apply start change changes

section

variable {start : Response} (fresh : Fresh start) (changes : List Change)
include fresh

theorem nodup_after : (start.after changes).headers.names.Nodup := by
  induction changes using List.reverseRecOn with
  | nil =>
      rw [after, List.foldl_nil, fresh.headers_eq]
      exact List.nodup_nil
  | append_singleton changes change ih =>
      rw [after_concat]
      exact Change.nodup_apply ih change

/-- The header holds the length that the body had when it was measured last. -/
theorem header?_after (value : String) :
    (start.after changes).header? "Content-Length" = some value ↔
      Stands
        (fun before change => change.measures = true ∧
          decimal (start.after (before ++ [change])).body.length = value)
        (·.measures = true) changes := by
  refine iff_stands (fun made => (start.after made).header? "Content-Length" = some value)
    ?_ ?_ changes
  · intro found
    rw [after, List.foldl_nil, header?, fresh.headers_eq] at found
    cases found
  · intro changes change
    rw [after_concat]
    cases measured : change.measures with
    | true => simp [Change.header?_of_measures measured]
    | false => simp [Change.header?_of_not_measures measured]

theorem contains_after : (start.after changes).headers.contains "Content-Length" =
    changes.any Change.measures := by
  induction changes using List.reverseRecOn with
  | nil =>
      rw [after, List.foldl_nil, fresh.headers_eq]
      rfl
  | append_singleton changes change ih =>
      rw [List.any_append, ← ih, List.any_cons, List.any_nil, Bool.or_false, after_concat]
      cases measured : change.measures with
      | true =>
          have set := Change.header?_of_measures measured (start.after changes)
          rw [Bool.or_true]
          exact Option.isSome_of_eq_some set
      | false =>
          rw [Bool.or_false]
          exact congrArg Option.isSome (Change.header?_of_not_measures measured _)

end

theorem header?_after_of_stands (start : Response) {changes : List Change}
    (stands : Stands (fun _ change => change.measures = true) (·.mutates = true) changes) :
    (start.after changes).header? "Content-Length" =
      some (decimal (start.after changes).body.length) := by
  induction changes using List.reverseRecOn with
  | nil => exact absurd stands not_stands_nil
  | append_singleton changes change ih =>
      rw [after_concat]
      rcases (stands_concat change).mp stands with measured | ⟨earlier, unmutated⟩
      · exact Change.header?_of_measures measured _
      · cases measured : change.measures with
        | true => exact Change.header?_of_measures measured _
        | false =>
            rw [Change.header?_of_not_measures measured,
              Change.body_of_not_measures measured (eq_false_of_ne_true unmutated)]
            exact ih earlier

/-- At every point of a response's life `Content-Length` is there once if a body or its length has
been set, and else not at all. It is the length that the body had right after the last change of
that kind, so it is the length of the body unless that was changed in place since. A file that
cannot be read leaves the words `File not found`, measured, and no other trace. -/
theorem length_in_step {start : Response} (fresh : Fresh start) (changes : List Change) :
    let response := start.after changes
    response.headers.names.count "Content-Length" =
      (if changes.any Change.measures then 1 else 0) ∧
    (∀ value, response.header? "Content-Length" = some value ↔
      Stands
        (fun before change => change.measures = true ∧
          decimal (start.after (before ++ [change])).body.length = value)
        (·.measures = true) changes) ∧
    (Stands (fun _ change => change.measures = true) (·.mutates = true) changes →
      response.header? "Content-Length" = some (decimal response.body.length)) ∧
    ∀ files path fault, FileTree.read files path = .error fault →
      response.Tells (start.after (changes ++ [.setFile files path]))
        .notFound "File not found" := by
  refine ⟨?_, header?_after fresh changes, header?_after_of_stands start, ?_⟩
  · rw [(nodup_after fresh changes).count, ← contains_after fresh changes]
    simp only [Fields.contains_iff_mem_names]
  · intro files path fault unread
    rw [after_concat, Change.apply, setFile, unread]
    exact tells_setText _ _ _

theorem length_in_step_appended :
    let response := (ofStatus .ok).after
      [.setText "abc", .mutateBody (· ++ Utf8.bytes "def"),
        .setHeader "X-Kind" "joined" (by decide)]
    response.header? "Content-Length" = some (decimal 3) ∧ response.body = Utf8.bytes "abcdef" ∧
      response.Tells (response.setFile {} "missing.html") .notFound "File not found" := by
  obtain ⟨-, measured, -, failed⟩ := length_in_step (.ofStatus .ok)
    [.setText "abc", .mutateBody (· ++ Utf8.bytes "def"), .setHeader "X-Kind" "joined" (by decide)]
  refine ⟨(measured _).mpr ⟨[], _, _, rfl, ⟨rfl, rfl⟩, by simp [Change.measures]⟩, rfl, ?_⟩
  exact failed {} "missing.html" .missing (by decide)

end HttpServer.Response
