import HttpServer.Handler
import HttpServer.Proofs.Request.Grammar
import HttpServer.Proofs.Text.Decimal

/-!
What user code can make of a response: it has no other means than these edits. A response that is
fit to be written stays so under each of them.
-/

namespace HttpServer

/-! ### Clean header fields -/

def IsCleanValue (value : String) : Prop :=
  ∀ c ∈ value.toList, c ≠ '\r' ∧ c ≠ '\n'

def IsCleanName (name : String) : Prop :=
  ∀ c ∈ name.toList, c ≠ '\r' ∧ c ≠ '\n' ∧ c ≠ ':'

instance : DecidablePred IsCleanValue := fun value => List.decidableBAll _ value.toList

instance : DecidablePred IsCleanName := fun name => List.decidableBAll _ name.toList

theorem isCleanValue_of_solid {value : String}
    (solid : ∀ c ∈ value.toList, Text.isBlank c = false) : IsCleanValue value := by
  intro c member
  have notBlank := solid c member
  constructor
  · rintro rfl
    exact absurd notBlank (by decide)
  · rintro rfl
    exact absurd notBlank (by decide)

theorem isCleanValue_decimal (value : Nat) : IsCleanValue (decimal value) := by
  intro c member
  have digit := mem_decimal member
  constructor
  · rintro rfl
    exact absurd digit (by decide)
  · rintro rfl
    exact absurd digit (by decide)

theorem isCleanValue_ofPath (path : String) : IsCleanValue (Mime.ofPath path) := by
  have listed : ∀ entry ∈ Mime.table, IsCleanValue entry.2 := by decide
  have unlisted : IsCleanValue Mime.fallback := by decide
  unfold Mime.ofPath
  split
  · unfold Mime.ofExtension
    dsimp only
    split
    · rename_i entry found
      exact listed entry (List.mem_of_find?_eq_some found)
    · exact unlisted
  · exact unlisted

namespace Response

/-! ### Edits -/

/-- What user code can make of the response `before` that it is given. The index is the version of
the response that was put in the place of `before`, if another was. -/
inductive Edited (before : Response) : Option String → Response → Prop
  | unchanged : Edited before none before
  | status {origin : Option String} {after : Response} (edited : Edited before origin after)
      (status : Status) : Edited before origin (after.setStatus status)
  | header {origin : Option String} {after : Response} (edited : Edited before origin after)
      {name value : String} (cleanName : IsCleanName name) (cleanValue : IsCleanValue value) :
      Edited before origin (after.setHeader name value)
  | body {origin : Option String} {after : Response} (edited : Edited before origin after)
      (body : Bytes) : Edited before origin { after with body }
  | renewed (status : Status) : Edited before (some "HTTP/1.1") (ofStatus status)
  | restarted (input : Bytes) :
      Edited before (some (forRequest (Request.read input)).version)
        (forRequest (Request.read input))

namespace Edited

variable {before after : Response} {origin : Option String}

theorem updateContentLength (edited : before.Edited origin after) :
    before.Edited origin after.updateContentLength :=
  edited.header (by decide) (isCleanValue_decimal after.body.length)

theorem setContent (edited : before.Edited origin after) {contentType : String}
    (clean : IsCleanValue contentType) (body : Bytes) :
    before.Edited origin (after.setContent contentType body) :=
  ((edited.header (by decide) clean).body body).updateContentLength

theorem setText (edited : before.Edited origin after) (text : String) :
    before.Edited origin (after.setText text) :=
  edited.setContent (by decide) (Utf8.bytes text)

theorem setFileNotFound (edited : before.Edited origin after) :
    before.Edited origin after.setFileNotFound :=
  (edited.status .notFound).setText "File not found"

theorem setServerError (edited : before.Edited origin after) :
    before.Edited origin after.setServerError :=
  (edited.status .internalServerError).setText "Internal Server Error"

theorem setFile (edited : before.Edited origin after) (files : FileTree) (path : String) :
    before.Edited origin (after.setFile files path) := by
  unfold Response.setFile
  split
  · exact edited.setContent (isCleanValue_ofPath path) _
  · exact edited.setFileNotFound

theorem trans {last : Response} {later : Option String} (edited : before.Edited origin after)
    (more : after.Edited later last) : before.Edited (later.or origin) last := by
  induction more with
  | unchanged => exact edited
  | status _ status ih => exact ih.status status
  | header _ cleanName cleanValue ih => exact ih.header cleanName cleanValue
  | body _ body ih => exact ih.body body
  | renewed status => exact .renewed status
  | restarted input => exact .restarted input

theorem version_eq (edited : before.Edited origin after) :
    after.version = origin.getD before.version := by
  induction edited with
  | unchanged => rfl
  | status _ _ ih => exact ih
  | header _ _ _ ih => exact ih
  | body _ _ ih => exact ih
  | renewed status => rfl
  | restarted input => rfl

end Edited

/-! ### Responses that are fit to be written -/

structure Sound (response : Response) : Prop where
  version : "HTTP/".toList <+: response.version.toList
  unbroken : ∀ c ∈ response.version.toList, Text.isBlank c = false
  distinct : response.headers.names.Nodup
  clean : ∀ entry ∈ response.headers.entries, IsCleanName entry.1 ∧ IsCleanValue entry.2

theorem sound_ofStatus (status : Status) : (ofStatus status).Sound where
  version := show "HTTP/".toList <+: "HTTP/1.1".toList by decide
  unbroken := (show Text.IsSolid "HTTP/1.1".toList by decide).2
  distinct := List.nodup_nil
  clean := by
    intro entry member
    cases member

theorem Sound.setHeader {response : Response} (sound : response.Sound) {name value : String}
    (cleanName : IsCleanName name) (cleanValue : IsCleanValue value) :
    (response.setHeader name value).Sound where
  version := sound.version
  unbroken := sound.unbroken
  distinct := Fields.nodup_names_set sound.distinct name value
  clean := by
    intro entry member
    rcases Fields.mem_setEntry member with rfl | old
    · exact ⟨cleanName, cleanValue⟩
    · exact sound.clean entry old

end Response

/-! ### The response that a request starts with -/

theorem Request.version_of_parseLine {line : List Char} {request : Request}
    (parsed : parseLine line = .ok request) :
    request.valid = true ∧ "HTTP/".toList <+: request.version.toList ∧
      ∀ c ∈ request.version.toList, Text.isBlank c = false := by
  unfold parseLine at parsed
  split at parsed
  · rename_i method target version found
    split at parsed
    · rename_i begins
      have separated := (Text.words_eq_iff line _).mp found
      have solid := separated.isSolid version (by simp)
      cases parsed
      simp only [String.toList_ofList]
      exact ⟨trivial, List.isPrefixOf_iff_prefix.mp begins, solid.2⟩
    · cases parsed
  · cases parsed

theorem Request.version_of_parse {input : Bytes} {request : Request}
    (parsed : parse input = .ok request) :
    request.valid = true ∧ "HTTP/".toList <+: request.version.toList ∧
      ∀ c ∈ request.version.toList, Text.isBlank c = false := by
  have something : input ≠ [] := by
    rintro rfl
    cases parsed
  rw [parse_eq something] at parsed
  cases line : parseLine (lineText (input.takeWhile (· ≠ lineFeed))) with
  | error fault =>
      rw [line] at parsed
      cases parsed
  | ok opening =>
      rw [line] at parsed
      have token := version_of_parseLine line
      cases parsed
      exact token

namespace Response

theorem sound_default : ({} : Response).Sound :=
  sound_ofStatus .ok

theorem sound_forRequest (input : Bytes) : (forRequest (Request.read input)).Sound := by
  unfold forRequest
  split
  · rename_i valid
    cases parsed : Request.parse input with
    | error fault =>
        rw [Request.read_of_error parsed] at valid
        cases valid
    | ok request =>
        obtain ⟨-, version, unbroken⟩ := Request.version_of_parse parsed
        rw [Request.read_of_parse parsed]
        exact ⟨version, unbroken, List.nodup_nil, by simp⟩
  · exact sound_default

theorem Edited.sound {before after : Response} {origin : Option String}
    (edited : before.Edited origin after) (sound : before.Sound) : after.Sound := by
  induction edited with
  | unchanged => exact sound
  | status _ status ih => exact ⟨ih.version, ih.unbroken, ih.distinct, ih.clean⟩
  | header _ cleanName cleanValue ih => exact ih.setHeader cleanName cleanValue
  | body _ body ih => exact ⟨ih.version, ih.unbroken, ih.distinct, ih.clean⟩
  | renewed status => exact sound_ofStatus status
  | restarted input => exact sound_forRequest input

end Response

end HttpServer
