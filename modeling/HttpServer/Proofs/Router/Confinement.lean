import HttpServer.Router
import HttpServer.Proofs.FilePath
import HttpServer.Proofs.Text.Utf8

/-!
Static mappings. Whatever the bytes of a request, the file that a mapping opens for it lies in the
directory of the mapping, and a path that climbs opens none.
-/

namespace HttpServer

def parts (path : String) : List String :=
  (path.toList.splitOnP isSeparator).map String.ofList

theorem mem_parts (name path : String) :
    name ∈ parts path ↔ name.toList ∈ path.toList.splitOnP isSeparator := by
  constructor
  · intro member
    obtain ⟨piece, found, rfl⟩ := List.mem_map.mp member
    simpa using found
  · intro member
    exact List.mem_map.mpr ⟨name.toList, member, String.ofList_toList⟩

/-! ### Climbing -/

theorem pieces_unify (text : List Char) :
    pieces '/' (text.map fun c => if isSeparator c then '/' else c) =
      text.splitOnP isSeparator := by
  induction text with
  | nil => rfl
  | cons c rest ih =>
      rw [List.splitOnP_cons_eq_if_modifyHead, ← ih, List.map_cons]
      change addToPieces '/' _ (pieces '/' _) = _
      cases found : pieces '/' (rest.map fun c => if isSeparator c then '/' else c) with
      | nil => exact absurd (ih.symm.trans found) (List.splitOnP_ne_nil isSeparator rest)
      | cons piece more =>
          by_cases separates : isSeparator c = true
          · simp [addToPieces, separates]
          · have other : c ≠ '/' := by
              rintro rfl
              exact separates rfl
            simp [addToPieces, separates, other]

theorem climbs_iff (path : List Char) :
    climbs path = true ↔ ".." ∈ parts (String.ofList path) := by
  rw [climbs, pieces_unify, mem_parts, String.toList_ofList, List.contains_iff_mem]
  rfl

theorem climbs_dropWhile (path : List Char) :
    climbs (path.dropWhile (· = '/')) = true ↔ climbs path = true := by
  induction path with
  | nil => rfl
  | cons c rest ih =>
      by_cases slash : c = '/'
      · subst slash
        rw [List.dropWhile_cons_of_pos (by simp), ih, climbs, climbs, pieces_unify, pieces_unify,
          List.splitOnP_cons_eq_if_modifyHead]
        simp [isSeparator]
      · rw [List.dropWhile_cons_of_neg (by simpa using slash)]

theorem level_of_parts {path : String} (level : ".." ∉ parts path) :
    ".." ∉ FilePath.components path := by
  intro member
  obtain ⟨piece, cutOut, named⟩ := List.mem_map.mp (List.mem_filter.mp member).1
  have dots : piece = "..".toList := by rw [← named, String.toList_ofList]
  apply level
  -- Slashes cut less than separators do, but `..` holds neither.
  rw [mem_parts, @splitOnP_flatMap _ (· == '/') isSeparator]
  · rw [pieces_eq_splitOn, List.splitOn_eq_splitOnP, dots] at cutOut
    refine List.mem_flatMap.mpr ⟨_, cutOut, ?_⟩
    decide
  · intro c slash
    simp [isSeparator, eq_of_beq slash]

/-! ### What a mapping makes of a path -/

theorem remainder_of_find {table : StaticTable} {path : String} {mapping : String × String}
    (found : table.find? path = some mapping) :
    mapping ∈ table.mappings ∧ ∃ remainder, path = mapping.1 ++ remainder := by
  refine ⟨List.mem_of_find?_eq_some found, ?_⟩
  have begins := List.find?_some found
  obtain ⟨remainder, joined⟩ := List.isPrefixOf_iff_prefix.mp begins
  refine ⟨String.ofList remainder, String.toList_inj.mp ?_⟩
  simp [joined]

theorem find_bytes (table : StaticTable) (path : String) :
    table.find? path =
      table.mappings.find? fun mapping =>
        (Utf8.bytes mapping.1).isPrefixOf (Utf8.bytes path) := by
  unfold StaticTable.find?
  congr 1
  funext mapping
  rw [Bool.eq_iff_iff, List.isPrefixOf_iff_prefix, List.isPrefixOf_iff_prefix]
  exact (Utf8.encode_isPrefix_iff mapping.1.toList path.toList).symm

theorem target_of_append (mapping : String × String) (remainder : String) :
    StaticTarget.of mapping (mapping.1 ++ remainder) =
      if ".." ∈ parts remainder then .refused
      else .file (FilePath.join mapping.2
        (String.ofList (remainder.toList.dropWhile (· = '/')))) := by
  have behind : (mapping.1 ++ remainder).toList.drop mapping.1.length = remainder.toList := by
    rw [String.toList_append, ← String.length_toList, List.drop_left]
  have climbing := (climbs_dropWhile remainder.toList).trans (climbs_iff remainder.toList)
  rw [String.ofList_toList] at climbing
  simp only [StaticTarget.of, behind]
  by_cases refused : ".." ∈ parts remainder
  · rw [if_pos (climbing.mpr refused), if_pos refused]
  · rw [if_neg (fun climbs => refused (climbing.mp climbs)), if_neg refused]

theorem relative_dropWhile (path : String) :
    FilePath.isAbsolute (String.ofList (path.toList.dropWhile (· = '/'))) = false := by
  have first := List.head?_dropWhile_not (fun c => decide (c = '/')) path.toList
  rw [FilePath.isAbsolute, String.toList_ofList, decide_eq_false_iff_not]
  intro slash
  rw [slash] at first
  simp at first

theorem not_mem_parts_dropWhile {path : String} (level : ".." ∉ parts path) :
    ".." ∉ parts (String.ofList (path.toList.dropWhile (· = '/'))) := by
  rw [← climbs_iff, climbs_dropWhile, climbs_iff, String.ofList_toList]
  exact level

namespace Router

theorem finalStep_static {router : Router} {request : Request} {mapping : String × String}
    (found : router.statics.find? request.path = some mapping) :
    router.finalStep request = .static (StaticTarget.of mapping request.path) := by
  simp [finalStep, found]

theorem static_of_neededFile {router : Router} {input : Bytes} {opened : String}
    (needed : router.neededFile? input = some opened) :
    ∃ mapping remainder, router.statics.find? (Request.read input).path = some mapping ∧
      (Request.read input).path = mapping.1 ++ remainder ∧ ".." ∉ parts remainder ∧
      opened = FilePath.join mapping.2
        (String.ofList (remainder.toList.dropWhile (· = '/'))) := by
  cases found : router.statics.find? (Request.read input).path with
  | none =>
      simp only [neededFile?, finalStep, found] at needed
      cases route : router.findRoute? (Request.read input) <;> simp [route] at needed
  | some mapping =>
      obtain ⟨-, remainder, split⟩ := remainder_of_find found
      simp only [neededFile?, finalStep_static found, split, target_of_append] at needed
      by_cases refused : ".." ∈ parts remainder
      · simp [refused] at needed
      · simp only [refused, if_false, Option.some.injEq] at needed
        exact ⟨mapping, remainder, rfl, split, refused, needed.symm⟩

/-! ### What an answer depends on -/

theorem runThrough_congr {last other : Handler} {request : Request}
    (same : ∀ response, last request response = other request response)
    (middleware : List Middleware) (response : Response) :
    runThrough last middleware request response =
      runThrough other middleware request response := by
  induction middleware generalizing response with
  | nil => exact same response
  | cons first rest ih => simp only [runThrough, ih]

theorem runFinal_congr {router : Router} {files others : FileTree} {request : Request}
    (agree : ∀ opened, router.finalStep request = .static (.file opened) →
      files.read opened = others.read opened) (response : Response) :
    router.runFinal files request response = router.runFinal others request response := by
  unfold runFinal
  cases final : router.finalStep request with
  | static target =>
      cases target with
      | file opened => simp only [StaticTarget.serve, Response.setFile, agree opened final]
      | refused => rfl
  | route route => rfl
  | notFound => rfl

theorem process_congr {router : Router} {files others : FileTree} {request : Request}
    (agree : ∀ opened, router.finalStep request = .static (.file opened) →
      files.read opened = others.read opened) (response : Response) :
    router.process files request response = router.process others request response := by
  have same := runThrough_congr (runFinal_congr agree) router.middleware response
  simp only [process, dispatch, same]

theorem answer_of_process {router other : Router} {files others : FileTree} {input : Bytes}
    (same : ∀ response, router.process files (Request.read input) response =
      other.process others (Request.read input) response) :
    router.answer files input = other.answer others input := by
  unfold answer
  unfold Request.read at same
  cases parsed : Request.parse input with
  | ok request =>
      simp only [parsed, Except.toOption, Option.getD_some] at same
      simp only [same]
  | error fault =>
      simp only [parsed, Except.toOption, Option.getD_none] at same
      simp only [same]

theorem answer_congr {router : Router} {files others : FileTree} {input : Bytes}
    (agree : ∀ opened, router.neededFile? input = some opened →
      files.read opened = others.read opened) :
    router.answer files input = router.answer others input :=
  answer_of_process (process_congr fun opened final => agree opened (by simp [neededFile?, final]))

/-! ### Confinement -/

/-- What static mappings make of the bytes of a request. A file that is opened lies in the
directory of its mapping, and no other file has a say in the answer. A climbing path is answered
without any. What follows the prefix of a mapping begins with a whole character. -/
theorem static_confined (router : Router) (input : Bytes) :
    (∀ opened, router.neededFile? input = some opened →
      ∃ mapping ∈ router.statics.mappings, ∃ relative,
        opened = FilePath.join mapping.2 relative ∧ FilePath.isAbsolute relative = false ∧
        ".." ∉ parts relative ∧ FilePath.Within mapping.2 opened) ∧
    (∀ files others : FileTree,
      (∀ opened, router.neededFile? input = some opened →
        files.read opened = others.read opened) →
      router.answer files input = router.answer others input) ∧
    (∀ mapping, router.statics.find? (Request.read input).path = some mapping →
      ∃ remainder, (Request.read input).path = mapping.1 ++ remainder ∧
        (Utf8.bytes (Request.read input).path).drop (Utf8.bytes mapping.1).length =
          Utf8.bytes remainder ∧
        (".." ∈ parts remainder →
          router.neededFile? input = none ∧
          ∀ files response, router.runFinal files (Request.read input) response =
            { response := (response.setStatus .notFound).setText "File not found",
              result := .ok () })) ∧
    router.statics.find? (Request.read input).path =
      router.statics.mappings.find? fun mapping =>
        (Utf8.bytes mapping.1).isPrefixOf (Utf8.bytes (Request.read input).path) := by
  refine ⟨?_, fun files others => answer_congr, ?_, find_bytes router.statics _⟩
  · intro opened needed
    obtain ⟨mapping, remainder, found, -, kept, rfl⟩ := static_of_neededFile needed
    have relative := relative_dropWhile remainder
    have level := not_mem_parts_dropWhile kept
    exact ⟨mapping, (remainder_of_find found).1, _, rfl, relative, level,
      FilePath.within_join mapping.2 relative (level_of_parts level)⟩
  · intro mapping found
    obtain ⟨-, remainder, split⟩ := remainder_of_find found
    refine ⟨remainder, split, ?_, ?_⟩
    · rw [split, Utf8.bytes_append, List.drop_left]
    · intro climbing
      have final := finalStep_static found
      rw [split, target_of_append, if_pos climbing] at final
      refine ⟨by rw [neededFile?, final], fun files response => ?_⟩
      rw [runFinal, final]
      rfl

def publicRouter : Router :=
  ({} : Router).addStatic "/static" "./public"

def nestedInput : Bytes :=
  Utf8.bytes "GET /static//css%2Fapp.css?v=1 HTTP/1.1\r\n\r\n"

def climbingInput : Bytes :=
  Utf8.bytes "GET /static/css/%2e%2e%5C.. HTTP/1.1\r\n\r\n"

theorem static_confined_public :
    (publicRouter.neededFile? nestedInput = some "./public/css/app.css" ∧
      ∃ mapping ∈ publicRouter.statics.mappings, ∃ relative,
        "./public/css/app.css" = FilePath.join mapping.2 relative ∧
        FilePath.isAbsolute relative = false ∧ ".." ∉ parts relative ∧
        FilePath.Within mapping.2 "./public/css/app.css") ∧
    publicRouter.neededFile? climbingInput = none ∧
    publicRouter.answer {} climbingInput =
      publicRouter.answer (({} : FileTree).addFile "secret" [1]) climbingInput := by
  have opened : publicRouter.neededFile? nestedInput = some "./public/css/app.css" := by decide
  have mapped : publicRouter.statics.find? (Request.read climbingInput).path =
      some ("/static", "./public") := by decide
  have path : (Request.read climbingInput).path = "/static" ++ "/css/..\\.." := by decide
  obtain ⟨remainder, split, -, refused⟩ :=
    (static_confined publicRouter climbingInput).2.2.1 _ mapped
  have same : remainder = "/css/..\\.." := by
    have joined := congrArg String.toList (split.symm.trans path)
    simp only [String.toList_append] at joined
    exact String.toList_inj.mp (List.append_cancel_left joined)
  have closed := (refused (same ▸ by decide)).1
  refine ⟨⟨opened, (static_confined publicRouter nestedInput).1 _ opened⟩, closed, ?_⟩
  refine (static_confined publicRouter climbingInput).2.1 _ _ ?_
  intro file needed
  simp [closed] at needed

end Router

end HttpServer
