import HttpServer.Proofs.Entries
import HttpServer.Proofs.Router.Confinement
import HttpServer.Proofs.Router.Passage

/-!
Which requests static mappings capture. Of the prefixes that begin a path the shortest decides,
with the directory that was registered last for it; the order of registration has no other say. A
prefix begins a path as text, so it also captures what stands beside its own subtree.
-/

namespace HttpServer

namespace StaticTable

theorem setMapping_eq_put (urlPrefix directory : String) (mappings : List (String × String)) :
    setMapping urlPrefix directory mappings = Entries.put urlPrefix directory mappings := by
  induction mappings with
  | nil => rfl
  | cons mapping rest ih => simp only [setMapping, Entries.put, ih]

def setAll (table : StaticTable) (registrations : List (String × String)) : StaticTable :=
  registrations.foldl (fun table registration => table.set registration.1 registration.2) table

theorem mappings_setAll (table : StaticTable) (registrations : List (String × String)) :
    (table.setAll registrations).mappings = Entries.putAll registrations table.mappings := by
  induction registrations generalizing table with
  | nil => rfl
  | cons registration rest ih =>
      change ((table.set registration.1 registration.2).setAll rest).mappings = _
      rw [ih, set, setMapping_eq_put]
      rfl

/-! ### The shortest prefix -/

theorem find_eq_none_iff_forall {table : StaticTable} {path : String} :
    table.find? path = none ↔ ∀ mapping ∈ table.mappings, ¬mapping.1.toList <+: path.toList := by
  simp [find?]

theorem begins_of_find {table : StaticTable} {path : String} {mapping : String × String}
    (found : table.find? path = some mapping) : mapping.1.toList <+: path.toList := by
  obtain ⟨-, remainder, rfl⟩ := remainder_of_find found
  simp

theorem prefix_of_length_le {one other path : String} (first : one.toList <+: path.toList)
    (second : other.toList <+: path.toList) (shorter : one.length ≤ other.length) :
    one.toList <+: other.toList := by
  rw [← String.length_toList, ← String.length_toList] at shorter
  exact List.prefix_of_prefix_length_le first second shorter

theorem length_le_of_find {table : StaticTable} {path : String} {mapping : String × String}
    (ascending : Entries.Ascending table.mappings) (found : table.find? path = some mapping)
    {other : String × String} (member : other ∈ table.mappings)
    (begins : other.1.toList <+: path.toList) : mapping.1.length ≤ other.1.length := by
  obtain ⟨-, before, after, split, unfit⟩ := List.find?_eq_some_iff_append.mp found
  rw [split] at member ascending
  have above := (List.pairwise_cons.mp (List.pairwise_append.mp ascending).2.1).1
  rcases List.mem_append.mp member with earlier | here
  · have none := unfit other earlier
    rw [List.isPrefixOf_iff_prefix.mpr begins] at none
    cases none
  · rcases List.mem_cons.mp here with rfl | later
    · exact Nat.le_refl _
    -- A shorter prefix of the same path begins the one that was found, so it stands before it.
    · refine Nat.le_of_not_lt fun shorter => ?_
      have inside := prefix_of_length_le begins (begins_of_find found) (Nat.le_of_lt shorter)
      exact inside.le (String.lt_iff_toList_lt.mp (above other later))

theorem find_eq_some_iff {table : StaticTable} (ascending : Entries.Ascending table.mappings)
    (path : String) (mapping : String × String) :
    table.find? path = some mapping ↔
      mapping ∈ table.mappings ∧ mapping.1.toList <+: path.toList ∧
        ∀ other ∈ table.mappings, other.1.toList <+: path.toList →
          mapping.1.length ≤ other.1.length := by
  constructor
  · intro found
    exact ⟨List.mem_of_find?_eq_some found, begins_of_find found,
      fun other => length_le_of_find ascending found⟩
  · rintro ⟨member, begins, shortest⟩
    cases found : table.find? path with
    | none => exact absurd begins (find_eq_none_iff_forall.mp found mapping member)
    | some first =>
        have there := List.mem_of_find?_eq_some found
        have fits := begins_of_find found
        have shorter := length_le_of_find ascending found member begins
        have inside := prefix_of_length_le fits begins shorter
        have same : first.1 = mapping.1 := by
          refine String.toList_inj.mp (inside.eq_of_length ?_)
          rw [String.length_toList, String.length_toList]
          exact Nat.le_antisymm shorter (shortest first there fits)
        have values := (ascending.mem_iff first.1 first.2).mp there
        rw [same, (ascending.mem_iff mapping.1 mapping.2).mp member] at values
        rw [Prod.ext same (Option.some.inj values).symm]

end StaticTable

namespace Router

/-! ### What the mapping of a path decides -/

theorem process_of_runFinal_eq (router other : Router) {files : FileTree} {request : Request}
    (same : ∀ response,
      router.runFinal files request response = other.runFinal files request response)
    (middleware : router.middleware = other.middleware)
    (errorHandler : router.errorHandler = other.errorHandler) (response : Response) :
    router.process files request response = other.process files request response := by
  have dispatched : router.dispatch files request response =
      other.dispatch files request response := by
    rw [dispatch, dispatch, middleware]
    exact runThrough_congr same other.middleware response
  simp only [process, dispatched, recover, errorHandler]

theorem process_of_find {router : Router} {statics : StaticTable} {request : Request}
    (same : router.statics.find? request.path = statics.find? request.path) (files : FileTree)
    (response : Response) :
    router.process files request response =
      ({ router with statics } : Router).process files request response := by
  have final : router.finalStep request =
      ({ router with statics } : Router).finalStep request := by
    simp only [finalStep, same, findRoute?]
  refine process_of_runFinal_eq router { router with statics } ?_ rfl rfl response
  intro response
  simp only [runFinal, final]

/-! ### Beside a subtree -/

/-- The path is the prefix itself, or lies below it. -/
def InSubtree (urlPrefix path : String) : Prop :=
  path = urlPrefix ∨ (urlPrefix ++ "/").toList <+: path.toList

instance (urlPrefix path : String) : Decidable (InSubtree urlPrefix path) :=
  inferInstanceAs (Decidable (_ ∨ _))

/-- The prefix ends within a name of the path, in front of `rest`. -/
def EndsWithin (urlPrefix rest path : String) : Prop :=
  path = urlPrefix ++ rest ∧ rest ≠ "" ∧ FilePath.isAbsolute rest = false

theorem inSubtree_or_endsWithin {urlPrefix path : String}
    (begins : urlPrefix.toList <+: path.toList) :
    InSubtree urlPrefix path ∨ ∃ rest, EndsWithin urlPrefix rest path := by
  obtain ⟨rest, split⟩ := begins
  have joined : path = urlPrefix ++ String.ofList rest :=
    String.toList_inj.mp (by simp [split])
  rcases rest with _ | ⟨c, rest⟩
  · exact .inl (.inl (by simpa using joined))
  · by_cases slash : c = '/'
    · subst slash
      exact .inl (.inr ⟨rest, by simp [← split]⟩)
    · refine .inr ⟨_, joined, ?_, by simp [FilePath.isAbsolute, slash]⟩
      intro empty
      simpa using congrArg String.toList empty

theorem EndsWithin.begins {urlPrefix rest path : String} (ends : EndsWithin urlPrefix rest path) :
    urlPrefix.toList <+: path.toList := by
  rw [ends.1, String.toList_append]
  exact List.prefix_append _ _

theorem EndsWithin.target {mapping : String × String} {rest path : String}
    (ends : EndsWithin mapping.1 rest path) :
    StaticTarget.of mapping path =
      if ".." ∈ parts rest then .refused else .file (FilePath.join mapping.2 rest) := by
  obtain ⟨rfl, -, relative⟩ := ends
  have whole : rest.toList.dropWhile (· = '/') = rest.toList := by
    cases text : rest.toList with
    | nil => rfl
    | cons c more =>
        rw [FilePath.isAbsolute, text] at relative
        exact List.dropWhile_cons_of_neg (by simpa using relative)
  rw [target_of_append, whole, String.ofList_toList]

/-- A request outside the subtrees of all mappings. It reaches the routes, and is answered as if
there were no mappings, unless the prefix of a mapping ends within a name of the path: then the
static layer answers, from the directory of such a mapping joined with the rest of the name, and
routes have no say. -/
theorem unmapped_falls_through (router : Router) (request : Request)
    (outside : ∀ mapping ∈ router.statics.mappings, ¬InSubtree mapping.1 request.path) :
    ((∀ mapping ∈ router.statics.mappings, ∀ rest, ¬EndsWithin mapping.1 rest request.path) →
      router.statics.find? request.path = none ∧
      ∀ files response, router.process files request response =
        ({ router with statics := {} } : Router).process files request response) ∧
    ((∃ mapping ∈ router.statics.mappings, ∃ rest, EndsWithin mapping.1 rest request.path) →
      ∃ mapping ∈ router.statics.mappings, ∃ rest, EndsWithin mapping.1 rest request.path ∧
        router.finalStep request = .static
          (if ".." ∈ parts rest then .refused else .file (FilePath.join mapping.2 rest)) ∧
        ∀ routes notFound files response,
          ({ router with routes, notFound } : Router).process files request response =
            router.process files request response) := by
  constructor
  · intro apart
    have unmapped : router.statics.find? request.path = none := by
      refine StaticTable.find_eq_none_iff_forall.mpr fun mapping member begins => ?_
      rcases inSubtree_or_endsWithin begins with inside | ⟨rest, ends⟩
      · exact outside mapping member inside
      · exact apart mapping member rest ends
    exact ⟨unmapped, process_of_find (unmapped.trans rfl)⟩
  · rintro ⟨other, listed, _, endsToo⟩
    cases found : router.statics.find? request.path with
    | none =>
        exact absurd endsToo.begins (StaticTable.find_eq_none_iff_forall.mp found other listed)
    | some mapping =>
        have member := List.mem_of_find?_eq_some found
        rcases inSubtree_or_endsWithin (StaticTable.begins_of_find found) with inside | ⟨rest, ends⟩
        · exact absurd inside (outside mapping member)
        · refine ⟨mapping, member, rest, ends, ?_, fun routes notFound files response => ?_⟩
          · rw [finalStep_static found, ends.target]
          · have here := finalStep_static found
            have there : ({ router with routes, notFound } : Router).finalStep request = _ :=
              finalStep_static found
            refine process_of_runFinal_eq { router with routes, notFound } router ?_ rfl rfl
              response
            intro response
            simp only [runFinal, here, there]

def infoRouter : Router :=
  (({} : Router).addStatic "/static" "public").addRoute .get "/static-info"
    (Handler.answering fun _ response => response.setText "info")

def infoInput : Bytes :=
  Utf8.bytes "GET /static-info HTTP/1.1\r\n\r\n"

def otherInput : Bytes :=
  Utf8.bytes "GET /api/static HTTP/1.1\r\n\r\n"

/-- The mapping of `/static` hides the route of `/static-info`, which is not in its subtree. -/
theorem neighbour_captured :
    (∀ mapping ∈ infoRouter.statics.mappings, mapping.1.toList.getLast? ≠ some '/') ∧
    (∀ mapping ∈ infoRouter.statics.mappings,
      ¬InSubtree mapping.1 (Request.read infoInput).path) ∧
    infoRouter.statics.find? (Request.read infoInput).path = some ("/static", "public") ∧
    (infoRouter.process {} (Request.read infoInput) {}).response.status = .notFound ∧
    (({ infoRouter with statics := {} } : Router).process {}
      (Request.read infoInput) {}).response.status = .ok := by
  refine ⟨by decide, by decide, by decide, rfl, rfl⟩

theorem unmapped_falls_through_info :
    (∀ response, infoRouter.process {} (Request.read otherInput) response =
      ({ infoRouter with statics := {} } : Router).process {} (Request.read otherInput) response) ∧
    infoRouter.finalStep (Request.read infoInput) = .static (.file "public/-info") := by
  have mapped {holds : String × String → Prop} (here : holds ("/static", "public")) :
      ∀ mapping ∈ infoRouter.statics.mappings, holds mapping :=
    List.forall_mem_singleton.mpr here
  have path : (Request.read infoInput).path = "/static-info" := by decide
  constructor
  · refine ((unmapped_falls_through infoRouter _ (by decide)).1 (mapped ?_)).2 {}
    rintro rest ends
    exact absurd ends.begins (by decide)
  · obtain ⟨mapping, member, rest, ends, final, -⟩ :=
      (unmapped_falls_through infoRouter (Request.read infoInput) (by decide)).2
        ⟨("/static", "public"), List.mem_singleton.mpr rfl, "-info", by decide, by decide, rfl⟩
    obtain rfl := List.mem_singleton.mp member
    have same : rest = "-info" := by
      have joined := congrArg String.toList (ends.1.symm.trans path)
      simp only [String.toList_append] at joined
      exact String.toList_inj.mp (List.append_cancel_left joined)
    rw [final, same]
    rfl

/-! ### Registrations -/

def lastDirectory? (registrations : List (String × String)) (urlPrefix : String) :
    Option String :=
  Entries.value? urlPrefix registrations.reverse

def withStatics (router : Router) (registrations : List (String × String)) : Router :=
  registrations.foldl
    (fun router registration => router.addStatic registration.1 registration.2)
    { router with statics := {} }

variable {router : Router} {registrations : List (String × String)}

theorem withStatics_eq (router : Router) (registrations : List (String × String)) :
    router.withStatics registrations =
      { router with statics := ({} : StaticTable).setAll registrations } := by
  have main (table : StaticTable) :
      registrations.foldl
        (fun router registration => router.addStatic registration.1 registration.2)
        { router with statics := table } =
      { router with statics := table.setAll registrations } := by
    induction registrations generalizing table with
    | nil => rfl
    | cons registration rest ih => exact ih _
  exact main {}

theorem mappings_withStatics (router : Router) (registrations : List (String × String)) :
    (router.withStatics registrations).statics.mappings = Entries.putAll registrations [] := by
  rw [withStatics_eq]
  exact StaticTable.mappings_setAll {} registrations

theorem ascending_withStatics (router : Router) (registrations : List (String × String)) :
    Entries.Ascending (router.withStatics registrations).statics.mappings := by
  rw [mappings_withStatics]
  exact Entries.ascending_putAll List.Pairwise.nil registrations

theorem value_withStatics (router : Router) (registrations : List (String × String))
    (urlPrefix : String) :
    Entries.value? urlPrefix (router.withStatics registrations).statics.mappings =
      lastDirectory? registrations urlPrefix := by
  rw [mappings_withStatics, Entries.value?_putAll]
  exact Option.or_none

theorem mem_withStatics (mapping : String × String) :
    mapping ∈ (router.withStatics registrations).statics.mappings ↔
      lastDirectory? registrations mapping.1 = some mapping.2 := by
  rw [← value_withStatics router]
  exact (ascending_withStatics router registrations).mem_iff mapping.1 mapping.2

theorem lastDirectory_eq_none_iff {urlPrefix : String} :
    lastDirectory? registrations urlPrefix = none ↔
      ∀ registration ∈ registrations, registration.1 ≠ urlPrefix := by
  simp [lastDirectory?, Entries.value?_eq_none_iff]

theorem exists_mapping (router : Router) {registration : String × String}
    (member : registration ∈ registrations) :
    ∃ mapping ∈ (router.withStatics registrations).statics.mappings,
      mapping.1 = registration.1 := by
  cases last : lastDirectory? registrations registration.1 with
  | none => exact absurd rfl (lastDirectory_eq_none_iff.mp last registration member)
  | some directory => exact ⟨(registration.1, directory), (mem_withStatics _).mpr last, rfl⟩

theorem exists_registration {mapping : String × String}
    (member : mapping ∈ (router.withStatics registrations).statics.mappings) :
    ∃ registration ∈ registrations, registration.1 = mapping.1 := by
  by_contra nobody
  have none : lastDirectory? registrations mapping.1 = none :=
    lastDirectory_eq_none_iff.mpr fun registration there same => nobody ⟨registration, there, same⟩
  rw [(mem_withStatics mapping).mp member] at none
  cases none

theorem find_withStatics_eq_some_iff (path : String) (mapping : String × String) :
    (router.withStatics registrations).statics.find? path = some mapping ↔
      lastDirectory? registrations mapping.1 = some mapping.2 ∧
        mapping.1.toList <+: path.toList ∧
        ∀ other ∈ registrations, other.1.toList <+: path.toList →
          mapping.1.length ≤ other.1.length := by
  rw [StaticTable.find_eq_some_iff (ascending_withStatics router registrations), mem_withStatics]
  refine and_congr_right fun _ => and_congr_right fun _ => ⟨?_, ?_⟩
  · intro shortest other member begins
    obtain ⟨mapping, there, same⟩ := exists_mapping router member
    rw [← same] at begins ⊢
    exact shortest mapping there begins
  · intro shortest other member begins
    obtain ⟨registration, there, same⟩ := exists_registration member
    rw [← same] at begins ⊢
    exact shortest registration there begins

theorem find_withStatics_eq_none_iff (path : String) :
    (router.withStatics registrations).statics.find? path = none ↔
      ∀ registration ∈ registrations, ¬registration.1.toList <+: path.toList := by
  rw [StaticTable.find_eq_none_iff_forall]
  constructor
  · intro unmapped registration member
    obtain ⟨mapping, there, same⟩ := exists_mapping router member
    rw [← same]
    exact unmapped mapping there
  · intro unmapped mapping member
    obtain ⟨registration, there, same⟩ := exists_registration member
    rw [← same]
    exact unmapped registration there

theorem withStatics_congr {others : List (String × String)}
    (same : ∀ urlPrefix, lastDirectory? others urlPrefix = lastDirectory? registrations urlPrefix) :
    router.withStatics others = router.withStatics registrations := by
  have mappings : (router.withStatics others).statics.mappings =
      (router.withStatics registrations).statics.mappings := by
    refine (ascending_withStatics router others).eq_of_value?
      (ascending_withStatics router registrations) fun urlPrefix => ?_
    rw [value_withStatics, value_withStatics, same]
  have statics : (router.withStatics others).statics = (router.withStatics registrations).statics :=
    congrArg StaticTable.mk mappings
  rw [withStatics_eq, withStatics_eq] at statics ⊢
  exact congrArg (fun statics => { router with statics }) statics

theorem lastDirectory_insert {front back : List (String × String)} {urlPrefix other : String}
    (different : other ≠ urlPrefix) (directory : String) :
    lastDirectory? (front ++ (urlPrefix, directory) :: back) other =
      lastDirectory? (front ++ back) other := by
  simp [lastDirectory?, Entries.value?, List.find?_append, Ne.symm different]

theorem ne_of_find_withStatics {urlPrefix : String} {shorter : String × String}
    (registered : shorter ∈ registrations) (different : shorter.1 ≠ urlPrefix)
    (begins : shorter.1.toList <+: urlPrefix.toList) {path : String} {mapping : String × String}
    (found : (router.withStatics registrations).statics.find? path = some mapping) :
    mapping.1 ≠ urlPrefix := by
  rintro rfl
  obtain ⟨-, starts, shortest⟩ := (find_withStatics_eq_some_iff path mapping).mp found
  have least := shortest shorter registered (begins.trans starts)
  rw [← String.length_toList, ← String.length_toList] at least
  exact different (String.toList_inj.mp (begins.eq_of_length_le least))

theorem shortest_insert {front back : List (String × String)} {urlPrefix : String}
    {shorter : String × String} (registered : shorter ∈ front ++ back)
    (begins : shorter.1.toList <+: urlPrefix.toList) (directory path : String) (length : Nat) :
    (∀ other ∈ front ++ (urlPrefix, directory) :: back,
        other.1.toList <+: path.toList → length ≤ other.1.length) ↔
      ∀ other ∈ front ++ back, other.1.toList <+: path.toList → length ≤ other.1.length := by
  constructor
  · intro shortest other member
    exact shortest other (List.perm_middle.mem_iff.mpr (List.mem_cons_of_mem _ member))
  · intro shortest other member into
    rcases List.mem_cons.mp (List.perm_middle.mem_iff.mp member) with rfl | old
    · have least := shortest shorter registered (begins.trans into)
      have longer := begins.length_le
      rw [String.length_toList, String.length_toList] at longer
      exact Nat.le_trans least longer
    · exact shortest other old into

theorem find_withStatics_insert {front back : List (String × String)} {urlPrefix : String}
    {shorter : String × String} (registered : shorter ∈ front ++ back)
    (different : shorter.1 ≠ urlPrefix) (begins : shorter.1.toList <+: urlPrefix.toList)
    (directory path : String) :
    (router.withStatics (front ++ (urlPrefix, directory) :: back)).statics.find? path =
      (router.withStatics (front ++ back)).statics.find? path := by
  ext mapping
  by_cases same : mapping.1 = urlPrefix
  · have registeredToo : shorter ∈ front ++ (urlPrefix, directory) :: back :=
      List.perm_middle.mem_iff.mpr (List.mem_cons_of_mem _ registered)
    exact iff_of_false
      (fun found => ne_of_find_withStatics registeredToo different begins found same)
      (fun found => ne_of_find_withStatics registered different begins found same)
  · simp only [find_withStatics_eq_some_iff, lastDirectory_insert same,
      shortest_insert registered begins]

theorem finalStep_eq_static_iff {router : Router} {request : Request} {target : StaticTarget} :
    router.finalStep request = .static target ↔
      ∃ mapping, router.statics.find? request.path = some mapping ∧
        StaticTarget.of mapping request.path = target := by
  cases found : router.statics.find? request.path with
  | some mapping => simp [finalStep_static found]
  | none =>
      unfold finalStep
      cases router.findRoute? request <;> simp [found]

/-- Which mapping decides for a path: the shortest registered prefix that begins it, with the
directory that was registered last for that prefix; none only if no registered prefix begins the
path. That mapping, and no other, answers the request by a file. So the order in which different
prefixes are registered has no say, and a mapping whose prefix another one begins is never used,
wherever it is registered. -/
theorem shortest_prefix_decides (router : Router) (registrations : List (String × String)) :
    (∀ path mapping, (router.withStatics registrations).statics.find? path = some mapping ↔
      lastDirectory? registrations mapping.1 = some mapping.2 ∧
        mapping.1.toList <+: path.toList ∧
        ∀ other ∈ registrations, other.1.toList <+: path.toList →
          mapping.1.length ≤ other.1.length) ∧
    (∀ path, (router.withStatics registrations).statics.find? path = none ↔
      ∀ registration ∈ registrations, ¬registration.1.toList <+: path.toList) ∧
    (∀ request target, (router.withStatics registrations).finalStep request = .static target ↔
      ∃ mapping, (router.withStatics registrations).statics.find? request.path = some mapping ∧
        StaticTarget.of mapping request.path = target) ∧
    (∀ others, (∀ urlPrefix,
        lastDirectory? others urlPrefix = lastDirectory? registrations urlPrefix) →
      router.withStatics others = router.withStatics registrations) ∧
    ∀ front back, registrations = front ++ back → ∀ urlPrefix,
      (∃ shorter ∈ registrations, shorter.1 ≠ urlPrefix ∧
        shorter.1.toList <+: urlPrefix.toList) → ∀ directory,
      let nested := router.withStatics (front ++ (urlPrefix, directory) :: back)
      (∀ path mapping, nested.statics.find? path = some mapping → mapping.1 ≠ urlPrefix) ∧
      (∀ files request response, nested.process files request response =
        (router.withStatics registrations).process files request response) ∧
      ∀ files input, nested.answer files input =
        (router.withStatics registrations).answer files input := by
  refine ⟨find_withStatics_eq_some_iff, find_withStatics_eq_none_iff,
    fun _ _ => finalStep_eq_static_iff, fun others => withStatics_congr, ?_⟩
  rintro front back rfl urlPrefix ⟨shorter, registered, different, begins⟩ directory nested
  have same (path : String) : nested.statics.find? path =
      (router.withStatics (front ++ back)).statics.find? path :=
    find_withStatics_insert registered different begins directory path
  have processed (files : FileTree) (request : Request) (response : Response) :
      nested.process files request response =
        (router.withStatics (front ++ back)).process files request response := by
    rw [process_of_find (same request.path) files response]
    simp only [nested, withStatics_eq]
  refine ⟨fun path mapping found => ?_, processed,
    fun files input => answer_of_process (processed files _)⟩
  rw [same] at found
  exact ne_of_find_withStatics registered different begins found

def nestedStatics : List (String × String) :=
  [("/files/old", "./archive"), ("/files", "./first"), ("/files", "./public")]

theorem shortest_prefix_decides_nested :
    (({} : Router).withStatics nestedStatics).statics.find? "/files/old/a.txt" =
      some ("/files", "./public") ∧
    ∀ files input, (({} : Router).withStatics nestedStatics).answer files input =
      (({} : Router).withStatics [("/files", "./first"), ("/files", "./public")]).answer
        files input := by
  constructor
  · refine ((shortest_prefix_decides {} nestedStatics).1 _ _).mpr ⟨by decide, by decide, ?_⟩
    decide
  · have unused := (shortest_prefix_decides {} nestedStatics.tail).2.2.2.2 [] nestedStatics.tail rfl
      "/files/old" ⟨("/files", "./first"), by decide, by decide, by decide⟩ "./archive"
    exact unused.2.2

end Router

end HttpServer
