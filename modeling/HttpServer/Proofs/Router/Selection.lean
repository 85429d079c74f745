import HttpServer.Router
import Mathlib.Order.Bounds.Basic

/-!
Which route serves a request. It is the first of those that may, in order of registration, and
there is one exactly if some route has the method of the request and fits its path: an `OPTIONS`
route that stands in for a method never answers what nobody else would.
-/

namespace HttpServer

theorem RoutePattern.eq_of_text {one other : RoutePattern} (same : one.text = other.text) :
    one = other := by
  cases one
  cases other
  exact congrArg RoutePattern.mk same

namespace Router

def selected? (router : Router) (request : Request) : Option Nat :=
  router.routes.findIdx? fun route => serves router.routes route request

def MayServe (router : Router) (request : Request) (place : Nat) : Prop :=
  ∃ route, router.routes[place]? = some route ∧ route.pattern.fits request.path = true ∧
    (route.method = request.method ∨
      route.method = .options ∧ ∃ other ≠ place, ∃ entry, router.routes[other]? = some entry ∧
        entry.method = request.method ∧ entry.pattern.text = route.pattern.text)

def StandsIn (router : Router) (request : Request) (pattern : String) (place : Nat) : Prop :=
  ∃ route, router.routes[place]? = some route ∧ route.method = .options ∧
    route.pattern.text = pattern ∧ route.pattern.fits request.path = true

variable {router : Router} {request : Request}

/-! ### The routes that may serve -/

theorem mayServe_iff {place : Nat} {route : Route} (there : router.routes[place]? = some route) :
    router.MayServe request place ↔ serves router.routes route request = true := by
  simp only [MayServe, there, Option.some.injEq, exists_eq_left', serves, Bool.and_eq_true,
    Bool.or_eq_true, decide_eq_true_eq, List.any_eq_true]
  refine and_congr_right fun _ => ?_
  constructor
  · rintro (same | ⟨options, other, -, entry, found, same, text⟩)
    · exact .inl same
    · exact .inr ⟨options, entry, List.mem_of_getElem? found, same, RoutePattern.eq_of_text text⟩
  · rintro (same | ⟨options, entry, member, same, text⟩)
    · exact .inl same
    · obtain ⟨other, found⟩ := List.mem_iff_getElem?.mp member
      by_cases here : other = place
      · subst here
        obtain rfl := Option.some.inj (there.symm.trans found)
        exact .inl same
      · exact .inr ⟨options, other, here, entry, found, same, congrArg RoutePattern.text text⟩

theorem mayServe_of_method {place : Nat} {route : Route}
    (there : router.routes[place]? = some route) (same : route.method = request.method)
    (fitting : route.pattern.fits request.path = true) : router.MayServe request place :=
  ⟨route, there, fitting, .inl same⟩

theorem MayServe.exists_method {place : Nat} (may : router.MayServe request place) :
    ∃ route ∈ router.routes, route.method = request.method ∧
      route.pattern.fits request.path = true := by
  obtain ⟨route, there, fitting, same | ⟨-, other, -, entry, found, same, text⟩⟩ := may
  · exact ⟨route, List.mem_of_getElem? there, same, fitting⟩
  · refine ⟨entry, List.mem_of_getElem? found, same, ?_⟩
    rwa [RoutePattern.eq_of_text text]

theorem selected_eq_some_iff (place : Nat) :
    router.selected? request = some place ↔ IsLeast {p | router.MayServe request p} place := by
  rw [selected?, List.findIdx?_eq_some_iff_getElem]
  constructor
  · rintro ⟨bound, served, first⟩
    refine ⟨(mayServe_iff (List.getElem?_eq_getElem bound)).mpr served, fun other may => ?_⟩
    refine Nat.le_of_not_lt fun before => first other before ?_
    exact (mayServe_iff (List.getElem?_eq_getElem (Nat.lt_trans before bound))).mp may
  · rintro ⟨may, least⟩
    have ⟨_, there, _⟩ := may
    obtain ⟨bound, -⟩ := List.getElem?_eq_some_iff.mp there
    refine ⟨bound, (mayServe_iff (List.getElem?_eq_getElem bound)).mp may, ?_⟩
    intro other before served
    have mayToo := (mayServe_iff (List.getElem?_eq_getElem (Nat.lt_trans before bound))).mpr served
    exact Nat.not_lt.mpr (least mayToo) before

theorem findRoute_isSome_iff :
    (router.findRoute? request).isSome = true ↔
      ∃ route ∈ router.routes, route.method = request.method ∧
        route.pattern.fits request.path = true := by
  rw [findRoute?, List.find?_isSome]
  constructor
  · rintro ⟨route, member, served⟩
    obtain ⟨place, there⟩ := List.mem_iff_getElem?.mp member
    exact ((mayServe_iff there).mpr served).exists_method
  · rintro ⟨route, member, same, fitting⟩
    obtain ⟨place, there⟩ := List.mem_iff_getElem?.mp member
    exact ⟨route, member, (mayServe_iff there).mp (mayServe_of_method there same fitting)⟩

theorem findRoute_eq (router : Router) (request : Request) :
    router.findRoute? request =
      (router.selected? request).bind fun place => router.routes[place]? :=
  List.find?_eq_bind_findIdx?_getElem?

theorem lt_length_of_selected {place : Nat} (found : router.selected? request = some place) :
    place < router.routes.length := by
  obtain ⟨bound, -⟩ := List.findIdx?_eq_some_iff_getElem.mp found
  exact bound

theorem lt_of_selected_options {place other : Nat} {route entry : Route}
    (found : router.selected? request = some place) (there : router.routes[place]? = some route)
    (options : route.method = .options) (different : request.method ≠ .options)
    (listed : router.routes[other]? = some entry) (same : entry.method = request.method)
    (text : entry.pattern.text = route.pattern.text) : place < other := by
  obtain ⟨⟨served, here, fitting, -⟩, least⟩ := (selected_eq_some_iff place).mp found
  obtain rfl := Option.some.inj (here.symm.trans there)
  rw [← RoutePattern.eq_of_text text] at fitting
  refine Nat.lt_of_le_of_ne (least (mayServe_of_method listed same fitting)) ?_
  rintro rfl
  obtain rfl := Option.some.inj (there.symm.trans listed)
  exact different (same.symm.trans options)

/-! ### Registering one more -/

theorem getElem?_addRoute {place : Nat} (bound : place < router.routes.length) (method : Method)
    (pattern : String) (handler : Handler) :
    (router.addRoute method pattern handler).routes[place]? = router.routes[place]? :=
  List.getElem?_append_left bound

theorem mayServe_addRoute {place : Nat} (bound : place < router.routes.length) (method : Method)
    (pattern : String) (handler : Handler) :
    (router.addRoute method pattern handler).MayServe request place ↔
      router.MayServe request place ∨
        method = request.method ∧ router.StandsIn request pattern place := by
  have there := List.getElem?_eq_getElem bound
  have still := (getElem?_addRoute bound method pattern handler).trans there
  rw [mayServe_iff still, mayServe_iff there]
  simp only [StandsIn, there, Option.some.injEq, exists_eq_left', serves, addRoute,
    List.any_append, List.any_cons, List.any_nil, Bool.or_false, Bool.and_eq_true,
    Bool.or_eq_true, decide_eq_true_eq]
  generalize router.routes[place] = route
  have text : (⟨pattern⟩ : RoutePattern) = route.pattern ↔ route.pattern.text = pattern :=
    ⟨fun same => (congrArg RoutePattern.text same).symm,
      fun same => RoutePattern.eq_of_text same.symm⟩
  rw [text]
  constructor
  · rintro ⟨fitting, same | ⟨options, older | ⟨same, text⟩⟩⟩
    · exact .inl ⟨fitting, .inl same⟩
    · exact .inl ⟨fitting, .inr ⟨options, older⟩⟩
    · exact .inr ⟨same, options, text, fitting⟩
  · rintro (⟨fitting, same | ⟨options, older⟩⟩ | ⟨same, options, text, fitting⟩)
    · exact ⟨fitting, .inl same⟩
    · exact ⟨fitting, .inr ⟨options, .inl older⟩⟩
    · exact ⟨fitting, .inr ⟨options, .inr ⟨same, text⟩⟩⟩

theorem selected_addRoute_of_none {place : Nat} (found : router.selected? request = some place)
    {method : Method} {pattern : String} (handler : Handler)
    (nobody : method = request.method →
      ∀ earlier < place, ¬router.StandsIn request pattern earlier) :
    (router.addRoute method pattern handler).selected? request = some place := by
  have bound := lt_length_of_selected found
  obtain ⟨may, least⟩ := (selected_eq_some_iff place).mp found
  refine (selected_eq_some_iff place).mpr ⟨(mayServe_addRoute bound ..).mpr (.inl may), ?_⟩
  refine fun earlier mayToo => Nat.le_of_not_lt fun before => ?_
  rcases (mayServe_addRoute (Nat.lt_trans before bound) ..).mp mayToo with old | ⟨same, standsIn⟩
  · exact Nat.not_lt.mpr (least old) before
  · exact nobody same earlier before standsIn

theorem selected_addRoute_of_least {place first : Nat}
    (found : router.selected? request = some place) {pattern : String} (handler : Handler)
    (least : IsLeast {earlier | earlier < place ∧ router.StandsIn request pattern earlier} first) :
    (router.addRoute request.method pattern handler).selected? request = some first := by
  have bound := lt_length_of_selected found
  obtain ⟨before, standsIn⟩ := least.1
  have inside {other : Nat} (below : other ≤ first) : other < router.routes.length := by omega
  have may := (mayServe_addRoute (inside (Nat.le_refl _)) request.method pattern handler).mpr
    (.inr ⟨rfl, standsIn⟩)
  refine (selected_eq_some_iff first).mpr ⟨may, fun earlier mayToo => ?_⟩
  refine Nat.le_of_not_lt fun sooner => ?_
  rcases (mayServe_addRoute (inside (Nat.le_of_lt sooner)) ..).mp mayToo with old | ⟨-, standsIn⟩
  · have notBefore := ((selected_eq_some_iff place).mp found).2 old
    omega
  · have notSooner := least.2 ⟨Nat.lt_trans sooner before, standsIn⟩
    omega

/-- The route that serves a request. There is one exactly if some route has the method of the
request and fits its path. It is the first that may serve it, and if it is an `OPTIONS` route for
another method, it stands before every route of that method with its pattern text. A route that is
registered later changes this only if it has the method of the request and its pattern text has an
`OPTIONS` route that fits and stands before the one that served so far: then the first such route
serves. -/
theorem selects_first (router : Router) (request : Request) :
    router.findRoute? request =
        (router.selected? request).bind (fun place => router.routes[place]?) ∧
      ((router.findRoute? request).isSome = true ↔
        ∃ route ∈ router.routes, route.method = request.method ∧
          route.pattern.fits request.path = true) ∧
      ∀ place, (router.selected? request = some place ↔
          IsLeast {p | router.MayServe request p} place) ∧
        (router.selected? request = some place →
          (∀ route, router.routes[place]? = some route → route.method = .options →
            request.method ≠ .options → ∀ other entry, router.routes[other]? = some entry →
              entry.method = request.method → entry.pattern.text = route.pattern.text →
              place < other) ∧
          ∀ method pattern handler,
            let more := router.addRoute method pattern handler
            ((method = request.method →
                ∀ earlier < place, ¬router.StandsIn request pattern earlier) →
              more.selected? request = some place ∧
                more.findRoute? request = router.findRoute? request) ∧
            ∀ first, method = request.method →
              IsLeast {p | p < place ∧ router.StandsIn request pattern p} first →
              more.selected? request = some first ∧
                more.findRoute? request = router.routes[first]?) := by
  refine ⟨findRoute_eq router request, findRoute_isSome_iff,
    fun place => ⟨selected_eq_some_iff place, fun found => ?_⟩⟩
  have bound := lt_length_of_selected found
  refine ⟨?_, fun method pattern handler => ⟨fun nobody => ?_, ?_⟩⟩
  · intro route there options different other entry listed same text
    exact lt_of_selected_options found there options different listed same text
  · have kept := selected_addRoute_of_none found handler nobody
    refine ⟨kept, ?_⟩
    rw [findRoute_eq, findRoute_eq, kept, found]
    exact getElem?_addRoute bound method pattern handler
  · rintro first rfl least
    have taken := selected_addRoute_of_least found handler least
    refine ⟨taken, ?_⟩
    rw [findRoute_eq, taken]
    exact getElem?_addRoute (Nat.lt_trans least.1.1 bound) request.method pattern handler

def guardedRouter : Router :=
  ((({} : Router).addRoute .get "/items" Handler.defaultNotFound).addRoute .options "/items/*"
    Handler.defaultNotFound).addRoute .get "/*" Handler.defaultNotFound

def itemRequest : Request :=
  { method := .get, path := "/items/7" }

theorem selects_first_moved :
    guardedRouter.selected? itemRequest = some 2 ∧
    (guardedRouter.addRoute .get "/items/*" Handler.defaultNotFound).selected? itemRequest =
      some 1 := by
  have found : guardedRouter.selected? itemRequest = some 2 := by decide
  refine ⟨found, ?_⟩
  have moves := ((selects_first guardedRouter itemRequest).2.2 2).2 found
  refine ((moves.2 .get "/items/*" Handler.defaultNotFound).2 1 rfl ?_).1
  refine ⟨⟨by decide, _, rfl, rfl, rfl, by decide⟩, ?_⟩
  rintro (_ | place) ⟨-, route, there, options, -⟩
  · cases there
    cases options
  · exact Nat.succ_le_succ (Nat.zero_le place)

end Router

end HttpServer
