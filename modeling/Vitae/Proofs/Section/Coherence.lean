import Vitae.Proofs.Section.Visit

/-! The place of a router stays coherent whatever is asked of it and whatever happens to its
page. The place that a pending arrival would go back to is kept coherent as well, since going
back makes it the place again, however much later. -/

namespace Vitae

/-- The section is registered and the position is one of the order's; an ordered section is
at its own position, while an informational one may be at any. -/
structure Place.Coherent (catalog : Catalog) (place : Place) : Prop where
  registered : place.active ∈ catalog.sections
  inside : place.index < catalog.order.length
  seated : place.active ∈ catalog.order → catalog.position? place.active = some place.index

variable {catalog : Catalog}

/-- A registered section makes a coherent place beside any position of the order. -/
theorem Place.coherent_of_registered {id : String} {fallback : Nat} (registered : id ∈ catalog.sections)
    (inside : fallback < catalog.order.length) :
    Place.Coherent catalog { index := (catalog.position? id).getD fallback, active := id } := by
  cases found : catalog.position? id with
  | none =>
    have informational := catalog.position?_eq_none_iff.mp found
    exact ⟨registered, inside, fun ordered => absurd ordered informational⟩
  | some index => exact ⟨registered, catalog.position?_lt found, fun _ => found⟩

theorem Place.Coherent.reseated {place : Place} {index : Nat} (coherent : place.Coherent catalog)
    (inside : index < catalog.order.length) :
    Place.Coherent catalog { place with index := if place.active ∈ catalog.order then place.index else index } := by
  by_cases ordered : place.active ∈ catalog.order
  · simpa [ordered] using coherent
  · exact ⟨coherent.registered, by simpa [ordered] using inside, fun claimed => absurd claimed ordered⟩

/-- Looking the section of a coherent place up again gives the place back. -/
theorem Place.Coherent.looked_up {place : Place} (coherent : place.Coherent catalog) :
    (catalog.position? place.active).getD place.index = place.index := by
  by_cases ordered : place.active ∈ catalog.order
  · rw [coherent.seated ordered]
    rfl
  · rw [catalog.position?_eq_none_iff.mpr ordered]
    rfl

namespace Router

/-- A router that knows where it is, and where it would go back to. -/
structure Oriented (catalog : Catalog) (router : Router) : Prop where
  same : router.catalog = catalog
  here : router.place.Coherent catalog
  back : ∀ arrival, router.pending = some arrival → arrival.before.Coherent catalog

theorem Opened.oriented {page : Page} {router : Router} (opened : Opened catalog page router)
    (valid : catalog.Valid) : Oriented catalog router := by
  have start : 0 < catalog.order.length := List.length_pos_iff.mpr valid.ordered
  refine ⟨opened.fresh.1, ?_, fun arrival awaited => absurd awaited (opened.not_awaited arrival)⟩
  induction opened with
  | atHome => exact Place.coherent_of_registered valid.home_registered start
  | startingAt found =>
    obtain ⟨registered, rfl⟩ := startingAt_eq_ok found
    exact Place.coherent_of_registered registered start
  | withGestureIndex opened accepted ih =>
    obtain ⟨inside, rfl⟩ := withGestureIndex_eq_ok accepted
    rw [opened.fresh.1] at inside ⊢
    exact ih.reseated inside
  | withDelay _ _ ih => exact ih

/-- The new place of a departure is coherent, and the place it may go back to is the old one. -/
private theorem Oriented.depart {router : Router} (oriented : Oriented catalog router) {id : String}
    (registered : id ∈ router.catalog.sections) (source : Option Source) :
    Oriented catalog (router.depart id source) := by
  obtain ⟨rfl, here, _⟩ := oriented
  refine ⟨rfl, Place.coherent_of_registered registered here.inside, fun arrival pending => ?_⟩
  cases pending
  exact here

theorem Effect.oriented {router later : Router} {action : Action} {reply : Reply}
    (oriented : Oriented catalog router) (effect : Effect router action later reply) :
    Oriented catalog later := by
  cases effect with
  | kept => exact oriented
  | handled => exact ⟨oriented.same, oriented.here, oriented.back⟩
  | departed registered => exact oriented.depart registered _
  | walked registered =>
    obtain ⟨same, here, back⟩ := oriented.depart registered none
    exact ⟨same, here, back⟩
  | @waited _ arrival _ awaited _ =>
    refine ⟨oriented.same, oriented.here, fun _ pending => ?_⟩
    cases pending
    exact oriented.back arrival awaited
  | arrived awaited current =>
    refine ⟨(catalog_arrive _).trans oriented.same, ?_, fun _ pending => by simp at pending⟩
    rw [place_arrive _ current]
    split
    · exact oriented.here
    · exact oriented.back _ awaited
  | lapsed | closed => exact ⟨oriented.same, oriented.here, fun _ pending => (nomatch pending)⟩

theorem Opened.play_oriented {page : Page} {router : Router} (opened : Opened catalog page router)
    (valid : catalog.Valid) (actions : List Action) : Oriented catalog (router.play actions) :=
  play_invariant Effect.oriented (opened.oriented valid) actions

/-- Walking on from a coherent place always names a registered section. -/
theorem Oriented.walk_registered {router : Router} (oriented : Oriented catalog router)
    (fits : catalog.order.length ≤ 2 ^ 63) (direction : Direction) :
    (∃ next, catalog.step? router.place.index direction = some next) ∧
    (router.walk direction).2 ≠ .unknownTarget := by
  obtain ⟨rfl, here, _⟩ := oriented
  obtain ⟨next, stepped, inside, _⟩ := router.catalog.step?_inside fits here.inside direction
  obtain ⟨target, ordered, found⟩ := router.catalog.sectionAt?_of_lt inside
  refine ⟨⟨next, stepped⟩, ?_⟩
  have known := router.catalog.contains_iff.mpr (router.catalog.mem_sections_of_mem_order ordered)
  cases there : router.page.hasSection target <;> simp [walk, stepped, found, navigate, known, there]

end Router

end Vitae
