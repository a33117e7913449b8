import Vitae.Proofs.Section.Lockstep

/-! Routers on pages that lack no registered section. There the page has no say in where a
navigation leads: every registered section is reached, every arrival finds its target, and
routers that are placed alike stay alike whatever else their pages hold. -/

namespace Vitae.Router

/-- No registered section lacks its element, and none but a registered one is awaited. -/
structure Whole (router : Router) : Prop where
  present : ∀ id ∈ router.catalog.sections, id ∈ router.page.elements
  expected : ∀ arrival, router.pending = some arrival → arrival.target ∈ router.catalog.sections

namespace Whole
variable {router : Router}

theorem there (whole : Whole router) {id : String} (registered : id ∈ router.catalog.sections) :
    router.page.hasSection id = true :=
  router.page.hasSection_iff.mpr (whole.present id registered)

theorem navigate (whole : Whole router) (id : String) (source : Option Source) :
    router.navigate id source =
      if router.catalog.contains id then (router.depart id source, .applied) else (router, .unknownTarget) := by
  unfold Router.navigate
  split
  next known => rw [if_pos (whole.there (router.catalog.contains_iff.mp known))]
  next => rfl

/-- A router at a registered section leaves for it when it starts. -/
theorem start (whole : Whole router) (here : router.place.active ∈ router.catalog.sections) :
    router.start = (router.depart router.place.active none, .applied) :=
  (whole.navigate router.place.active none).trans (if_pos (router.catalog.contains_iff.mpr here))

theorem depart (whole : Whole router) {id : String} (registered : id ∈ router.catalog.sections)
    (source : Option Source) : Whole (router.depart id source) := by
  refine ⟨fun other member => ?_, fun arrival pending => ?_⟩
  · rw [elements_depart]
    exact whole.present other member
  · cases pending
    exact registered

/-- An arrival that finds its target leaves the place alone. -/
theorem place_arrive (whole : Whole router) {arrival : Arrival} (awaited : router.pending = some arrival) :
    (router.arrive arrival).place = router.place := by
  by_cases current : arrival.generation = router.generation
  · rw [Router.place_arrive _ current, if_pos (whole.there (whole.expected arrival awaited))]
  · rw [arrive_of_stale _ current]
    rfl

end Whole

theorem Effect.catalog_eq {router later : Router} {action : Action} {reply : Reply}
    (effect : Effect router action later reply) : later.catalog = router.catalog := by
  cases effect with
  | arrived => exact catalog_arrive _
  | _ => rfl

theorem catalog_play (router : Router) (actions : List Action) : (router.play actions).catalog = router.catalog := by
  have step : ∀ {now action later reply}, now.catalog = router.catalog → Effect now action later reply →
      later.catalog = router.catalog := fun same effect => effect.catalog_eq.trans same
  exact play_invariant step rfl actions

/-- Only what is done to a page directly puts elements up or takes them down. -/
theorem Effect.elements_eq {router later : Router} {action : Action} {reply : Reply}
    (effect : Effect router action later reply) (routed : action.isRouted = true) :
    later.page.elements = router.page.elements := by
  cases effect with
  | kept | waited | lapsed => rfl
  | departed => exact elements_depart _ _ _
  | @walked _ id => exact elements_depart _ id none
  | arrived => exact elements_arrive _
  | handled | closed => cases routed

theorem Effect.whole {router later : Router} {action : Action} {reply : Reply} (whole : Whole router)
    (effect : Effect router action later reply) (routed : action.isRouted = true) : Whole later := by
  refine ⟨fun id member => ?_, fun arrival pending => ?_⟩
  · rw [effect.catalog_eq] at member
    rw [effect.elements_eq routed]
    exact whole.present id member
  · rw [effect.catalog_eq]
    cases effect with
    | kept => exact whole.expected arrival pending
    | departed registered | walked registered =>
      cases pending
      exact registered
    | @waited _ before _ awaited =>
      cases pending
      exact whole.expected before awaited
    | arrived => simp at pending
    | lapsed => cases pending
    | handled | closed => cases routed

/-- Without an applied navigation a router on a whole page stays where it is. -/
theorem Effect.place_of_quiet {router later : Router} {action : Action} {reply : Reply} (whole : Whole router)
    (effect : Effect router action later reply) (routed : action.isRouted = true)
    (ignored : reply ≠ .outcome .applied) : later.place = router.place := by
  rcases effect.quiet routed ignored with rfl | ⟨arrival, awaited, ⟨wait, rfl⟩ | rfl⟩
  · rfl
  · rfl
  · exact whole.place_arrive awaited

/-- Routers at one place of one catalog, on whole pages. -/
structure Alike (first second : Router) : Prop where
  catalog : first.catalog = second.catalog
  place : first.place = second.place
  here : Whole first
  there : Whole second

/-- On whole pages only the catalog decides which sections are there. -/
theorem Alike.lockstep : Lockstep Alike where
  catalog alike := alike.catalog
  place alike := alike.place
  there {_ _} alike {_} registered := by
    rw [alike.here.there (alike.catalog ▸ registered), alike.there.there registered]
  depart {first second} alike {id} registered _ source := by
    have placed : first.placeOf id = second.placeOf id := by simp only [placeOf, alike.catalog, alike.place]
    exact ⟨alike.catalog, placed, alike.here.depart (alike.catalog ▸ registered) source,
      alike.there.depart registered source⟩
  swiped alike _ :=
    ⟨alike.catalog, alike.place, ⟨alike.here.present, alike.here.expected⟩, alike.there.present, alike.there.expected⟩

end Vitae.Router
