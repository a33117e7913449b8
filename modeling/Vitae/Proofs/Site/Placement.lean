import Vitae.Proofs.Section.Coherence
import Vitae.Site.Navigation

/-! Where a request puts its router. The section and the position that come with it make a
coherent place whenever they are accepted, so what holds of opened routers holds of these. -/

namespace Vitae
open Router

namespace Site

variable (site : Site)

/-- The router at a section of the catalog, seeded with a position that counts only when the
section has none of its own. -/
def placed (current : String) (index : Option Nat) : Router :=
  { placedAt site.catalog (Page.ofCatalog site.catalog) current with
    delay := site.settings.transitionDelay
    place := { index := (site.catalog.position? current).getD (index.getD 0), active := current } }

variable {site} {current : String} {index : Option Nat}

/-- A registered section with no position, or one inside the order, is accepted. -/
theorem routerAt_eq_placed (registered : current ∈ site.catalog.sections)
    (inside : ∀ position, index = some position → position < site.catalog.order.length) :
    site.routerAt current index = .ok (site.placed current index) := by
  have known := site.catalog.contains_iff.mpr registered
  cases index with
  | none => simp only [routerAt, startingAt, known, if_true]; rfl
  | some position =>
    have fits : ¬ site.catalog.order.length ≤ position := Nat.not_le.mpr (inside position rfl)
    cases found : site.catalog.position? current with
    | none => simp [routerAt, startingAt, known, withGestureIndex, withDelay, placedAt, placed, fits, found]
    | some own => simp [routerAt, startingAt, known, withGestureIndex, withDelay, placedAt, placed, fits, found]

theorem routerAt_opened {router : Router} (accepted : site.routerAt current index = .ok router) :
    Opened site.catalog (Page.ofCatalog site.catalog) router := by
  unfold routerAt at accepted
  split at accepted
  · cases accepted
  next start found =>
    have opened := (Opened.startingAt found).withDelay site.settings.transitionDelay
    cases index with
    | none =>
      cases accepted
      exact opened
    | some position =>
      simp only at accepted
      split at accepted
      next seeded seated =>
        cases accepted
        exact opened.withGestureIndex seated
      all_goals cases accepted

/-- Sent back by a reader, a coherent place is where the next router is put. -/
theorem place_placed {place : Place} (coherent : place.Coherent site.catalog) :
    (site.placed place.active (some place.index)).place = place := by
  simp only [placed, Option.getD_some, coherent.looked_up]

end Site

/-- Whatever is asked of a router and whatever is done to its page, its place stays coherent, and
so does the place that a pending arrival would go back to; a router put up for a request starts
out coherent. No list in memory has more than 2 ^ 63 elements, so from any of these places both
steps stay within the words and walking on never names an unknown section. -/
theorem place_coherent_throughout {catalog : Catalog} (valid : catalog.Valid) {page : Page} {router : Router}
    (opened : Opened catalog page router) (actions : List Action) :
    (router.play actions).place.Coherent catalog ∧
    (∀ arrival, (router.play actions).pending = some arrival → arrival.before.Coherent catalog) ∧
    (catalog.order.length ≤ 2 ^ 63 → ∀ direction,
      (∃ next, catalog.step? (router.play actions).place.index direction = some next) ∧
      ((router.play actions).walk direction).2 ≠ .unknownTarget) ∧
    ∀ settings current index asked, Site.routerAt { settings, catalog } current index = .ok asked →
      asked.place.Coherent catalog ∧ (catalog.order.length ≤ 2 ^ 63 → ∀ direction,
        ∃ next, catalog.step? asked.place.index direction = some next) := by
  have oriented := opened.play_oriented valid actions
  refine ⟨oriented.here, oriented.back, oriented.walk_registered, ?_⟩
  intro settings current index asked accepted
  have put := (Site.routerAt_opened accepted).oriented valid
  exact ⟨put.here, fun fits direction => (put.walk_registered fits direction).1⟩

/-- A page without elements, and then one on which a section is shown by hand and taken down
while its arrival is pending. -/
theorem place_coherent_after_going_back :
    let router := (placedAt .sample Page.empty "changelog").withDelay 7
    let actions : List Action :=
      [.start, .page (.addSection "skills"), .page (.activate "skills"), .navigate "skills" none,
        .page (.removeSection "skills"), .settle, .walk .previous]
    Catalog.sample.Valid ∧ Opened .sample Page.empty router ∧ (router.play actions).place = { index := 0, active := "changelog" } ∧
      (router.play actions).place.Coherent .sample ∧
      (∀ direction, (∃ next, Catalog.sample.step? (router.play actions).place.index direction = some next) ∧
        ((router.play actions).walk direction).2 ≠ .unknownTarget) := by
  intro router actions
  have valid : Catalog.sample.Valid := @Catalog.valid_of_build _ ["overview", "skills"] ["changelog"] none rfl
  have opened : Opened .sample Page.empty router := .withDelay (@Opened.startingAt _ _ "changelog" _ rfl) 7
  obtain ⟨coherent, _, stepping, _⟩ := place_coherent_throughout valid opened actions
  exact ⟨valid, opened, by decide +kernel, coherent, stepping (by decide)⟩

end Vitae
