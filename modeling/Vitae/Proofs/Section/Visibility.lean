import Vitae.Proofs.Section.Visit

/-! What is visible mirrors where the router is placed. The page never decides this, and the
router never reads it back, so the law rests on what both remember together: nothing is shown
while an arrival is pending, and the pending arrival is for the section placed at. -/

namespace Vitae
open Std

/-- The actions that show a section without asking the router. -/
def Action.shows : Action → Bool
  | .page command => command.shows
  | _ => false

namespace Router

structure Mirrors (router : Router) : Prop where
  only : ∀ id ∈ router.page.shown, id = router.place.active
  hidden : ∀ arrival, router.pending = some arrival → router.page.shown = ∅
  awaited : ∀ arrival, router.pending = some arrival → arrival.target = router.place.active

theorem Opened.mirrors {catalog : Catalog} {page : Page} {router : Router}
    (opened : Opened catalog page router) (hidden : page.active = []) : Mirrors router := by
  refine ⟨fun id member => ?_, fun arrival awaited => absurd awaited (opened.not_awaited arrival),
    fun arrival awaited => absurd awaited (opened.not_awaited arrival)⟩
  rw [opened.fresh.2.1, page.active_eq_nil_iff.mp hidden] at member
  exact absurd member ExtTreeSet.not_mem_empty

private theorem Mirrors.arrive {router : Router} {arrival : Arrival} (mirrors : Mirrors router)
    (awaited : router.pending = some arrival) (current : arrival.generation = router.generation) :
    Mirrors (router.arrive arrival) := by
  refine ⟨?_, ?_, ?_⟩
  · intro id member
    rw [mem_shown_arrive _ current, mirrors.hidden arrival awaited] at member
    rcases member with before | ⟨_, same⟩
    · exact absurd before ExtTreeSet.not_mem_empty
    · rw [same, place_arrive _ current]
      split
      · exact mirrors.awaited arrival awaited
      · rfl
  all_goals
    intro later pending
    rw [pending_arrive] at pending
    cases pending

/-- Departing hides everything before the place changes, and arriving shows nothing but the
place it leaves behind, also when it goes back. -/
theorem Effect.mirrors {router later : Router} {action : Action} {reply : Reply}
    (mirrors : Mirrors router) (hidden : action.shows = false)
    (effect : Effect router action later reply) : Mirrors later := by
  cases effect with
  | kept => exact mirrors
  | departed | walked =>
    refine ⟨?_, fun _ _ => by simp, fun arrival pending => ?_⟩
    · intro id member
      simp only [shown_depart, shown_swiped] at member
      exact absurd member ExtTreeSet.not_mem_empty
    · cases pending
      rfl
  | @waited _ arrival _ awaited _ =>
    refine ⟨mirrors.only, fun _ _ => mirrors.hidden arrival awaited, fun _ pending => ?_⟩
    cases pending
    exact mirrors.awaited arrival awaited
  | arrived awaited current => exact mirrors.arrive awaited current
  | @handled command =>
    refine ⟨fun id member => mirrors.only id (router.page.shown_handle_subset hidden member), ?_, mirrors.awaited⟩
    intro arrival pending
    apply ExtTreeSet.ext_mem
    intro id
    refine ⟨fun member => ?_, fun member => absurd member ExtTreeSet.not_mem_empty⟩
    rw [← mirrors.hidden arrival pending]
    exact router.page.shown_handle_subset hidden member
  | lapsed | closed => exact ⟨mirrors.only, fun _ pending => (nomatch pending), fun _ pending => (nomatch pending)⟩

theorem Opened.play_mirrors {catalog : Catalog} {page : Page} {router : Router}
    (opened : Opened catalog page router) (hidden : page.active = []) (actions : List Action)
    (routed : ∀ action ∈ actions, action.shows = false) : Mirrors (router.play actions) :=
  play_preserves Effect.mirrors (opened.mirrors hidden) actions routed

/-- At every moment of a visit that shows nothing behind the router's back, the page shows
either nothing or the section that the router is placed at, and nothing while an arrival is
pending. Going back from a vanished target is no exception. -/
theorem visible_mirrors_place {catalog : Catalog} {page : Page} {router : Router}
    (opened : Opened catalog page router) (hidden : page.active = []) (actions : List Action)
    (routed : ∀ action ∈ actions, action.shows = false) :
    ((router.play actions).page.active = [] ∨
      (router.play actions).page.active = [(router.play actions).place.active]) ∧
    ((router.play actions).pending.isSome → (router.play actions).page.active = []) := by
  have mirrors := opened.play_mirrors hidden actions routed
  refine ⟨Page.active_of_only _ mirrors.only, fun pending => ?_⟩
  obtain ⟨arrival, awaited⟩ := Option.isSome_iff_exists.mp pending
  exact (Page.active_eq_nil_iff _).mpr (mirrors.hidden arrival awaited)

/-- A visit from an informational section that leaves twice without waiting, loses the second
target and goes back to the first. -/
theorem visible_mirrors_place_gone_back :
    let router := (placedAt .sample (Page.ofCatalog .sample) "changelog").withDelay 7
    let actions : List Action :=
      [.start, .navigate "overview" (some .dropdown), .walk .next, .page (.removeSection "skills"), .advance 7]
    Opened .sample (Page.ofCatalog .sample) router ∧ (Page.ofCatalog .sample).active = [] ∧
      (∀ action ∈ actions, action.shows = false) ∧ (router.play actions).page.active ≠ [] ∧
      ((router.play actions).page.active = [] ∨
        (router.play actions).page.active = [(router.play actions).place.active]) ∧
      ((router.play actions).pending.isSome → (router.play actions).page.active = []) := by
  intro router actions
  have opened : Opened .sample (Page.ofCatalog .sample) router :=
    .withDelay (@Opened.startingAt _ _ "changelog" _ rfl) 7
  have hidden : (Page.ofCatalog .sample).active = [] :=
    (Page.active_eq_nil_iff _).mpr (Page.shown_ofCatalog _)
  have routed : ∀ action ∈ actions, action.shows = false := by decide
  exact ⟨opened, hidden, routed, by decide +kernel, visible_mirrors_place opened hidden actions routed⟩

end Router

end Vitae
