import Vitae.Proofs.Section.Presence
import Vitae.Proofs.Section.Vanishing

/-! Going back after the target of a navigation has vanished. What the navigation had already
changed is undone: the place and every highlight are those from before it. Only the log, which
heard of both halves, and the scroll tell that it was tried. -/

namespace Vitae.Router
open Std

theorem linked_mark {page : Page} (linked : page.Linked) (id : String) (source : Option Source) :
    (mark page id source).Linked := by
  have bare : page.clearHighlights.Linked := .of_bare rfl
  unfold mark
  split
  · exact linked
  · exact bare.highlight _
  · split
    · exact bare.highlight _
    · exact bare

theorem linked_depart {router : Router} (linked : router.page.Linked) (id : String) (source : Option Source) :
    (router.depart id source).page.Linked := by
  have hidden : router.page.deactivateAll.Linked := linked.of_unchanged rfl rfl
  exact linked_mark hidden id source

theorem Effect.linked {router later : Router} {action : Action} {reply : Reply} (linked : router.page.Linked)
    (effect : Effect router action later reply) : later.page.Linked := by
  cases effect with
  | kept | waited | lapsed | closed => exact linked
  | departed => exact linked_depart linked _ _
  | @walked _ id => exact (linked_depart linked id none).of_unchanged rfl rfl
  | @arrived _ arrival _ current =>
    have scrolled : router.page.scrollToTop.Linked := linked.of_unchanged rfl rfl
    cases there : router.page.hasSection arrival.target with
    | true =>
      rw [router.arrive_of_there current there]
      exact scrolled.handle (.activate _)
    | false =>
      rw [router.arrive_of_gone current there]
      exact .highlightOnly _
  | handled => exact linked.handle _

theorem Opened.play_linked {catalog : Catalog} {page : Page} {router : Router}
    (opened : Opened catalog page router) (linked : page.Linked) (actions : List Action) :
    (router.play actions).page.Linked := by
  have start : router.page.Linked := by rwa [opened.fresh.2.1]
  exact play_invariant Effect.linked start actions

/-- Where a router goes back to, as far as its page is concerned: the section departed from is
shown again, and the highlights are those that were there. -/
theorem page_restore {router : Router} {step : Step} {before : Page}
    (there : router.page.hasSection step.before.active = true) (linked : before.Linked)
    (highlights : step.highlights = before.highlights) (links : router.page.links = before.links) :
    (router.restore step).page =
      { router.page with
        shown := router.page.shown.insert step.before.active
        highlighted := before.highlighted } := by
  simp only [restore, Page.activate_of_there, there, highlights]
  apply Page.highlightOnly_highlights _ linked
  intro link member
  simpa [links] using member

/-- The arrival of a navigation whose target was taken down while it was pending. -/
theorem arrive_of_vanished {router : Router} {id : String} {source : Option Source} {wait : Nat}
    (linked : router.page.Linked) (other : id ≠ router.place.active)
    (stays : router.page.hasSection router.place.active = true) :
    let departed := router.depart id source
    let arrival : Arrival :=
      { target := id
        generation := departed.generation
        wait
        before := router.place
        highlights := router.page.highlights }
    arrive { departed with page := departed.page.removeSection id, pending := some arrival } arrival =
      { router with
        page :=
          { router.page with
            elements := router.page.elements.erase id
            shown := ExtTreeSet.insert ∅ router.place.active
            scrollResets := router.page.scrollResets + 1 }
        generation := departed.generation
        pending := none
        superseded := departed.superseded
        log := (router.log.tell .viewed id).tell .restored router.place.active } := by
  intro departed arrival
  obtain ⟨highlighted, page⟩ : ∃ highlighted, departed.page = { router.page with shown := ∅, highlighted } :=
    ⟨_, mark_eq router.page.deactivateAll id source⟩
  have gone : (departed.page.removeSection id).hasSection id = false := by
    simp [Page.hasSection, Page.removeSection]
  have there : (departed.page.removeSection id).hasSection router.place.active = true := by
    rw [Page.hasSection_iff] at stays ⊢
    rw [page]
    simpa [Page.removeSection, other] using stays
  let removed : Router := { departed with page := (departed.page.removeSection id).scrollToTop, pending := none }
  have links : removed.page.links = router.page.links := by
    change departed.page.links = _
    rw [page]
  have back : (removed.restore arrival.toStep).page = _ := page_restore there linked rfl links
  have restored : removed.restore arrival.toStep =
      { removed with
        place := router.place
        page := (removed.restore arrival.toStep).page
        log := departed.log.tell .restored router.place.active } := rfl
  rw [arrive_of_gone _ rfl gone]
  change removed.restore arrival.toStep = _
  rw [restored, back]
  simp only [removed, Page.scrollToTop, Page.removeSection, page, ExtTreeSet.erase_empty]
  rfl

/-- From anywhere in a visit let a navigation leave for another section, let its target be taken
down before its arrival, and let nothing but time pass until the arrival is over. As long as the
section departed from has its element, the place and all highlights are then those from before
the navigation and that section alone is visible. The page was scrolled once, its links and the
traces of swipes are untouched, and the log was told of the target and then of the way back.
Nothing stands in the way of the arrival: settling always brings it about. -/
theorem vanished_target_is_undone {catalog : Catalog} {page : Page} {router first : Router}
    (opened : Opened catalog page router) (linked : page.Linked) {actions : List Action}
    (reached : router.play actions = first) {id : String} (registered : id ∈ catalog.sections)
    (there : first.page.hasSection id = true) (other : id ≠ first.place.active)
    (stays : first.page.hasSection first.place.active = true) (source : Option Source) {waiting settled : Router}
    (before : Quiet (first.perform (.navigate id source)).1 waiting) (awaited : waiting.pending.isSome)
    (after : Quiet (waiting.perform (.page (.removeSection id))).1 settled) (finished : settled.pending = none) :
    (first.perform (.navigate id source)).2 = .outcome .applied ∧
    settled.place = first.place ∧
    settled.page.active = [first.place.active] ∧
    settled.page.highlighted = first.page.highlighted ∧
    settled.page.scrollResets = first.page.scrollResets + 1 ∧
    settled.page.links = first.page.links ∧
    settled.page.animations = first.page.animations ∧
    settled.page.haptics = first.page.haptics ∧
    settled.log = (first.log.tell .viewed id).tell .restored first.place.active ∧
    ((waiting.perform (.page (.removeSection id))).1.perform .settle).1.pending = none := by
  have known : first.catalog.contains id = true := by
    rw [← reached, catalog_play, opened.fresh.1]
    exact catalog.contains_iff.mpr registered
  have departed : first.perform (.navigate id source) = (first.depart id source, .outcome .applied) := by
    simp [perform, navigate, known, there]
  rw [departed] at before ⊢
  let arrival (wait : Nat) : Arrival :=
    { target := id
      generation := first.generation + 1
      wait
      before := first.place
      highlights := first.page.highlights }
  have pending : (first.depart id source).pending = some (arrival first.delay) := rfl
  -- Until the target goes, only the wait has changed: an arrival would have left nothing pending.
  have waited : ∃ wait, waiting = { first.depart id source with pending := some (arrival wait) } := by
    rcases before.of_awaited pending with waited | rfl
    · exact waited
    · simp at awaited
  obtain ⟨wait, rfl⟩ := waited
  let removed : Router :=
    { first.depart id source with
      page := (first.depart id source).page.removeSection id
      pending := some (arrival wait) }
  have came : settled = removed.arrive (arrival wait) := by
    rcases after.of_awaited (show removed.pending = some (arrival wait) from rfl) with ⟨_, rfl⟩ | came
    · cases finished
    · exact came
  have still : first.page.Linked := reached ▸ opened.play_linked linked actions
  have undone := came.trans (arrive_of_vanished still other stays)
  refine ⟨rfl, ?_, settled.page.active_of_shown_single (by rw [undone]), ?_, ?_, ?_, ?_, ?_, ?_, pending_settle _⟩
  all_goals rw [undone]

/-- A walk is still on its way when the menu leads elsewhere, and the section named there goes. -/
theorem vanished_target_is_undone_on_the_way :
    let router := (atHome .sample (Page.ofCatalog .sample).withHaptics).withDelay 7
    let actions : List Action := [.start, .settle, .page (.highlight "nav-overview"), .walk .next, .advance 3]
    let first := router.play actions
    let waiting := ((first.perform (.navigate "changelog" (some .dropdown))).1.perform (.advance 6)).1
    let settled := ((waiting.perform (.page (.removeSection "changelog"))).1.perform (.advance 1)).1
    first.pending.isSome ∧ waiting.page.highlights = ["nav-changelog"] ∧ waiting.pending.isSome ∧
      settled.pending = none ∧ settled.place = { index := 1, active := "skills" } ∧ settled.page.active = ["skills"] ∧
      settled.page.highlights = ["nav-overview"] ∧ settled.page.highlighted = first.page.highlighted ∧
      settled.log = (first.log.tell .viewed "changelog").tell .restored "skills" := by
  intro router actions first waiting settled
  have opened : Opened .sample (Page.ofCatalog .sample).withHaptics router := .withDelay .atHome 7
  have linked : (Page.ofCatalog .sample).withHaptics.Linked := .of_bare (Page.highlighted_ofCatalog _)
  have registered : "changelog" ∈ Catalog.sample.sections := by decide
  have there : first.page.hasSection "changelog" = true := by decide +kernel
  have other : "changelog" ≠ first.place.active := by decide +kernel
  have stays : first.page.hasSection first.place.active = true := by decide +kernel
  have before : Quiet (first.perform (.navigate "changelog" (some .dropdown))).1 waiting :=
    .later .now rfl (by decide +kernel)
  have awaited : waiting.pending.isSome := by decide +kernel
  have after : Quiet (waiting.perform (.page (.removeSection "changelog"))).1 settled :=
    .later .now rfl (by decide +kernel)
  have finished : settled.pending = none := by decide +kernel
  obtain ⟨_, _, _, highlighted, _, _, _, _, log, _⟩ :=
    vanished_target_is_undone opened linked rfl registered there other stays _ before awaited after finished
  have placed : first.place.active = "skills" := by decide +kernel
  refine ⟨by decide +kernel, by decide +kernel, awaited, finished, by decide +kernel, by decide +kernel, by decide +kernel,
    highlighted, ?_⟩
  rw [log, placed]

end Vitae.Router
