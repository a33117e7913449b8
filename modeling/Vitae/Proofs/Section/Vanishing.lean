import Vitae.Proofs.Section.Visibility

/-! A target that vanishes while its arrival is pending. The arrival goes back to the place
that the last navigation left, which is not what was last shown when navigations follow one
another without waiting. If that place is the target itself, nothing is left to show. -/

namespace Vitae.Router
open Std

/-- Time passing, and requests that are ignored. -/
inductive Quiet (first : Router) : Router → Prop
  | now : Quiet first first
  | later {router action} (quiet : Quiet first router) (routed : action.isRouted = true)
      (ignored : (router.perform action).2 ≠ .outcome .applied) : Quiet first (router.perform action).1

/-- Navigations applied one after another, with too little time between them for any to
arrive. The place is the one that the last of them left. -/
inductive Burst (first : Router) : Place → Router → Prop
  | opens {action} (applied : (first.perform action).2 = .outcome .applied) :
      Burst first first.place (first.perform action).1
  | follows {left router action} (burst : Burst first left router)
      (applied : (router.perform action).2 = .outcome .applied) :
      Burst first router.place (router.perform action).1
  | waits {left router later} (burst : Burst first left router) (quiet : Quiet router later)
      (awaited : later.pending.isSome) : Burst first left later

/-- A router between departing from `left` and arriving, on a page that holds `held`. -/
structure Underway (held : ExtTreeSet String) (left : Place) (router : Router) (arrival : Arrival) : Prop where
  awaited : router.pending = some arrival
  current : arrival.generation = router.generation
  target : arrival.target = router.place.active
  before : arrival.before = left
  hidden : router.page.shown = ∅
  elements : router.page.elements = held
  there : arrival.target ∈ held

theorem Effect.underway {router later : Router} {action : Action} {reply : Reply}
    (effect : Effect router action later reply) (applied : reply = .outcome .applied) :
    ∃ arrival, Underway router.page.elements router.place later arrival := by
  cases effect with
  | kept ignored => exact absurd applied ignored
  | departed _ there =>
    exact ⟨_, rfl, rfl, rfl, rfl, by simp, by simp, (Page.hasSection_iff _).mp there⟩
  | walked _ there =>
    exact ⟨_, rfl, rfl, rfl, rfl, by simp, by simp, (Page.hasSection_iff _).mp there⟩
  | waited | arrived | lapsed | handled | closed => cases applied

/-- Quiet brings a pending arrival nearer or makes it happen, once. -/
theorem Quiet.of_awaited {first router : Router} {arrival : Arrival} (quiet : Quiet first router)
    (awaited : first.pending = some arrival) :
    (∃ wait, router = { first with pending := some { arrival with wait } }) ∨ router = first.arrive arrival := by
  induction quiet with
  | now => exact Or.inl ⟨arrival.wait, by rw [← awaited]⟩
  | later _ routed ignored ih =>
    rcases (effect_perform _).quiet routed ignored with same | ⟨found, pending, moved⟩
    · rw [same]
      exact ih
    · rcases ih with ⟨wait, rfl⟩ | rfl
      · cases pending
        exact moved
      · simp at pending

theorem Burst.underway {first router : Router} {left : Place} (burst : Burst first left router) :
    (∃ arrival, Underway first.page.elements left router arrival) ∧
    (left = first.place ∨ left.active ∈ first.page.elements) := by
  induction burst with
  | opens applied => exact ⟨(effect_perform _).underway applied, Or.inl rfl⟩
  | follows _ applied ih =>
    obtain ⟨⟨arrival, before⟩, _⟩ := ih
    refine ⟨?_, Or.inr ?_⟩
    · rw [← before.elements]
      exact (effect_perform _).underway applied
    · rw [← before.target]
      exact before.there
  | waits _ quiet awaited ih =>
    obtain ⟨⟨arrival, before⟩, kept⟩ := ih
    refine ⟨?_, kept⟩
    rcases quiet.of_awaited before.awaited with ⟨wait, rfl⟩ | rfl
    · exact ⟨{ arrival with wait }, rfl, before.current, before.target, before.before, before.hidden, before.elements,
        before.there⟩
    · simp at awaited

/-- With its target taken down, an arrival goes back to the place that was left, and shows that
place if it is another one and still there. -/
theorem Underway.goes_back {held : ExtTreeSet String} {left : Place} {router later : Router} {arrival : Arrival}
    (underway : Underway held left router arrival)
    (quiet : Quiet (router.perform (.page (.removeSection router.place.active))).1 later)
    (arrived : later.pending = none) :
    later.place = left ∧
    ∀ id, id ∈ later.page.shown ↔ id = left.active ∧ id ∈ held ∧ id ≠ router.place.active := by
  obtain ⟨awaited, current, target, before, hidden, elements, _⟩ := underway
  rcases quiet.of_awaited awaited with ⟨wait, rfl⟩ | rfl
  · cases arrived
  · have gone : (router.page.removeSection router.place.active).hasSection arrival.target = false := by
      rw [target, Page.hasSection, Page.removeSection]
      simp
    have own : arrival.generation = (router.perform (.page (.removeSection router.place.active))).1.generation := current
    refine ⟨?_, fun id => ?_⟩
    · rw [place_arrive _ own]
      simp only [perform, Page.handle, gone, Bool.false_eq_true, if_false]
      exact before
    · rw [mem_shown_arrive _ own]
      simp only [perform, Page.handle, gone, Bool.false_eq_true, if_false, before]
      simp only [Page.removeSection, hidden, elements, ExtTreeSet.mem_erase, ExtTreeSet.not_mem_empty]
      grind

theorem Effect.sound {router later : Router} {action : Action} {reply : Reply} (sound : router.page.Sound)
    (effect : Effect router action later reply) : later.page.Sound := by
  cases effect with
  | kept | waited | lapsed | closed => exact sound
  | departed | walked => exact .of_hidden (by simp)
  | arrived _ current =>
    intro id member
    rw [elements_arrive]
    rcases (router.mem_shown_arrive current).mp member with before | ⟨there, _⟩
    · exact sound id before
    · exact there
  | handled => exact sound.handle _

/-- On a page that starts hidden, whatever a visit shows has an element, also when it is shown
behind the router's back. -/
theorem Opened.play_sound {catalog : Catalog} {page : Page} {router : Router}
    (opened : Opened catalog page router) (hidden : page.active = []) (actions : List Action) :
    (router.play actions).page.Sound := by
  obtain ⟨_, same, _⟩ := opened.fresh
  have start : router.page.Sound := by
    rw [same]
    exact .of_hidden (page.active_eq_nil_iff.mp hidden)
  exact play_invariant Effect.sound start actions

/-- After any visit that has left a section visible, let navigations follow one another without
arriving, let the last target vanish and let its arrival be over. Exactly one section is then
visible, the one that the router is placed at, if and only if the place that the last
navigation left is not its target and has an element; otherwise nothing is visible. Unless
something was shown behind the router's back, that element is there. -/
theorem one_visible_after_vanishing_iff {catalog : Catalog} {page : Page} {router : Router}
    (opened : Opened catalog page router) (hidden : page.active = []) {actions : List Action} {visible : String}
    (became : (router.play actions).page.active = [visible]) {left : Place} {moved settled : Router}
    (burst : Burst (router.play actions) left moved)
    (quiet : Quiet (moved.perform (.page (.removeSection moved.place.active))).1 settled)
    (arrived : settled.pending = none) :
    (settled.page.active = [settled.place.active] ↔
      left.active ≠ moved.place.active ∧ moved.page.hasSection left.active = true) ∧
    (settled.page.active ≠ [settled.place.active] → settled.page.active = []) ∧
    ((∀ action ∈ actions, action.shows = false) → moved.page.hasSection left.active = true) := by
  obtain ⟨⟨arrival, underway⟩, kept⟩ := burst.underway
  obtain ⟨back, shown⟩ := underway.goes_back quiet arrived
  rw [Page.hasSection_iff, underway.elements, back]
  have only : ∀ id ∈ settled.page.shown, id = left.active := fun id member => ((shown id).mp member).1
  refine ⟨⟨fun single => ?_, fun ⟨different, there⟩ => ?_⟩, fun none => ?_, fun routed => ?_⟩
  · have member : left.active ∈ settled.page.shown := by
      rw [← Page.mem_active, single]
      exact List.mem_singleton_self _
    obtain ⟨_, there, different⟩ := (shown _).mp member
    exact ⟨different, there⟩
  · exact Page.active_eq_singleton _ ((shown _).mpr ⟨rfl, there, different⟩) only
  · exact (Page.active_of_only _ only).resolve_right none
  · rcases kept with rfl | there
    · have member : visible ∈ (router.play actions).page.shown := by
        rw [← Page.mem_active, became]
        exact List.mem_singleton_self _
      have placed := (opened.play_mirrors hidden actions routed).only visible member
      rw [← placed]
      exact opened.play_sound hidden actions visible member
    · exact there

/-- A burst that leaves another section last: going back shows that one, not the one that was
visible before the burst. -/
theorem one_visible_after_vanishing_detour :
    let first := (atHome .sample (Page.ofCatalog .sample)).play [.start, .settle]
    let through := (first.perform (.navigate "skills" none)).1
    let moved := (through.perform (.navigate "changelog" (some .dropdown))).1
    let settled := ((moved.perform (.page (.removeSection moved.place.active))).1.perform .settle).1
    first.page.active = ["overview"] ∧ Burst first through.place moved ∧
      Quiet (moved.perform (.page (.removeSection moved.place.active))).1 settled ∧ settled.pending = none ∧
      (settled.page.active = [settled.place.active] ↔
        through.place.active ≠ moved.place.active ∧ moved.page.hasSection through.place.active = true) ∧
      settled.page.active = ["skills"] := by
  intro first through moved settled
  have hidden : (Page.ofCatalog .sample).active = [] :=
    (Page.active_eq_nil_iff _).mpr (Page.shown_ofCatalog _)
  have became : first.page.active = ["overview"] := by decide +kernel
  have burst : Burst first through.place moved :=
    .follows (.opens (by decide +kernel)) (by decide +kernel)
  have quiet : Quiet (moved.perform (.page (.removeSection moved.place.active))).1 settled :=
    .later .now rfl (by decide +kernel)
  have arrived : settled.pending = none := by decide +kernel
  refine ⟨became, burst, quiet, arrived, ?_, by decide +kernel⟩
  exact (one_visible_after_vanishing_iff .atHome hidden became burst quiet arrived).1

/-- A target asked for twice without waiting is what its own arrival goes back to. When it
vanishes, nothing is left visible, although the section shown before is still there. -/
theorem none_visible_after_repeated_target :
    let first := (atHome .sample (Page.ofCatalog .sample)).play [.start, .settle]
    let once := first.perform (.navigate "skills" none)
    let twice := once.1.perform (.navigate "skills" none)
    let settled := twice.1.play [.page (.removeSection "skills"), .settle]
    first.page.active = ["overview"] ∧ first.pending = none ∧
      once.2 = .outcome .applied ∧ twice.2 = .outcome .applied ∧ twice.1.place.active = "skills" ∧
      settled.pending = none ∧ settled.page.hasSection "overview" = true ∧ settled.page.active = [] := by
  decide +kernel

end Vitae.Router
