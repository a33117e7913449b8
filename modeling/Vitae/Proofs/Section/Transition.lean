import Vitae.Proofs.Section.Highlights
import Vitae.Section.Router

/-! The two halves of a navigation. Departing hides every section and puts none up or takes
none down; arriving shows the target, or goes back to where the navigation started when the
target is gone by then. -/

namespace Vitae.Router
open Std

/-- Leaving changes no page in anything but its highlights. -/
theorem mark_eq (page : Page) (id : String) (source : Option Source) :
    mark page id source = { page with highlighted := (mark page id source).highlighted } := by
  unfold mark
  split
  · rfl
  · rw [Page.highlight_eq]
    rfl
  · split
    · rw [Page.highlight_eq]
      rfl
    · rfl

@[simp] theorem elements_mark (page : Page) (id : String) (source : Option Source) :
    (mark page id source).elements = page.elements := by
  rw [mark_eq]

@[simp] theorem shown_mark (page : Page) (id : String) (source : Option Source) :
    (mark page id source).shown = page.shown := by
  rw [mark_eq]

@[simp] theorem links_mark (page : Page) (id : String) (source : Option Source) :
    (mark page id source).links = page.links := by
  rw [mark_eq]

variable (router : Router)

@[simp] theorem elements_depart (id : String) (source : Option Source) :
    (router.depart id source).page.elements = router.page.elements := by
  simp [depart]

@[simp] theorem shown_depart (id : String) (source : Option Source) :
    (router.depart id source).page.shown = ∅ := by
  simp [depart]

@[simp] theorem elements_swiped (direction : Direction) :
    (router.swiped direction).page.elements = router.page.elements := rfl

@[simp] theorem shown_swiped (direction : Direction) :
    (router.swiped direction).page.shown = router.page.shown := rfl

variable {arrival : Arrival}

/-- A step that finds another number than its own does nothing. -/
theorem wake_of_stale {step : Step} (stale : step.generation ≠ router.generation) : router.wake step = router :=
  if_neg stale

theorem arrive_of_stale (stale : arrival.generation ≠ router.generation) : router.arrive arrival = router.close :=
  router.close.wake_of_stale stale

theorem arrive_of_there (current : arrival.generation = router.generation)
    (there : router.page.hasSection arrival.target = true) :
    router.arrive arrival =
      { router with page := (router.page.scrollToTop.activate arrival.target).1, pending := none } := by
  have found : router.page.scrollToTop.hasSection arrival.target = true := there
  simp [arrive, wake, current, Page.activate_of_there, found]

theorem arrive_of_gone (current : arrival.generation = router.generation)
    (gone : router.page.hasSection arrival.target = false) :
    router.arrive arrival =
      restore { router with page := router.page.scrollToTop, pending := none } arrival.toStep := by
  have missing : router.page.scrollToTop.hasSection arrival.target = false := gone
  simp [arrive, wake, current, Page.activate_of_gone, missing]

/-- The place, what is shown and highlighted of the page, how often it was scrolled, and the log are all
that arriving can change. -/
theorem arrive_eq (arrival : Arrival) :
    router.arrive arrival =
      { router with
        place := (router.arrive arrival).place
        page :=
          { router.page with
            shown := (router.arrive arrival).page.shown
            highlighted := (router.arrive arrival).page.highlighted
            scrollResets := (router.arrive arrival).page.scrollResets }
        pending := none
        log := (router.arrive arrival).log } := by
  by_cases current : arrival.generation = router.generation
  · cases there : router.page.hasSection arrival.target with
    | true =>
      rw [router.arrive_of_there current there, Page.activate_eq]
      rfl
    | false =>
      rw [router.arrive_of_gone current there, restore, (Page.highlightOnly_spec _ _).1, Page.activate_eq]
      rfl
  · rw [router.arrive_of_stale current]
    rfl

@[simp] theorem pending_arrive : (router.arrive arrival).pending = none := by
  rw [arrive_eq]

@[simp] theorem catalog_arrive : (router.arrive arrival).catalog = router.catalog := by
  rw [arrive_eq]

@[simp] theorem delay_arrive : (router.arrive arrival).delay = router.delay := by
  rw [arrive_eq]

@[simp] theorem generation_arrive : (router.arrive arrival).generation = router.generation := by
  rw [arrive_eq]

@[simp] theorem superseded_arrive : (router.arrive arrival).superseded = router.superseded := by
  rw [arrive_eq]

@[simp] theorem elements_arrive : (router.arrive arrival).page.elements = router.page.elements := by
  rw [arrive_eq]

@[simp] theorem links_arrive : (router.arrive arrival).page.links = router.page.links := by
  rw [arrive_eq]

@[simp] theorem pending_settle : router.settle.pending = none := by
  unfold settle
  cases awaited : router.pending with
  | none => exact awaited
  | some arrival => exact router.pending_arrive

/-- Neither half of a navigation puts an element up or takes one down. -/
theorem hasSection_depart (id other : String) (source : Option Source) :
    (router.depart id source).page.hasSection other = router.page.hasSection other := by
  rw [Page.hasSection, elements_depart, Page.hasSection]

theorem hasSection_arrive (other : String) :
    (router.arrive arrival).page.hasSection other = router.page.hasSection other := by
  rw [Page.hasSection, elements_arrive, Page.hasSection]

section Current
variable (current : arrival.generation = router.generation)
include current

/-- A router either stays where it departed for, or goes back to where it departed from. -/
theorem place_arrive : (router.arrive arrival).place =
    if router.page.hasSection arrival.target then router.place else arrival.before := by
  cases there : router.page.hasSection arrival.target with
  | true => rw [router.arrive_of_there current there]; rfl
  | false => rw [router.arrive_of_gone current there]; rfl

/-- Only going back is reported: where the router departed for was reported when it left. -/
theorem log_arrive : (router.arrive arrival).log =
    if router.page.hasSection arrival.target then router.log
    else router.log.tell .restored arrival.before.active := by
  cases there : router.page.hasSection arrival.target with
  | true => rw [router.arrive_of_there current there]; rfl
  | false => rw [router.arrive_of_gone current there]; rfl

/-- What arriving shows beside what was visible: the target if its element is there, and
otherwise the section departed from, if that one's is. -/
theorem mem_shown_arrive {id : String} : id ∈ (router.arrive arrival).page.shown ↔
    id ∈ router.page.shown ∨ id ∈ router.page.elements ∧
      id = if router.page.hasSection arrival.target then arrival.target else arrival.before.active := by
  cases there : router.page.hasSection arrival.target with
  | true =>
    rw [router.arrive_of_there current there]
    simp only [Page.mem_shown_activate, Page.shown_scrollToTop, Page.elements_scrollToTop, if_true]
    grind
  | false =>
    rw [router.arrive_of_gone current there]
    simp only [restore, Page.shown_highlightOnly, Page.mem_shown_activate, Page.shown_scrollToTop,
      Page.elements_scrollToTop, Bool.false_eq_true, if_false]
    grind

theorem scrollResets_arrive : (router.arrive arrival).page.scrollResets = router.page.scrollResets + 1 := by
  cases there : router.page.hasSection arrival.target with
  | true =>
    rw [router.arrive_of_there current there, Page.activate_eq]
    rfl
  | false =>
    rw [router.arrive_of_gone current there, restore, (Page.highlightOnly_spec _ _).1, Page.activate_eq]
    rfl

end Current

/-! ### The time between -/

section Time
variable {router : Router} {arrival : Arrival}

theorem advance_of_idle (idle : router.pending = none) (ms : Nat) : router.advance ms = router := by
  simp only [advance, idle]

theorem advance_of_due (awaited : router.pending = some arrival) {ms : Nat} (due : arrival.wait ≤ ms) :
    router.advance ms = router.arrive arrival := by
  simp only [advance, awaited, due, if_true]

theorem advance_of_early (awaited : router.pending = some arrival) {ms : Nat} (early : ms < arrival.wait) :
    router.advance ms = { router with pending := some { arrival with wait := arrival.wait - ms } } := by
  simp only [advance, awaited, Nat.not_le.mpr early, if_false]

theorem settle_of_idle (idle : router.pending = none) : router.settle = router := by
  simp only [settle, idle]

theorem settle_of_awaited (awaited : router.pending = some arrival) : router.settle = router.arrive arrival := by
  simp only [settle, awaited]

/-- What an arrival does depends neither on its wait nor on what is pending. -/
theorem arrive_waiting (router : Router) (arrival : Arrival) (wait : Nat) (waiting : Option Arrival) :
    arrive { router with pending := waiting } { arrival with wait } = router.arrive arrival := rfl

theorem advance_advance (router : Router) (first second : Nat) :
    (router.advance first).advance second = router.advance (first + second) := by
  cases awaited : router.pending with
  | none => rw [advance_of_idle awaited, advance_of_idle awaited, advance_of_idle awaited]
  | some arrival =>
    by_cases due : arrival.wait ≤ first
    · rw [advance_of_due awaited due, advance_of_due awaited (by omega), advance_of_idle router.pending_arrive]
    · rw [advance_of_early awaited (by omega)]
      by_cases later : arrival.wait ≤ first + second
      · rw [advance_of_due awaited later, advance_of_due rfl (by dsimp only; omega), arrive_waiting]
      · rw [advance_of_early awaited (by omega), advance_of_early rfl (by dsimp only; omega)]
        simp only [Nat.sub_sub]

end Time

end Vitae.Router
