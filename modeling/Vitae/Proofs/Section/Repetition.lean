import Vitae.Proofs.Section.Presence
import Vitae.Proofs.Section.Refusal

/-! Asking for one section twice in a row. The second request finds the place and the highlights as
it would leave them, and supersedes what the first one left for later. Its arrival is due at the same
time and shows the same section; what differs is where it would go back to, and that is never seen
while the element of the section stays. -/

namespace Vitae
open Std

/-- What can be seen after an action, the reply to it included. -/
structure Scene where
  reply : Reply
  place : Place
  active : List String
  highlights : List String
  animations : List Direction
  haptics : Option (List Nat)
  scrollResets : Nat
deriving DecidableEq, Repr

def Scene.scrolledBy (scene : Scene) (times : Nat) : Scene :=
  { scene with scrollResets := scene.scrollResets + times }

def Episode.scene (episode : Episode) : Scene :=
  { reply := episode.reply
    place := episode.after.place
    active := episode.after.page.active
    highlights := episode.after.page.highlights
    animations := episode.after.page.animations
    haptics := episode.after.page.haptics
    scrollResets := episode.after.page.scrollResets }

namespace Page

/-- The same page, scrolled to its top more often. -/
def scrolledBy (page : Page) (times : Nat) : Page :=
  { page with scrollResets := page.scrollResets + times }

variable (page : Page) (times : Nat)

@[simp] theorem hasSection_scrolledBy (id : String) : (page.scrolledBy times).hasSection id = page.hasSection id := rfl

@[simp] theorem highlights_scrolledBy : (page.scrolledBy times).highlights = page.highlights := rfl

@[simp] theorem linkFor?_scrolledBy (id : String) : (page.scrolledBy times).linkFor? id = page.linkFor? id := rfl

theorem scrollToTop_scrolledBy : (page.scrolledBy times).scrollToTop = page.scrollToTop.scrolledBy times := by
  simp only [scrolledBy, scrollToTop, Nat.add_right_comm]

theorem activate_scrolledBy (id : String) :
    (page.scrolledBy times).activate id = ((page.activate id).1.scrolledBy times, (page.activate id).2) := by
  unfold activate
  rw [hasSection_scrolledBy]
  split <;> rfl

theorem highlight_scrolledBy (link : String) :
    (page.scrolledBy times).highlight link = ((page.highlight link).1.scrolledBy times, (page.highlight link).2) := by
  change (if page.links.contains link then _ else _) = _
  unfold highlight
  split <;> rfl

theorem highlightOnly_scrolledBy (links : List String) :
    (page.scrolledBy times).highlightOnly links = (page.highlightOnly links).scrolledBy times := by
  have fold (page : Page) : links.foldl (fun page link => (page.highlight link).1) (page.scrolledBy times) =
      (links.foldl (fun page link => (page.highlight link).1) page).scrolledBy times := by
    induction links generalizing page with
    | nil => rfl
    | cons link rest ih => rw [List.foldl_cons, List.foldl_cons, highlight_scrolledBy, ih]
  exact fold page.clearHighlights

/-- No command reads how often a page was scrolled. -/
theorem handle_scrolledBy (command : Command) :
    (page.scrolledBy times).handle command = ((page.handle command).1.scrolledBy times, (page.handle command).2) := by
  cases command with
  | activate id => simp only [handle, activate_scrolledBy]
  | highlight link => simp only [handle, highlight_scrolledBy]
  | scrollToTop => simp only [handle, scrollToTop_scrolledBy]
  | _ => rfl

/-- Elements stay until they are taken down. -/
theorem hasSection_handle {page : Page} {id : String} {command : Command} (there : page.hasSection id = true)
    (kept : command ≠ .removeSection id) : (page.handle command).1.hasSection id = true := by
  rw [hasSection_iff] at there ⊢
  cases command with
  | addSection other => exact ExtTreeSet.mem_insert.mpr (Or.inr there)
  | removeSection other =>
    have different : other ≠ id := fun same => kept (congrArg _ same)
    exact ExtTreeSet.mem_erase.mpr ⟨by simpa using different, there⟩
  | activate other =>
    change id ∈ (page.activate other).1.elements
    rwa [elements_activate]
  | highlight link =>
    change id ∈ (page.highlight link).1.elements
    rwa [elements_highlight]
  | _ => exact there

end Page

namespace Router

theorem mark_scrolledBy (page : Page) (times : Nat) (id : String) (source : Option Source) :
    mark (page.scrolledBy times) id source = (mark page id source).scrolledBy times := by
  have highlighted (link : String) : ((page.scrolledBy times).clearHighlights.highlight link).1 =
      (page.clearHighlights.highlight link).1.scrolledBy times :=
    congrArg Prod.fst (page.clearHighlights.highlight_scrolledBy times link)
  unfold mark
  split
  · rfl
  · exact highlighted _
  · rw [Page.linkFor?_scrolledBy]
    split
    · exact highlighted _
    · rfl

/-- A control that highlights takes the highlights off first, so a second time it finds nothing to do. -/
theorem mark_mark (page : Page) (id : String) (source : Option Source) :
    mark (mark page id source).deactivateAll id source = mark page.deactivateAll id source := by
  rw [mark_eq page]
  cases source with
  | none => rfl
  | some control => cases control <;> rfl

/-- Two arrivals that look the same as long as the element of a section is there: they are one but for
their numbers, or both lead to that section at the same time. -/
inductive Resembles (id : String) : Arrival → Arrival → Prop
  | same {first second : Arrival} {generation : Nat} (alike : first = { second with generation }) :
      Resembles id first second
  | bound {first second : Arrival} (first_target : first.target = id) (second_target : second.target = id)
      (wait : first.wait = second.wait) : Resembles id first second

/-- What a router that was asked twice for a section has in common with one that was asked once. -/
structure Echoes (id : String) (times : Nat) (twice once : Router) : Prop where
  catalog : twice.catalog = once.catalog
  place : twice.place = once.place
  delay : twice.delay = once.delay
  page : twice.page = once.page.scrolledBy times
  there : once.page.hasSection id = true
  pending : Option.Rel (Resembles id) twice.pending once.pending
  twice_current : Current twice
  once_current : Current once

namespace Echoes
variable {id : String} {times : Nat} {twice once : Router}

/-- What is pending in one is pending in the other, with the same target and the same wait. -/
private theorem awaited (echoes : Echoes id times twice once) :
    twice.pending = none ∧ once.pending = none ∨
      ∃ first second, twice.pending = some first ∧ once.pending = some second ∧ Resembles id first second := by
  have pending := echoes.pending
  cases later : twice.pending with
  | none =>
    rw [later] at pending
    cases other : once.pending with
    | none => exact Or.inl ⟨rfl, rfl⟩
    | some _ => rw [other] at pending; cases pending
  | some first =>
    rw [later] at pending
    cases other : once.pending with
    | none => rw [other] at pending; cases pending
    | some second =>
      rw [other] at pending
      cases pending with
      | some alike => exact Or.inr ⟨first, second, rfl, rfl, alike⟩

theorem lockstep (id : String) (times : Nat) : Lockstep (Echoes id times) where
  catalog echoes := echoes.catalog
  place echoes := echoes.place
  there {_ _} echoes {_} _ := by rw [echoes.page, Page.hasSection_scrolledBy]
  depart {twice once} echoes {target} _ _ source := by
    refine ⟨echoes.catalog, ?_, echoes.delay, ?_, ?_, ?_, current_depart _ _ _, current_depart _ _ _⟩
    · simp only [depart, placeOf, echoes.catalog, echoes.place]
    · change mark twice.page.deactivateAll target source = (mark once.page.deactivateAll target source).scrolledBy times
      rw [echoes.page, ← mark_scrolledBy]
      rfl
    · rw [hasSection_depart]
      exact echoes.there
    · simp only [depart, echoes.delay, echoes.place, echoes.page, Page.highlights_scrolledBy]
      exact .some (.same rfl)
  swiped {twice once} echoes direction := by
    refine ⟨echoes.catalog, echoes.place, echoes.delay, ?_, echoes.there, echoes.pending, echoes.twice_current,
      echoes.once_current⟩
    simp only [Router.swiped, echoes.page]
    rfl

theorem arrive (echoes : Echoes id times twice once) {first second : Arrival} (alike : Resembles id first second)
    (first_awaited : twice.pending = some first) (second_awaited : once.pending = some second) :
    Echoes id times (twice.arrive first) (once.arrive second) := by
  have first_current := echoes.twice_current first first_awaited
  have second_current := echoes.once_current second second_awaited
  have first_over : Current (twice.arrive first) := current_of_idle (pending_arrive _)
  have second_over : Current (once.arrive second) := current_of_idle (pending_arrive _)
  have target : first.target = second.target := by
    cases alike with
    | same alike => rw [alike]
    | bound first_target second_target => rw [first_target, second_target]
  have here : twice.page.hasSection first.target = once.page.hasSection second.target := by
    rw [target, echoes.page, Page.hasSection_scrolledBy]
  have still : (once.arrive second).page.hasSection id = true := by
    rw [hasSection_arrive]
    exact echoes.there
  cases there : once.page.hasSection second.target with
  | true =>
    rw [there] at here
    rw [once.arrive_of_there second_current there] at still second_over ⊢
    rw [twice.arrive_of_there first_current here] at first_over ⊢
    refine ⟨echoes.catalog, echoes.place, echoes.delay, ?_, still, .none, first_over, second_over⟩
    simp only [echoes.page, target, Page.scrollToTop_scrolledBy, Page.activate_scrolledBy]
  | false =>
    rw [there] at here
    cases alike with
    | bound _ second_target => simp [second_target, echoes.there] at there
    | same alike =>
      subst alike
      rw [once.arrive_of_gone second_current there] at still second_over ⊢
      rw [twice.arrive_of_gone first_current here] at first_over ⊢
      refine ⟨echoes.catalog, rfl, echoes.delay, ?_, still, .none, first_over, second_over⟩
      simp only [restore, echoes.page, Page.scrollToTop_scrolledBy, Page.activate_scrolledBy,
        Page.highlightOnly_scrolledBy]

theorem settle (echoes : Echoes id times twice once) : Echoes id times twice.settle once.settle := by
  unfold Router.settle
  rcases echoes.awaited with ⟨nothing, neither⟩ | ⟨first, second, pending, other, alike⟩
  · rwa [nothing, neither]
  · rw [pending, other]
    exact echoes.arrive alike pending other

theorem advance (echoes : Echoes id times twice once) (ms : Nat) :
    Echoes id times (twice.advance ms) (once.advance ms) := by
  unfold Router.advance
  rcases echoes.awaited with ⟨nothing, neither⟩ | ⟨first, second, pending, other, alike⟩
  · rwa [nothing, neither]
  · rw [pending, other]
    have wait : first.wait = second.wait := by
      cases alike with
      | same alike => rw [alike]
      | bound _ _ wait => exact wait
    by_cases due : second.wait ≤ ms
    · simp only [wait, due, if_true]
      exact echoes.arrive alike pending other
    · simp only [wait, due, if_false]
      refine ⟨echoes.catalog, echoes.place, echoes.delay, echoes.page, echoes.there, .some ?_, fun _ early => ?_,
        fun _ early => ?_⟩
      · cases alike with
        | same alike =>
          subst alike
          exact .same rfl
        | bound first_target second_target => exact .bound first_target second_target rfl
      · cases early
        exact echoes.twice_current first pending
      · cases early
        exact echoes.once_current second other

theorem perform (echoes : Echoes id times twice once) {action : Action} (kept : action ≠ .page (.removeSection id)) :
    (twice.perform action).2 = (once.perform action).2 ∧
    Echoes id times (twice.perform action).1 (once.perform action).1 := by
  cases action with
  | start | navigate | walk | press | touch => exact (lockstep id times).perform echoes rfl
  | settle => exact ⟨rfl, echoes.settle⟩
  | advance ms => exact ⟨rfl, echoes.advance ms⟩
  | page command =>
    have handled := once.page.handle_scrolledBy times command
    have there := Page.hasSection_handle echoes.there fun removed => kept (congrArg Action.page removed)
    simp only [Router.perform, echoes.page, handled, true_and]
    exact ⟨echoes.catalog, echoes.place, echoes.delay, rfl, there, echoes.pending, echoes.twice_current,
      echoes.once_current⟩
  | close =>
    exact ⟨rfl, echoes.catalog, echoes.place, echoes.delay, echoes.page, echoes.there, .none, current_of_idle rfl,
      current_of_idle rfl⟩

theorem act (echoes : Echoes id times twice once) {action : Action} (kept : action ≠ .page (.removeSection id)) :
    (twice.act action).2 = (once.act action).2 ∧ Echoes id times (twice.act action).1 (once.act action).1 := by
  obtain ⟨same, later⟩ := echoes.perform kept
  exact ⟨same, later.advance 0⟩

theorem scene (echoes : Echoes id times twice once) (action : Action) {reply other : Reply} (same : reply = other) :
    (⟨action, reply, twice⟩ : Episode).scene = (⟨action, other, once⟩ : Episode).scene.scrolledBy times := by
  simp only [Episode.scene, echoes.place, echoes.page, same]
  rfl

end Echoes

section Story
variable {react : Router → Action → Router × Reply} {id : String} {times : Nat} {actions : List Action}
  (step : ∀ {twice once : Router} {action : Action}, Echoes id times twice once → action ≠ .page (.removeSection id) →
    (react twice action).2 = (react once action).2 ∧ Echoes id times (react twice action).1 (react once action).1)
include step

theorem Echoes.story {twice once : Router} (echoes : Echoes id times twice once)
    (kept : .page (.removeSection id) ∉ actions) :
    (twice.story react actions).map (·.scene) = (once.story react actions).map (·.scene.scrolledBy times) := by
  induction actions generalizing twice once with
  | nil => rfl
  | cons action rest ih =>
    obtain ⟨here, later⟩ := List.ne_and_not_mem_of_not_mem_cons kept
    obtain ⟨same, still⟩ := step echoes here.symm
    exact congrArg₂ List.cons (still.scene action same) (ih still later)

/-- The same from an action on, whatever the routers were before it. -/
theorem Echoes.story_cons {first second : Router} {action : Action}
    (same : (react first action).2 = (react second action).2)
    (echoes : Echoes id times (react first action).1 (react second action).1)
    (kept : .page (.removeSection id) ∉ actions) :
    (first.story react (action :: actions)).map (·.scene) =
      (second.story react (action :: actions)).map (·.scene.scrolledBy times) :=
  congrArg₂ List.cons (echoes.scene action same) (echoes.story step kept)

end Story

/-- The catalog and the elements on the page decide how a navigation ends. -/
private theorem outcome_eq {first second : Router} (catalog : first.catalog = second.catalog)
    (elements : first.page.elements = second.page.elements) (id : String) (source : Option Source) :
    (first.navigate id source).2 = (second.navigate id source).2 := by
  have outcome (router : Router) : (router.navigate id source).2 =
      if router.catalog.contains id then if router.page.hasSection id then .applied else .missingElement
      else .unknownTarget := by
    unfold navigate
    split
    · split <;> rfl
    · rfl
  have there : first.page.hasSection id = second.page.hasSection id := by
    rw [Page.hasSection, elements]
    rfl
  rw [outcome, outcome, catalog, there]

theorem navigate_of_applied {router : Router} {id : String} {source : Option Source}
    (applied : (router.navigate id source).2 = .applied) :
    router.page.hasSection id = true ∧ router.navigate id source = (router.depart id source, .applied) := by
  rcases router.navigate_cases id source with ⟨_, there, moved⟩ | ⟨outcome, refused, kept⟩
  · exact ⟨there, moved⟩
  · rw [kept] at applied
    exact absurd applied refused

theorem navigate_of_refused {router : Router} {id : String} {source : Option Source}
    (refused : (router.navigate id source).2 ≠ .applied) : (router.navigate id source).1 = router :=
  (asked_navigate id source).kept (by simpa using refused)

/-- Asking a second time in vain is asking once: what was overdue has happened, and took no element down. -/
theorem act_act_of_refused {router : Router} {id : String} {source : Option Source}
    (refused : (router.navigate id source).2 ≠ .applied) :
    (router.act (.navigate id source)).1.act (.navigate id source) = router.act (.navigate id source) := by
  have looked : (router.act (.navigate id source)).1 = router.advance 0 :=
    congrArg (advance · 0) (navigate_of_refused refused)
  have waited : Effect router .start (router.advance 0) .nothing := effect_advance _ 0
  have answer := outcome_eq waited.catalog_eq (waited.elements_eq rfl) id source
  have still : ((router.advance 0).navigate id source).1 = router.advance 0 := navigate_of_refused (answer ▸ refused)
  rw [looked]
  apply Prod.ext
  · exact (congrArg (advance · 0) still).trans ((punctual_advance router).trans looked.symm)
  · exact congrArg Reply.outcome answer

/-- Where an applied request for a section leads, as far as asking again is concerned: `times` is how
often its own arrival has scrolled the page already. -/
structure Reached (router : Router) (id : String) (source : Option Source) (times : Nat) (between : Router) : Prop where
  catalog : between.catalog = router.catalog
  place : between.place = router.placeOf id
  delay : between.delay = router.delay
  elements : between.page.elements = router.page.elements
  page : between.page.deactivateAll = (router.depart id source).page.deactivateAll.scrolledBy times

theorem reached_depart (router : Router) (id : String) (source : Option Source) :
    Reached router id source 0 (router.depart id source) :=
  ⟨rfl, rfl, rfl, elements_depart .., rfl⟩

/-- With no delay an arrival is due as soon as its navigation has left. -/
theorem reached_advance {router : Router} {id : String} {source : Option Source}
    (there : router.page.hasSection id = true) :
    Reached router id source (if router.delay = 0 then 1 else 0) ((router.depart id source).advance 0) := by
  have pending : (router.depart id source).pending =
    some
      { target := id
        generation := router.generation + 1
        wait := router.delay
        before := router.place
        highlights := router.page.highlights } := rfl
  simp only [advance, pending, Nat.le_zero, Nat.sub_zero]
  split
  · have stays : (router.depart id source).page.hasSection id = true := by
      rw [hasSection_depart]
      exact there
    rw [arrive_of_there _ rfl stays]
    refine ⟨rfl, rfl, rfl, ?_, ?_⟩
    · simp
    · dsimp only
      rw [Page.activate_eq]
      rfl
  · exact reached_depart router id source

theorem Reached.echoes {router between : Router} {id : String} {source : Option Source} {times : Nat}
    (reached : Reached router id source times between) (there : router.page.hasSection id = true) :
    Echoes id times (between.depart id source) (router.depart id source) := by
  refine ⟨reached.catalog, ?_, reached.delay, ?_, ?_, .some (.bound rfl rfl reached.delay), current_depart _ _ _,
    current_depart _ _ _⟩
  · simp only [depart, placeOf, reached.catalog, reached.place]
    cases router.catalog.position? id <;> rfl
  · change mark between.page.deactivateAll id source = (mark router.page.deactivateAll id source).scrolledBy times
    rw [reached.page, mark_scrolledBy]
    exact congrArg (Page.scrolledBy · times) (mark_mark ..)
  · rw [hasSection_depart]
    exact there

/-- The second of two requests is applied like the first. -/
theorem Reached.again {router between : Router} {id : String} {source : Option Source} {times : Nat}
    (reached : Reached router id source times between) (applied : (router.navigate id source).2 = .applied) :
    (between.perform (.navigate id source)).2 = (router.perform (.navigate id source)).2 ∧
    Echoes id times (between.perform (.navigate id source)).1 (router.perform (.navigate id source)).1 := by
  obtain ⟨there, moved⟩ := navigate_of_applied applied
  have outcome := (outcome_eq reached.catalog reached.elements id source).trans applied
  simp only [perform, moved, (navigate_of_applied outcome).2, true_and]
  exact reached.echoes there

/-- Ask a router, wherever a visit has led it, for one section twice in a row, and go on with anything
but taking the element of that section down. From the second request on, everything that is seen is
what is seen when the section is asked for once: every answer, the place, what is visible and what is
highlighted, the animations, the pulses and the scrolling. Only if what is due happens by itself
and there is no delay, the first request has had an arrival of its own, which scrolled the page once. -/
theorem repeated_navigation_is_unseen (router : Router) (id : String) (source : Option Source) {actions : List Action}
    (kept : .page (.removeSection id) ∉ actions) :
    let again : Action := .navigate id source
    let arrivals := if router.delay = 0 ∧ (router.navigate id source).2 = .applied then 1 else 0
    (router.story perform (again :: again :: actions)).tail.map (·.scene) =
      (router.story perform (again :: actions)).map (·.scene) ∧
    (router.story act (again :: again :: actions)).tail.map (·.scene) =
      (router.story act (again :: actions)).map (·.scene.scrolledBy arrivals) := by
  intro again arrivals
  by_cases applied : (router.navigate id source).2 = .applied
  · obtain ⟨there, moved⟩ := navigate_of_applied applied
    have left : router.perform again = (router.depart id source, .outcome .applied) := by
      simp only [perform, again, moved]
    constructor
    · have reached : Reached router id source 0 (router.perform again).1 := by
        rw [left]
        exact reached_depart ..
      obtain ⟨same, echoes⟩ := reached.again applied
      change ((router.perform again).1.story perform (again :: actions)).map (·.scene) = _
      exact Echoes.story_cons (fun now => now.perform) same echoes kept
    · have reached : Reached router id source arrivals (router.act again).1 := by
        simp only [act, left, arrivals, applied, and_true]
        exact reached_advance there
      obtain ⟨same, echoes⟩ := reached.again applied
      change ((router.act again).1.story act (again :: actions)).map (·.scene) = _
      refine Echoes.story_cons (fun now => now.act) ?_ ?_ kept
      · exact same
      · exact echoes.advance 0
  · have still : (router.perform again).1 = router := navigate_of_refused applied
    constructor
    · change ((router.perform again).1.story perform (again :: actions)).map (·.scene) = _
      rw [still]
    · have none : arrivals = 0 := if_neg fun both => applied both.2
      change ((router.act again).1.story act (again :: actions)).map (·.scene) = _
      rw [none, story, act_act_of_refused applied]
      rfl

/-- With no delay the menu is used twice on the way to another section. Later a walk leads to a section
whose element goes, and back from there. -/
theorem repeated_navigation_is_unseen_on_the_way :
    let opening := (atHome .sample (Page.ofCatalog .sample).withHaptics).withDelay 0
    let here := opening.play [.start, .walk .next, .advance 0, .navigate "changelog" none]
    let again : Action := .navigate "skills" (some .dropdown)
    let actions : List Action := [.walk .next, .page (.removeSection "overview"), .page .highlights, .settle]
    (here.play [again]).pending.map (·.before.active) = some "changelog" ∧
      (here.play [again, again]).pending.map (·.before.active) = some "skills" ∧
      (here.story perform (again :: again :: actions)).tail.map (·.scene) =
        (here.story perform (again :: actions)).map (·.scene) ∧
      (here.story perform (again :: actions)).map (·.scene.active) = [[], [], [], [], ["skills"]] ∧
      (here.story act (again :: again :: actions)).tail.map (·.scene) =
        (here.story act (again :: actions)).map (·.scene.scrolledBy 1) ∧
      (here.story act (again :: actions)).map (·.scene.active) = [["skills"], ["overview"], [], [], []] := by
  intro opening here again actions
  have kept : Action.page (.removeSection "skills") ∉ actions := by simp [actions]
  have applied : (here.navigate "skills" (some .dropdown)).2 = .applied := by decide +kernel
  have delay : here.delay = 0 := by decide +kernel
  obtain ⟨waiting, arriving⟩ := repeated_navigation_is_unseen here "skills" (some .dropdown) kept
  rw [if_pos ⟨delay, applied⟩] at arriving
  exact ⟨by decide +kernel, by decide +kernel, waiting, by decide +kernel, arriving, by decide +kernel⟩

end Router

end Vitae
