import Vitae.Proofs.Section.Trips

/-! Requests that are refused. A section that nobody registered, an element that is missing, a key
that is not bound and a touch that is no swipe leave the router exactly as it was, its pending
arrival included. A visit is therefore told the same without them. -/

namespace Vitae

/-- One action of a visit, the reply to it, and the router it left behind. -/
structure Episode where
  action : Action
  reply : Reply
  after : Router

/-- Whether a request was refused, whatever the reason. -/
def Episode.isRefused (episode : Episode) : Bool :=
  episode.action.isRequest && episode.reply ≠ .outcome .applied

namespace Router

/-- A visit told action by action. How the router reacts says whether what is due happens by
itself after every action or only when time passes. -/
def story (react : Router → Action → Router × Reply) (router : Router) : List Action → List Episode
  | [] => []
  | action :: rest =>
    let (later, reply) := react router action
    ⟨action, reply, later⟩ :: story react later rest

/-- What is left of a visit without its refused requests. -/
def heeded (react : Router → Action → Router × Reply) (router : Router) (actions : List Action) : List Episode :=
  (router.story react actions).filter (!·.isRefused)

/-- A router with nothing overdue: a look at the clock changes nothing. -/
def Punctual (router : Router) : Prop := router.advance 0 = router

variable {router : Router}

theorem Asked.kept {aim : Option String} {later : Router} {reply : Reply} (asked : Asked router aim later reply)
    (refused : reply ≠ .outcome .applied) : later = router :=
  (asked.leaves.resolve_right fun applied => refused applied.1).2

theorem punctual_advance (router : Router) : Punctual (router.advance 0) :=
  router.advance_advance 0 0

theorem Opened.punctual {catalog : Catalog} {page : Page} (opened : Opened catalog page router) : Punctual router := by
  simp [Punctual, advance, opened.fresh.2.2]

theorem punctual_run (now : Punctual router) (actions : List Action) : Punctual (router.run actions) := by
  induction actions generalizing router with
  | nil => exact now
  | cons action rest ih => exact ih (punctual_advance _)

/-- Telling a visit again without its refused requests skips their episodes and changes no other,
nor where the visit ends, as long as a refused request changes nothing. -/
theorem story_heeded {react : Router → Action → Router × Reply} {motive : Router → Prop}
    (keeps : ∀ router action, motive router → motive (react router action).1)
    (refusal : ∀ {router action}, motive router → action.isRequest = true →
      (react router action).2 ≠ .outcome .applied → (react router action).1 = router)
    (now : motive router) (actions : List Action) :
    let without := (router.heeded react actions).map (·.action)
    router.story react without = router.heeded react actions ∧
      without.foldl (fun router action => (react router action).1) router =
        actions.foldl (fun router action => (react router action).1) router := by
  intro without
  induction actions generalizing router with
  | nil => exact ⟨rfl, rfl⟩
  | cons action rest ih =>
    let episode : Episode := ⟨action, (react router action).2, (react router action).1⟩
    obtain ⟨told, ended⟩ := ih (keeps router action now)
    by_cases refused : episode.isRefused = true
    · have skipped : router.heeded react (action :: rest) = (react router action).1.heeded react rest :=
        List.filter_cons_of_neg (by simpa using refused)
      have ⟨request, ignored⟩ : action.isRequest = true ∧ (react router action).2 ≠ .outcome .applied := by
        simpa [Episode.isRefused, episode] using refused
      have same := refusal now request ignored
      rw [same] at told ended skipped
      simp only [without, skipped, List.foldl_cons, same]
      exact ⟨told, ended⟩
    · have kept : router.heeded react (action :: rest) = episode :: (react router action).1.heeded react rest :=
        List.filter_cons_of_pos (by simpa using refused)
      simp only [without, kept, List.map_cons, story, List.foldl_cons]
      exact ⟨congrArg (episode :: ·) told, ended⟩

/-- Whatever is asked of a router, anywhere in a visit, either is applied or leaves the router as
it was: the place, the whole page, the pending arrival with its wait and what it would go back to,
and the log. So a visit may go on without its refused requests: every other reply, every router
on the way and the router at its end stay the same, whether what is due happens by itself or only
when time passes. -/
theorem refused_request_is_invisible {catalog : Catalog} {page : Page} {opening : Router}
    (opened : Opened catalog page opening) (before : List Action) :
    (∀ action : Action, action.isRequest = true →
      ((opening.play before).perform action).2 ≠ .outcome .applied →
      ((opening.play before).perform action).1 = opening.play before) ∧
    (∀ threshold start finish, ((opening.play before).touch threshold start finish).2 ≠ some .applied →
      ((opening.play before).touch threshold start finish).1 = opening.play before) ∧
    (∀ actions : List Action,
      let without := ((opening.play before).heeded perform actions).map (·.action)
      (opening.play before).story perform without = (opening.play before).heeded perform actions ∧
        (opening.play before).play without = (opening.play before).play actions) ∧
    ∀ actions : List Action,
      let without := ((opening.run before).heeded act actions).map (·.action)
      (opening.run before).story act without = (opening.run before).heeded act actions ∧
        (opening.run before).run without = (opening.run before).run actions := by
  have refusal {router : Router} {action : Action} (request : action.isRequest = true)
      (ignored : (router.perform action).2 ≠ .outcome .applied) : (router.perform action).1 = router :=
    (asked_perform request).kept ignored
  refine ⟨fun action => refusal, fun threshold start finish ignored => ?_, ?_, ?_⟩
  · refine (asked_touch threshold start finish).kept fun applied => ignored ?_
    revert applied
    cases (touch _ threshold start finish).2 <;> simp [Reply.ofOutcome?]
  · exact story_heeded (motive := fun _ => True) (fun _ _ _ => trivial) (fun _ => refusal) trivial
  · refine story_heeded (motive := Punctual) (fun _ _ _ => punctual_advance _) ?_ (punctual_run opened.punctual before)
    intro router action punctual request ignored
    change (router.perform action).1.advance 0 = router
    rw [refusal request ignored, punctual]

/-- While the start is under way, a walk finds no element, a menu names nobody's section, a key is
not bound and a touch goes nowhere. The start arrives as if none of it had been tried. -/
theorem refused_request_is_invisible_under_way :
    let opening := (atHome .sample (Page.ofCatalog .sample)).withDelay 7
    let here := opening.play [.start, .advance 3, .page (.removeSection "skills")]
    let refused : List Action :=
      [.walk .next, .navigate "nowhere" (some .dropdown), .press "Tab", .touch ⟨0, 0⟩ ⟨0, 0⟩, .press "End"]
    let without := (here.heeded perform (refused ++ [.advance 4])).map (·.action)
    Opened .sample (Page.ofCatalog .sample) opening ∧ here.pending.map (·.wait) = some 4 ∧
      (here.story perform refused).map (·.reply) =
        [.outcome .missingElement, .outcome .unknownTarget, .nothing, .nothing, .outcome .missingElement] ∧
      (∀ action ∈ refused, (here.perform action).1 = here) ∧
      without.length = 1 ∧ here.play without = here.play (refused ++ [.advance 4]) ∧
      (here.play without).page.active = ["overview"] := by
  intro opening here refused without
  have opened : Opened .sample (Page.ofCatalog .sample) opening := .withDelay .atHome 7
  obtain ⟨same, _, told, _⟩ := refused_request_is_invisible opened [.start, .advance 3, .page (.removeSection "skills")]
  have ignored : ∀ action ∈ refused, action.isRequest = true ∧ (here.perform action).2 ≠ .outcome .applied := by
    decide +kernel
  exact ⟨opened, by decide +kernel, by decide +kernel,
    fun action member => same action (ignored action member).1 (ignored action member).2,
    by decide +kernel, (told _).2, by decide +kernel⟩

end Router

end Vitae
