import Vitae.Proofs.Section.Trips

/-! Requests made of two routers at once. The catalog, the place and the elements on the page decide
what a request comes to. Routers that agree on these answer alike, whatever else tells them apart. -/

namespace Vitae.Router

/-- A relation under which routers answer alike: related routers agree on what decides a request,
and stay related when they leave for a section and when a swipe leaves its traces. -/
structure Lockstep (related : Router → Router → Prop) : Prop where
  catalog {first second} (now : related first second) : first.catalog = second.catalog
  place {first second} (now : related first second) : first.place = second.place
  there {first second} (now : related first second) {id : String} (registered : id ∈ second.catalog.sections) :
    first.page.hasSection id = second.page.hasSection id
  depart {first second} (now : related first second) {id : String} (registered : id ∈ second.catalog.sections)
    (there : second.page.hasSection id = true) (source : Option Source) :
    related (first.depart id source) (second.depart id source)
  swiped {first second} (now : related first second) (direction : Direction) :
    related (first.swiped direction) (second.swiped direction)

namespace Lockstep
variable {related : Router → Router → Prop} (lockstep : Lockstep related)
include lockstep

variable {first second : Router} (now : related first second)
include now

theorem navigate (id : String) (source : Option Source) :
    (first.navigate id source).2 = (second.navigate id source).2 ∧
    related (first.navigate id source).1 (second.navigate id source).1 := by
  unfold Router.navigate
  rw [lockstep.catalog now]
  by_cases known : second.catalog.contains id = true
  · have registered := second.catalog.contains_iff.mp known
    rw [if_pos known, if_pos known, lockstep.there now registered]
    by_cases there : second.page.hasSection id = true
    · rw [if_pos there, if_pos there]
      exact ⟨rfl, lockstep.depart now registered there source⟩
    · rw [if_neg there, if_neg there]
      exact ⟨rfl, now⟩
  · rw [if_neg known, if_neg known]
    exact ⟨rfl, now⟩

theorem walk (direction : Direction) :
    (first.walk direction).2 = (second.walk direction).2 ∧
    related (first.walk direction).1 (second.walk direction).1 := by
  unfold Router.walk
  rw [lockstep.catalog now, lockstep.place now]
  cases second.catalog.step? second.place.index direction with
  | none => exact ⟨rfl, now⟩
  | some index =>
    cases found : second.catalog.sectionAt? index with
    | none => simpa [found] using now
    | some target =>
      simp only [found]
      obtain ⟨same, moved⟩ := lockstep.navigate now target none
      revert same moved
      generalize first.navigate target none = here
      generalize second.navigate target none = there
      obtain ⟨here, outcome⟩ := here
      obtain ⟨there, other⟩ := there
      rintro rfl moved
      cases outcome with
      | applied => exact ⟨rfl, lockstep.swiped moved direction⟩
      | unknownTarget | missingElement => exact ⟨rfl, moved⟩

theorem press (key : String) :
    (first.press key).2 = (second.press key).2 ∧ related (first.press key).1 (second.press key).1 := by
  have follow (target : String) := lockstep.navigate now target none
  unfold Router.press
  rw [lockstep.catalog now]
  cases KeyRoute.ofKey? key with
  | none => exact ⟨rfl, now⟩
  | some route =>
    cases route with
    | relative direction =>
      obtain ⟨same, moved⟩ := lockstep.walk now direction
      exact ⟨congrArg some same, moved⟩
    | first =>
      cases second.catalog.order.head? with
      | none => exact ⟨rfl, now⟩
      | some target => exact ⟨congrArg some (follow target).1, (follow target).2⟩
    | last =>
      cases second.catalog.order.getLast? with
      | none => exact ⟨rfl, now⟩
      | some target => exact ⟨congrArg some (follow target).1, (follow target).2⟩

theorem touch (threshold : Float) (start finish : TouchPoint) :
    (first.touch threshold start finish).2 = (second.touch threshold start finish).2 ∧
    related (first.touch threshold start finish).1 (second.touch threshold start finish).1 := by
  unfold Router.touch
  cases classify threshold start finish with
  | none => exact ⟨rfl, now⟩
  | some direction =>
    obtain ⟨same, moved⟩ := lockstep.walk now direction
    exact ⟨congrArg some same, moved⟩

theorem perform {action : Action} (request : action.isRequest = true) :
    (first.perform action).2 = (second.perform action).2 ∧
    related (first.perform action).1 (second.perform action).1 := by
  cases action with
  | start =>
    obtain ⟨same, moved⟩ := lockstep.navigate now second.place.active none
    simp only [Router.perform, Router.start, lockstep.place now]
    exact ⟨congrArg Reply.outcome same, moved⟩
  | navigate id source =>
    obtain ⟨same, moved⟩ := lockstep.navigate now id source
    exact ⟨congrArg Reply.outcome same, moved⟩
  | walk direction =>
    obtain ⟨same, moved⟩ := lockstep.walk now direction
    exact ⟨congrArg Reply.outcome same, moved⟩
  | press key =>
    obtain ⟨same, moved⟩ := lockstep.press now key
    exact ⟨congrArg Reply.ofOutcome? same, moved⟩
  | touch start finish threshold =>
    obtain ⟨same, moved⟩ := lockstep.touch now threshold start finish
    exact ⟨congrArg Reply.ofOutcome? same, moved⟩
  | settle | advance | page | close => cases request

end Lockstep

end Vitae.Router
