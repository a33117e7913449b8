import Vitae.Proofs.Section.Visit

/-! Steps that wake up after they were superseded. Applied navigations are numbered in their order, so
what is pending has the router's own number and what was superseded has a lower one. Of all steps that
can still wake up the pending one alone does anything, and a visit goes as if no other ever did. -/

namespace Vitae

def Happening.action? : Happening → Option Action
  | .action done => some done
  | .late _ => none

/-- What happens in a visit beside the steps that wake up late. -/
def Happening.actions (happenings : List Happening) : List Action :=
  happenings.filterMap Happening.action?

namespace Router

/-- What is pending belongs to the last navigation that was applied. -/
def Current (router : Router) : Prop :=
  ∀ arrival, router.pending = some arrival → arrival.generation = router.generation

theorem current_of_idle {router : Router} (idle : router.pending = none) : Current router := by
  intro arrival pending
  rw [idle] at pending
  cases pending

theorem current_depart (router : Router) (id : String) (source : Option Source) : Current (router.depart id source) := by
  intro arrival pending
  cases pending
  rfl

/-- A router that can tell its own step from those it superseded. -/
structure Numbered (router : Router) : Prop where
  current : Current router
  outrun : ∀ step ∈ router.superseded, step.generation < router.generation

theorem Opened.numbered {catalog : Catalog} {page : Page} {router : Router} (opened : Opened catalog page router) :
    Numbered router := by
  refine ⟨current_of_idle opened.fresh.2.2, fun step member => ?_⟩
  rw [opened.unnumbered.2] at member
  cases member

/-- Departing takes the next number, which leaves the step that was pending behind as well. -/
private theorem Numbered.depart {router : Router} (numbered : Numbered router) (id : String) (source : Option Source) :
    Numbered (router.depart id source) := by
  refine ⟨router.current_depart id source, fun step member => ?_⟩
  change step.generation < router.generation + 1
  rcases List.mem_append.mp member with before | replaced
  · exact Nat.lt_succ_of_lt (numbered.outrun step before)
  · obtain ⟨arrival, pending, rfl⟩ := List.mem_map.mp replaced
    rw [numbered.current arrival (Option.mem_toList.mp pending)]
    exact Nat.lt_succ_self _

theorem Effect.current {router later : Router} {action : Action} {reply : Reply} (current : Current router)
    (effect : Effect router action later reply) : Current later := by
  cases effect with
  | kept | handled => exact current
  | departed => exact router.current_depart _ _
  | @walked _ id => exact router.current_depart id none
  | @waited _ arrival _ awaited =>
    intro _ pending
    cases pending
    exact current arrival awaited
  | arrived => exact current_of_idle (pending_arrive _)
  | lapsed | closed => exact current_of_idle rfl

theorem Effect.numbered {router later : Router} {action : Action} {reply : Reply} (numbered : Numbered router)
    (effect : Effect router action later reply) : Numbered later := by
  refine ⟨effect.current numbered.current, ?_⟩
  cases effect with
  | kept | waited | lapsed | handled | closed => exact numbered.outrun
  | departed => exact (numbered.depart _ _).outrun
  | @walked _ id => exact (numbered.depart id none).outrun
  | arrived => simpa using numbered.outrun

namespace Numbered
variable {router : Router} (numbered : Numbered router)
include numbered

theorem perform (action : Action) : Numbered (router.perform action).1 :=
  (effect_perform action).numbered numbered

theorem play (actions : List Action) : Numbered (router.play actions) :=
  play_invariant Effect.numbered numbered actions

theorem wake_superseded {step : Step} (member : step ∈ router.superseded) : router.wake step = router :=
  router.wake_of_stale (Nat.ne_of_lt (numbered.outrun step member))

theorem late_eq (number : Nat) : router.late number = router := by
  unfold late
  cases found : router.superseded[number]? with
  | none => rfl
  | some step => exact numbered.wake_superseded (List.mem_of_getElem? found)

/-- Late steps leave no trace in a visit, however many of them wake up and whenever they do. -/
theorem undergo_eq_play (happenings : List Happening) :
    router.undergo happenings = router.play (Happening.actions happenings) := by
  induction happenings generalizing router with
  | nil => rfl
  | cons happening rest ih =>
    cases happening with
    | action action => exact ih (numbered.perform action)
    | late number =>
      change (router.late number).undergo rest = _
      rw [numbered.late_eq]
      exact ih numbered

end Numbered

end Router

end Vitae
