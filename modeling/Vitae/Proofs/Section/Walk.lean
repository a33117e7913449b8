import Vitae.Proofs.Section.Coherence
import Vitae.Proofs.Section.Presence
import Vitae.Proofs.Section.Refusal
import Vitae.Proofs.Section.Reporting

/-! Walking through the ordered sections, with time passing between the steps. Where a tour ends is
a matter of counting its steps on the ring, whatever section it starts from: while an informational
section is showing, the position it was reached from is where the next step begins, and going back
from one that has vanished leads to that same position. -/

namespace Vitae

def Action.direction? : Action → Option Direction
  | .walk direction => some direction
  | _ => none

/-- The actions of a tour: steps, and the time between them. -/
def Action.isTour (action : Action) : Bool :=
  action.isWait || action.direction?.isSome

namespace Router

/-- Something pending leads from the place it would go back to to where the router is. -/
def Headed (router : Router) : Prop :=
  ∀ arrival, router.pending = some arrival →
    router.place = placeOf { router with place := arrival.before } arrival.target

theorem Effect.headed {router later : Router} {action : Action} {reply : Reply} (headed : Headed router)
    (effect : Effect router action later reply) : Headed later := by
  intro arrival pending
  cases effect with
  | kept | handled => exact headed arrival pending
  | departed | walked =>
    cases pending
    rfl
  | @waited _ before _ awaited =>
    cases pending
    exact headed before awaited
  | arrived => simp at pending
  | lapsed | closed => cases pending

/-- A router that can be taken on a tour. -/
structure Touring (catalog : Catalog) (router : Router) : Prop where
  oriented : Oriented catalog router
  headed : Headed router
  present : ∀ id ∈ catalog.order, router.page.hasSection id = true

/-- What a stretch of a tour comes to. The section shown is an ordered one from the first step on. -/
structure Stretch (catalog : Catalog) (router later : Router) (steps : List Direction) : Prop where
  index : (later.place.index : Int) = (router.place.index + Direction.distance steps) % catalog.order.length
  ordered : steps ≠ [] ∨ router.place.active ∈ catalog.order → later.place.active ∈ catalog.order
  animations : later.page.animations = router.page.animations ++ steps
  haptics : later.page.haptics = router.page.haptics.map (· ++ List.replicate steps.length pulseLength)

theorem Stretch.trans {catalog : Catalog} {first second third : Router} {steps more : List Direction}
    (before : Stretch catalog first second steps) (after : Stretch catalog second third more) :
    Stretch catalog first third (steps ++ more) := by
  refine ⟨?_, fun started => ?_, ?_, ?_⟩
  · rw [after.index, before.index, Int.emod_add_emod]
    rw [Direction.distance_append, Int.add_assoc]
  · apply after.ordered
    by_cases none : more = []
    · subst none
      exact Or.inr (before.ordered (by simpa using started))
    · exact Or.inl none
  · rw [after.animations, before.animations, List.append_assoc]
  · rw [after.haptics, before.haptics, Option.map_map, List.length_append, ← List.replicate_append_replicate]
    cases first.page.haptics <;> simp

variable {catalog : Catalog} {router : Router}

private theorem Stretch.of_still (inside : router.place.index < catalog.order.length) {later : Router}
    (index : later.place.index = router.place.index)
    (ordered : router.place.active ∈ catalog.order → later.place.active ∈ catalog.order)
    (animations : later.page.animations = router.page.animations) (haptics : later.page.haptics = router.page.haptics) :
    Stretch catalog router later [] := by
  refine ⟨?_, ?_, ?_, ?_⟩
  · have below : (router.place.index : Int) < catalog.order.length := by omega
    rw [index, Direction.distance, Int.add_zero]
    exact (Int.emod_eq_of_lt (by omega) below).symm
  · simpa using ordered
  · simpa using animations
  · simpa using haptics

/-- An arrival leaves the position alone even if it goes back: only an informational section can be
missing, and leaving for one had not moved it. -/
private theorem Touring.arrive (touring : Touring catalog router) {arrival : Arrival}
    (awaited : router.pending = some arrival) :
    (router.arrive arrival).place.index = router.place.index ∧
    (router.place.active ∈ catalog.order → (router.arrive arrival).place = router.place) := by
  have came := touring.headed arrival awaited
  by_cases current : arrival.generation = router.generation
  case neg =>
    rw [arrive_of_stale _ current]
    exact ⟨rfl, fun _ => rfl⟩
  cases there : router.page.hasSection arrival.target with
  | true => simp [place_arrive, current, there]
  | false =>
    have informational : arrival.target ∉ router.catalog.order := by
      rw [touring.oriented.same]
      intro ordered
      simp [touring.present arrival.target ordered] at there
    have nowhere := router.catalog.position?_eq_none_iff.mpr informational
    refine ⟨?_, fun ordered => ?_⟩
    · rw [place_arrive _ current, came]
      simp [there, placeOf, nowhere]
    · rw [came, ← touring.oriented.same] at ordered
      exact absurd ordered informational

theorem Touring.wait (touring : Touring catalog router) {action : Action} (waiting : action.isWait = true) :
    Stretch catalog router (router.perform action).1 [] := by
  have inside := touring.oriented.here.inside
  have still : Stretch catalog router router [] := .of_still inside rfl id rfl rfl
  have routed : action.isRouted = true := by
    cases action with
    | settle | advance => rfl
    | _ => cases waiting
  have ignored : (router.perform action).2 ≠ .outcome .applied := by
    cases action with
    | settle | advance => simp [perform]
    | _ => cases waiting
  rcases (effect_perform action).quiet routed ignored with same | ⟨arrival, awaited, ⟨wait, later⟩ | arrived⟩
  · rwa [same]
  · rw [later]
    exact .of_still inside rfl id rfl rfl
  · rw [arrived]
    obtain ⟨index, place⟩ := touring.arrive awaited
    refine .of_still inside index (fun ordered => ?_) ?_ ?_
    · rwa [place ordered]
    · rw [arrive_eq]
    · rw [arrive_eq]

/-- From anywhere on a tour a step is applied, and leads to the section at the next position. -/
theorem Touring.walk (touring : Touring catalog router) (valid : catalog.Valid) (fits : catalog.order.length ≤ 2 ^ 63)
    (direction : Direction) :
    (router.walk direction).2 = .applied ∧ Stretch catalog router (router.walk direction).1 [direction] := by
  obtain ⟨⟨rfl, here, _⟩, _, present⟩ := touring
  obtain ⟨next, stepped, inside, place⟩ := router.catalog.step?_inside fits here.inside direction
  obtain ⟨target, ordered, found⟩ := router.catalog.sectionAt?_of_lt inside
  have known := router.catalog.contains_iff.mpr (router.catalog.mem_sections_of_mem_order ordered)
  have seat := (router.catalog.position?_eq_some_iff valid.distinct).mpr found
  have walked : router.walk direction = ((router.depart target none).swiped direction, .applied) := by
    simp [Router.walk, stepped, found, navigate, known, present target ordered]
  rw [walked]
  refine ⟨rfl, ?_, fun _ => ordered, rfl, rfl⟩
  simpa [swiped, depart, placeOf, seat, Direction.distance] using place

theorem Touring.perform (touring : Touring catalog router) (valid : catalog.Valid) (fits : catalog.order.length ≤ 2 ^ 63)
    {action : Action} (tour : action.isTour = true) :
    Touring catalog (router.perform action).1 ∧
    (action.direction?.isSome → (router.perform action).2 = .outcome .applied) ∧
    Stretch catalog router (router.perform action).1 action.direction?.toList := by
  have still (routed : action.isRouted = true) : Touring catalog (router.perform action).1 := by
    refine ⟨(effect_perform action).oriented touring.oriented, (effect_perform action).headed touring.headed, ?_⟩
    intro id ordered
    rw [Page.hasSection_iff, (effect_perform action).elements_eq routed, ← Page.hasSection_iff]
    exact touring.present id ordered
  cases action with
  | walk direction =>
    obtain ⟨applied, stretch⟩ := touring.walk valid fits direction
    exact ⟨still rfl, fun _ => congrArg Reply.outcome applied, stretch⟩
  | settle | advance => exact ⟨still rfl, fun walks => (nomatch walks), touring.wait rfl⟩
  | _ => cases tour

theorem Touring.play (touring : Touring catalog router) (valid : catalog.Valid) (fits : catalog.order.length ≤ 2 ^ 63)
    {tour : List Action} (allowed : ∀ action ∈ tour, action.isTour = true) :
    (∀ episode ∈ router.story Router.perform tour, episode.action.direction?.isSome →
      episode.reply = .outcome .applied) ∧
    Stretch catalog router (router.play tour) (tour.filterMap Action.direction?) := by
  induction tour generalizing router with
  | nil =>
    refine ⟨?_, .of_still touring.oriented.here.inside rfl id rfl rfl⟩
    intro episode member
    cases member
  | cons action rest ih =>
    obtain ⟨still, applied, first⟩ := touring.perform valid fits (allowed action List.mem_cons_self)
    obtain ⟨replies, later⟩ := ih still fun other member => allowed other (List.mem_cons_of_mem _ member)
    refine ⟨?_, ?_⟩
    · intro episode member
      rcases List.mem_cons.mp member with rfl | after
      · exact applied
      · exact replies episode after
    · have steps : (action :: rest).filterMap Action.direction? = action.direction?.toList ++ rest.filterMap Action.direction? := by
        cases found : action.direction? <;> simp [found]
      rw [steps]
      exact first.trans later

/-- A tour may begin anywhere in a visit, as long as no ordered section lacks its element then, and
no list in memory has more than 2 ^ 63 elements. Each of its steps is applied, and the position in
the end is the one counted out on the ring of the ordered sections; after any step the section at
that position is where the router is. The page shows the traces of every step, in order, with a
pulse for each if there is a motor, and no others. So as many steps as there are sections lead round
to the position they began at, and a step back takes back a step on. -/
theorem tour_goes_round {catalog : Catalog} (valid : catalog.Valid) (fits : catalog.order.length ≤ 2 ^ 63)
    {page : Page} {router : Router} (opened : Opened catalog page router) {actions : List Action} {here : Router}
    (reached : router.play actions = here) (present : ∀ id ∈ catalog.order, here.page.hasSection id = true)
    {tour : List Action} (allowed : ∀ action ∈ tour, action.isTour = true) {steps : List Direction}
    (taken : tour.filterMap Action.direction? = steps) :
    (∀ episode ∈ here.story perform tour, episode.action.direction?.isSome → episode.reply = .outcome .applied) ∧
    ((here.play tour).place.index : Int) =
      (here.place.index + steps.count .next - steps.count .previous) % catalog.order.length ∧
    (steps ≠ [] → catalog.sectionAt? (here.play tour).place.index = some (here.play tour).place.active) ∧
    (here.play tour).page.animations = here.page.animations ++ steps ∧
    (here.play tour).page.supportsHaptics = here.page.supportsHaptics ∧
    (here.play tour).page.pulses =
      here.page.pulses ++ List.replicate (if here.page.supportsHaptics then steps.length else 0) pulseLength ∧
    (steps = List.replicate catalog.order.length .next → (here.play tour).place.index = here.place.index) ∧
    (steps = [.next, .previous] → (here.play tour).place.index = here.place.index) := by
  subst reached taken
  have touring : Touring catalog (router.play actions) := by
    refine ⟨opened.play_oriented valid actions, play_invariant Effect.headed ?_ actions, present⟩
    exact fun arrival pending => absurd pending (opened.not_awaited arrival)
  have inside := touring.oriented.here.inside
  have there := (opened.play_oriented valid (actions ++ tour)).here
  rw [play_append] at there
  obtain ⟨replies, index, ordered, animations, haptics⟩ := touring.play valid fits allowed
  rw [Direction.distance_eq] at index
  refine ⟨replies, by rw [index]; congr 1; omega, fun started => ?_, animations, ?_, ?_, fun round => ?_, fun back => ?_⟩
  · have seat := there.seated (ordered (Or.inl started))
    exact (catalog.position?_eq_some_iff valid.distinct).mp seat
  · simp [Page.supportsHaptics, haptics]
  · cases motor : (router.play actions).page.haptics <;> simp [Page.pulses, Page.supportsHaptics, haptics, motor]
  · have whole : (((router.play actions).play tour).place.index : Int) =
        ((router.play actions).place.index + catalog.order.length) % catalog.order.length := by
      rw [index, round]
      simp [List.count_replicate]
    rw [Int.add_emod_right, Int.emod_eq_of_lt (by omega) (by omega)] at whole
    omega
  · have none : (((router.play actions).play tour).place.index : Int) =
        (router.play actions).place.index % catalog.order.length := by
      rw [index, back]
      simp
    rw [Int.emod_eq_of_lt (by omega) (by omega)] at none
    omega

/-- A tour begins at an informational section that is on its way, and whose element has gone: the way
back from it happens in the middle. -/
theorem tour_goes_round_after_detour :
    let router := (placedAt .sample (Page.ofCatalog .sample).withHaptics "skills").withDelay 7
    let actions : List Action := [.start, .navigate "changelog" none, .page (.removeSection "changelog")]
    let here := router.play actions
    let tour : List Action := [.advance 9, .walk .next, .walk .next, .settle, .walk .previous, .walk .previous, .walk .previous]
    let steps : List Direction := [.next, .next, .previous, .previous, .previous]
    Catalog.sample.Valid ∧ (∀ id ∈ Catalog.sample.order, here.page.hasSection id = true) ∧
      here.place = { index := 1, active := "changelog" } ∧ (here.play [.advance 9]).place = { index := 1, active := "skills" } ∧
      ((here.play tour).place.index : Int) = (1 + steps.count .next - steps.count .previous) % Catalog.sample.order.length ∧
      (here.play tour).place.index = 0 ∧
      Catalog.sample.sectionAt? (here.play tour).place.index = some (here.play tour).place.active ∧
      (here.play tour).page.animations = steps ∧ (here.play tour).page.pulses = List.replicate 5 pulseLength := by
  intro router actions here tour steps
  have valid : Catalog.sample.Valid := @Catalog.valid_of_build _ ["overview", "skills"] ["changelog"] none rfl
  have opened : Opened .sample (Page.ofCatalog .sample).withHaptics router :=
    .withDelay (@Opened.startingAt _ _ "skills" _ rfl) 7
  have present : ∀ id ∈ Catalog.sample.order, here.page.hasSection id = true := by decide +kernel
  have place : here.place = { index := 1, active := "changelog" } := by decide +kernel
  have traces : here.page.animations = [] ∧ here.page.pulses = [] ∧ here.page.supportsHaptics = true := by decide +kernel
  have allowed : ∀ action ∈ tour, action.isTour = true := by decide
  have taken : tour.filterMap Action.direction? = steps := rfl
  obtain ⟨_, index, seated, animations, _, pulses, _⟩ :=
    tour_goes_round valid (by decide) opened (show router.play actions = here from rfl) present allowed taken
  rw [traces.1] at animations
  rw [traces.2.1, traces.2.2] at pulses
  rw [place] at index
  exact ⟨valid, present, place, by decide +kernel, index, by decide +kernel, seated (by decide), animations, pulses⟩

end Router

end Vitae
