import Vitae.Proofs.Section.Presence
import Vitae.Proofs.Section.Reporting
import Vitae.Proofs.Section.Visibility

/-! Navigations that follow one another on a page whose sections stay as they are. The last one
wins: once nothing is pending its target alone is visible, whatever was superseded on the way.
What was superseded does nothing even if it wakes up, and a burst of navigations scrolls once. -/

namespace Vitae
open Std

/-- The commands that leave alone which sections there are, which are shown and where the page
is scrolled to. -/
def Page.Command.sparesSections : Page.Command → Bool
  | .addSection _ | .removeSection _ | .deactivateAll | .activate _ | .scrollToTop => false
  | _ => true

/-- What may happen while the router alone shows sections and scrolls. -/
def Action.sparesSections : Action → Bool
  | .page command => command.sparesSections
  | .close => false
  | _ => true

/-- The actions that let no time pass. -/
def Action.isInstant : Action → Bool
  | .settle => false
  | .advance ms => ms = 0
  | _ => true

theorem Page.handle_of_spared (page : Page) {command : Page.Command} (spared : command.sparesSections = true) :
    (page.handle command).1.elements = page.elements ∧ (page.handle command).1.shown = page.shown ∧
      (page.handle command).1.scrollResets = page.scrollResets := by
  cases command with
  | addSection | removeSection | deactivateAll | activate | scrollToTop => cases spared
  | highlight link =>
    change (page.highlight link).1.elements = _ ∧ (page.highlight link).1.shown = _ ∧ (page.highlight link).1.scrollResets = _
    rw [page.highlight_eq]
    exact ⟨rfl, rfl, rfl⟩
  | _ => exact ⟨rfl, rfl, rfl⟩

namespace Action
variable {action : Action}

theorem shows_of_spared (spared : action.sparesSections = true) : action.shows = false := by
  cases action with
  | page command => cases command <;> first | rfl | cases spared
  | _ => rfl

theorem scrolls_of_spared (spared : action.sparesSections = true) : action.scrolls = false := by
  cases action with
  | page command => cases command <;> first | rfl | cases spared
  | _ => rfl

theorem closes_of_spared (spared : action.sparesSections = true) : action.closes = false := by
  cases action with
  | close => cases spared
  | _ => rfl

end Action

namespace Router

/-- A router on a page that lacks nothing and shows nothing but where the router is. -/
structure Undisturbed (router : Router) : Prop where
  numbered : Numbered router
  whole : Whole router
  mirrors : Mirrors router

/-- Whether a router that has nothing pending shows where it is. -/
def Settled (router : Router) : Prop := router.pending = none → router.place.active ∈ router.page.shown

theorem Undisturbed.perform {router : Router} (undisturbed : Undisturbed router) {action : Action}
    (spared : action.sparesSections = true) : Undisturbed (router.perform action).1 := by
  refine ⟨undisturbed.numbered.perform action, ?_,
    (effect_perform action).mirrors undisturbed.mirrors (Action.shows_of_spared spared)⟩
  have whole := undisturbed.whole
  cases action with
  | page command =>
    obtain ⟨elements, _⟩ := router.page.handle_of_spared spared
    refine ⟨fun id member => ?_, whole.expected⟩
    change id ∈ (router.page.handle command).1.elements
    rw [elements]
    exact whole.present id member
  | close => cases spared
  | _ => exact (effect_perform _).whole whole rfl

/-- An applied navigation moves the router to its target, which its arrival will show. Anything
else leaves the router where it is, and what an arrival shows is where the router is. -/
theorem Course.settles {router later : Router} {action : Action} {reply : Reply} {destination : Option String}
    {trip : Option Trip} (course : Course router action later reply destination trip)
    (undisturbed : Undisturbed router) (spared : action.sparesSections = true) :
    later.place.active = destination.getD router.place.active ∧
    (destination.isSome ∨ Settled router → Settled later) := by
  cases course with
  | ignored => exact ⟨rfl, fun settled => settled.resolve_left (by simp)⟩
  | left _ leaves =>
    refine ⟨by rw [leaves.place]; rfl, fun _ idle => ?_⟩
    rw [leaves.pending] at idle
    cases idle
  | waited => exact ⟨rfl, fun _ idle => nomatch idle⟩
  | @arrived _ arrival _ awaited current =>
    have place := undisturbed.whole.place_arrive awaited
    have there := undisturbed.whole.there (undisturbed.whole.expected arrival awaited)
    -- The arrival shows its target, which is where the router has been since it left.
    refine ⟨congrArg Place.active place, fun _ _ => ?_⟩
    rw [place, mem_shown_arrive _ current, if_pos there, ← undisturbed.mirrors.awaited arrival awaited]
    exact Or.inr ⟨router.page.hasSection_iff.mp there, rfl⟩
  | @handled command =>
    obtain ⟨_, shown, _⟩ := router.page.handle_of_spared spared
    refine ⟨rfl, fun settled idle => ?_⟩
    change _ ∈ (router.page.handle command).1.shown
    rw [shown]
    exact settled.resolve_left (by simp) idle
  | closed => cases spared

theorem play_settles {router : Router} (undisturbed : Undisturbed router) {actions : List Action}
    (spared : ∀ action ∈ actions, action.sparesSections = true) :
    Undisturbed (router.play actions) ∧
    (router.play actions).place.active = (router.destinations actions).getLast?.getD router.place.active ∧
    (router.destinations actions ≠ [] ∨ Settled router → Settled (router.play actions)) := by
  induction actions generalizing router with
  | nil => exact ⟨undisturbed, rfl, fun settled => settled.resolve_left (absurd rfl)⟩
  | cons action rest ih =>
    have here := spared action List.mem_cons_self
    obtain ⟨still, place, settles⟩ :=
      ih (undisturbed.perform here) fun other member => spared other (List.mem_cons_of_mem _ member)
    obtain ⟨stepped, settled⟩ := (course_perform undisturbed.numbered action).settles undisturbed here
    refine ⟨still, ?_, fun reached => settles ?_⟩
    · change ((router.perform action).1.play rest).place.active = _
      rw [place, stepped, destinations]
      cases router.destination? action <;> simp [List.getLast?_cons]
    · rw [destinations] at reached
      cases somewhere : router.destination? action with
      | none =>
        rw [somewhere] at reached
        exact reached.imp id fun before => settled (Or.inr before)
      | some _ => exact Or.inr (settled (Or.inl (by simp [somewhere])))

/-- A router whose arrivals are never due at once. -/
structure Patient (router : Router) : Prop where
  delay : 0 < router.delay
  wait : ∀ arrival, router.pending = some arrival → 0 < arrival.wait

theorem Effect.patient {router later : Router} {action : Action} {reply : Reply} (patient : Patient router)
    (effect : Effect router action later reply) : Patient later := by
  cases effect with
  | kept => exact patient
  | handled => exact ⟨patient.delay, patient.wait⟩
  | departed | walked =>
    refine ⟨patient.delay, fun _ pending => ?_⟩
    cases pending
    exact patient.delay
  | waited _ early =>
    refine ⟨patient.delay, fun _ pending => ?_⟩
    cases pending
    exact Nat.sub_pos_of_lt early
  | arrived => exact ⟨by simpa using patient.delay, fun _ pending => by simp at pending⟩
  | lapsed | closed => exact ⟨patient.delay, fun _ pending => nomatch pending⟩

theorem Patient.concluded_superseded {router : Router} (patient : Patient router) (numbered : Numbered router)
    {burst : List Action}
    (instant : ∀ action ∈ burst, action.sparesSections = true ∧ action.isInstant = true) {ended : Trip}
    (member : ended ∈ router.concluded burst) : ended.fate = .superseded := by
  induction burst generalizing router with
  | nil => cases member
  | cons action rest ih =>
    rw [concluded, List.mem_append] at member
    rcases member with now | later
    · obtain ⟨spared, timeless⟩ := instant action List.mem_cons_self
      have found := Option.mem_toList.mp now
      have wait := patient.wait _ (pending_of_concluded? found)
      have course := course_perform numbered action
      rw [found] at course
      have fate := course.fate
      cases how : ended.fate with
      | superseded => rfl
      | awaited => simp [how] at fate
      | cancelled =>
        simp only [how] at fate
        subst fate
        cases spared
      | happened =>
        simp only [how] at fate
        rcases fate with rfl | ⟨ms, rfl, due⟩
        · cases timeless
        · have none : ms = 0 := by simpa [Action.isInstant] using timeless
          omega
    · have still := (effect_perform action).patient patient
      exact ih still (numbered.perform action) (fun other inside => instant other (List.mem_cons_of_mem _ inside)) later

theorem happened_once {router : Router} (numbered : Numbered router) (awaited : router.pending.isSome) {rest : List Action}
    (spared : ∀ action ∈ rest, action.sparesSections = true) (ignored : router.destinations rest = [])
    (finished : (router.play rest).pending = none) : (router.concluded rest).countP Trip.isOver = 1 := by
  obtain ⟨arrival, pending⟩ := Option.isSome_iff_exists.mp awaited
  have targets := congrArg List.length (targets_trips numbered rest)
  have one : (router.concluded rest).length = 1 := by
    simpa [trips, awaitedTrip?, finished, pending, ignored] using targets
  rw [← one, List.countP_eq_length]
  intro ended member
  obtain ⟨waiting, cancelled, superseded⟩ := mem_concluded numbered member
  unfold Trip.isOver
  cases how : ended.fate with
  | happened => rfl
  | awaited => exact absurd how waiting
  | superseded => exact absurd ignored (superseded how)
  | cancelled =>
    obtain ⟨action, inside, closes⟩ := cancelled how
    simp [Action.closes_of_spared (spared action inside)] at closes

theorem countP_scrolls_of_spared {actions : List Action} (spared : ∀ action ∈ actions, action.sparesSections = true) :
    actions.countP Action.scrolls = 0 := by
  rw [List.countP_eq_zero]
  intro action member
  simp [Action.scrolls_of_spared (spared action member)]

/-- However many navigations follow one another without any time between them, their page is
scrolled once when all is over. -/
theorem Patient.burst_scrolls_once {router : Router} (patient : Patient router) (numbered : Numbered router)
    {burst rest : List Action}
    (instant : ∀ action ∈ burst, action.sparesSections = true ∧ action.isInstant = true)
    (applied : router.destinations burst ≠ []) (spared : ∀ action ∈ rest, action.sparesSections = true)
    (ignored : (router.play burst).destinations rest = []) (finished : ((router.play burst).play rest).pending = none) :
    ((router.play burst).play rest).page.scrollResets = router.page.scrollResets + 1 := by
  have superseded (ended : Trip) (member : ended ∈ router.concluded burst) : ended.fate = .superseded :=
    patient.concluded_superseded numbered instant member
  -- The latest trip of the burst is not superseded, so it has not ended.
  have underway : (router.play burst).pending.isSome := by
    rw [Option.isSome_iff_ne_none]
    intro idle
    have ended : router.trips burst = router.concluded burst := by simp [trips, awaitedTrip?, idle]
    have started := trips_ne_nil numbered (Or.inr applied)
    obtain ⟨latest, last⟩ := Option.isSome_iff_exists.mp (List.getLast?_isSome.mpr started)
    have member : latest ∈ router.concluded burst := ended ▸ List.mem_of_getLast? last
    exact latest_not_superseded numbered last (superseded latest member)
  have never : (router.concluded burst).countP Trip.isOver = 0 := by
    rw [List.countP_eq_zero]
    intro ended member
    simp [Trip.isOver, superseded ended member]
  obtain ⟨_, _, first⟩ := told_play numbered burst
  obtain ⟨_, _, second⟩ := told_play (numbered.play burst) rest
  rw [countP_scrolls_of_spared fun action member => (instant action member).1, never] at first
  rw [countP_scrolls_of_spared spared, happened_once (numbered.play burst) underway spared ignored finished] at second
  omega

/-- What an undisturbed router shows: nothing while something is pending, and where it is once nothing
is, which waiting always leads to. -/
theorem Undisturbed.active {router : Router} (undisturbed : Undisturbed router) (settled : Settled router) :
    (router.pending = none → router.page.active = [router.place.active]) ∧
    (router.pending.isSome → router.page.active = []) ∧
    router.settle.page.active = [router.place.active] := by
  refine ⟨fun idle => Page.active_eq_singleton _ (settled idle) undisturbed.mirrors.only, fun pending => ?_, ?_⟩
  · obtain ⟨arrival, awaited⟩ := Option.isSome_iff_exists.mp pending
    exact (Page.active_eq_nil_iff _).mpr (undisturbed.mirrors.hidden arrival awaited)
  · have spared : ∀ action ∈ [Action.settle], action.sparesSections = true := by simp [Action.sparesSections]
    obtain ⟨after, stays, arrives⟩ := play_settles undisturbed spared
    have here : router.settle.place.active = router.place.active := stays
    rw [← here]
    exact Page.active_eq_singleton _ (arrives (Or.inr settled) router.pending_settle) after.mirrors.only

/-- The router has kept the step of a superseded trip, with too low a number for it to do anything. -/
theorem Numbered.wake_of_trip {router : Router} (numbered : Numbered router) {actions : List Action} {trip : Trip}
    (member : trip ∈ router.trips actions) (superseded : trip.fate = .superseded) :
    trip.arrival.generation < (router.play actions).generation ∧
    trip.arrival.toStep ∈ (router.play actions).superseded ∧
    (router.play actions).wake trip.arrival.toStep = router.play actions := by
  have later := numbered.play actions
  have kept : trip.arrival.toStep ∈ (router.play actions).superseded := by
    have counted : trip ∈ (router.trips actions).filter (·.fate = .superseded) := by
      simp [member, superseded]
    rw [superseded_play numbered]
    exact List.mem_append_right _ (List.mem_map_of_mem counted)
  exact ⟨later.outrun _ kept, kept, later.wake_superseded kept⟩

/-- The awaited trip is the pending one, and its step shows its target. -/
theorem Numbered.arrive_of_trip {router : Router} (numbered : Numbered router) {actions : List Action} {trip : Trip}
    (member : trip ∈ router.trips actions) (awaited : trip.fate = .awaited)
    (undisturbed : Undisturbed (router.play actions)) :
    trip.arrival.generation = (router.play actions).generation ∧
    (router.play actions).pending = some trip.arrival ∧
    ((router.play actions).arrive trip.arrival).page.active = [trip.arrival.target] := by
  have pending : (router.play actions).pending = some trip.arrival := by
    rcases List.mem_append.mp member with finished | waiting
    · exact absurd awaited (mem_concluded numbered finished).1
    · obtain ⟨arrival, pending, rfl⟩ := Option.map_eq_some_iff.mp (Option.mem_toList.mp waiting)
      exact pending
  refine ⟨(numbered.play actions).current _ pending, pending, ?_⟩
  have underway : Settled (router.play actions) := by
    intro idle
    rw [pending] at idle
    cases idle
  rw [← settle_of_awaited pending, (undisturbed.active underway).2.2, undisturbed.mirrors.awaited _ pending]

/-- The trips of a visit are numbered from one on, and the router has the number of the latest. -/
theorem Opened.generations {catalog : Catalog} {page : Page} {router : Router} (opened : Opened catalog page router)
    (actions : List Action) :
    (router.play actions).generation = (router.trips actions).length ∧
    (router.trips actions).map (·.arrival.generation) = List.range' 1 (router.trips actions).length := by
  obtain ⟨latest, numbers⟩ := generations_trips opened.numbered actions
  rw [opened.unnumbered.1, Nat.zero_add] at latest
  rw [opened.unnumbered.1, opened.fresh.2.2] at numbers
  have counted : (router.trips actions).length = (router.destinations actions).length := by
    simpa using congrArg List.length numbers
  rw [latest, numbers, counted]
  exact ⟨rfl, rfl⟩

theorem Opened.generation_trip {catalog : Catalog} {page : Page} {router : Router} (opened : Opened catalog page router)
    {actions : List Action} {number : Nat} {trip : Trip} (found : (router.trips actions)[number]? = some trip) :
    trip.arrival.generation = number + 1 := by
  have inside := (List.getElem?_eq_some_iff.mp found).1
  have numbers := congrArg (·[number]?) (opened.generations actions).2
  simp only [List.getElem?_map, found, Option.map_some, List.getElem?_range' inside, Option.some.injEq] at numbers
  omega

theorem Opened.undisturbed {catalog : Catalog} {page : Page} {router : Router} (opened : Opened catalog page router)
    (hidden : page.active = []) (whole : ∀ id ∈ catalog.sections, page.hasSection id = true) : Undisturbed router := by
  refine ⟨opened.numbered, ?_, opened.mirrors hidden⟩
  have unasked := opened.not_awaited
  obtain ⟨rfl, rfl, _⟩ := opened.fresh
  exact ⟨fun id member => router.page.hasSection_iff.mp (whole id member),
    fun arrival pending => absurd pending (unasked arrival)⟩

/-- On a page that begins hidden and lacks no section, let anything happen but that someone else
touches the sections, scrolls or gives the router up, and let superseded steps wake up in between,
whichever and whenever. The router is then where the last applied navigation led. Nothing is visible
while its arrival is pending and that section alone once nothing is, which settling always brings
about. The router has kept the steps of just those trips that were superseded. Each has a lower number
than its own and changes nothing at all when it wakes up, so the visit is the one without any of them;
the step of the awaited trip has the router's number and shows its target. And unless transitions take
no time, any number of navigations with no time between them scrolls the page once, when they are over. -/
theorem last_navigation_wins {catalog : Catalog} {page : Page} {router : Router} (opened : Opened catalog page router)
    (hidden : page.active = []) (whole : ∀ id ∈ catalog.sections, page.hasSection id = true)
    {happenings : List Happening} (spared : ∀ action ∈ Happening.actions happenings, action.sparesSections = true) :
    let actions := Happening.actions happenings
    let now := router.undergo happenings
    (∀ last, (router.destinations actions).getLast? = some last →
      now.place.active = last ∧
      (now.pending = none → now.page.active = [last]) ∧
      (now.pending.isSome → now.page.active = []) ∧
      (router.undergo (happenings ++ [.action .settle])).page.active = [last]) ∧
    (now = router.play actions ∧
      now.generation = (router.trips actions).length ∧
      now.superseded = ((router.trips actions).filter (·.fate = .superseded)).map (·.arrival.toStep) ∧
      (∀ number, now.happen (.late number) = (now, .nothing)) ∧
      ∀ number trip, (router.trips actions)[number]? = some trip →
        trip.arrival.generation = number + 1 ∧
        (trip.fate = .superseded →
          trip.arrival.generation < now.generation ∧ trip.arrival.toStep ∈ now.superseded ∧
          now.wake trip.arrival.toStep = now) ∧
        (trip.fate = .awaited →
          trip.arrival.generation = now.generation ∧ now.pending = some trip.arrival ∧
          (now.arrive trip.arrival).page.active = [trip.arrival.target])) ∧
    ∀ burst rest : List Happening, 0 < router.delay →
      (∀ action ∈ Happening.actions burst, action.sparesSections = true ∧ action.isInstant = true) →
      now.destinations (Happening.actions burst) ≠ [] →
      (∀ action ∈ Happening.actions rest, action.sparesSections = true) →
      (now.undergo burst).destinations (Happening.actions rest) = [] →
      ((now.undergo burst).undergo rest).pending = none →
      ((now.undergo burst).undergo rest).page.scrollResets = now.page.scrollResets + 1 := by
  intro actions now
  have undisturbed := opened.undisturbed hidden whole
  have numbered := undisturbed.numbered
  have same : now = router.play actions := numbered.undergo_eq_play happenings
  obtain ⟨still, place, settles⟩ := play_settles undisturbed spared
  rw [← same] at still place settles
  refine ⟨fun last latest => ?_, ⟨same, ?_, ?_, fun number => ?_, fun number trip found => ?_⟩, ?_⟩
  · have applied : router.destinations actions ≠ [] := by
      rw [← List.getLast?_isSome, latest]
      rfl
    have placed : now.place.active = last := by
      rw [place, latest]
      rfl
    have waited : router.undergo (happenings ++ [.action .settle]) = now.settle := List.foldl_append
    rw [waited, ← placed]
    exact ⟨rfl, still.active (settles (Or.inl applied))⟩
  · rw [same]
    exact (opened.generations actions).1
  · rw [same, superseded_play numbered, opened.unnumbered.2, List.nil_append]
  · exact congrArg (·, Reply.nothing) (still.numbered.late_eq number)
  · have member := List.mem_of_getElem? found
    refine ⟨opened.generation_trip found, fun superseded => ?_, fun awaited => ?_⟩
    · rw [same]
      exact numbered.wake_of_trip member superseded
    · rw [same] at still ⊢
      exact numbered.arrive_of_trip member awaited still
  · intro burst rest delayed instant applied undisturbed ignored finished
    have start : Patient router := ⟨delayed, fun arrival pending => absurd pending (opened.not_awaited arrival)⟩
    have patient : Patient now := same ▸ play_invariant Effect.patient start actions
    have after := still.numbered.play (Happening.actions burst)
    rw [still.numbered.undergo_eq_play] at ignored finished ⊢
    rw [after.undergo_eq_play] at finished ⊢
    exact patient.burst_scrolls_once still.numbered instant applied undisturbed ignored finished

/-- A menu entry takes the place of the start, whose step wakes up after all. Then a walk, a key and a
link follow in no time, while the steps that they supersede wake up between them and later. -/
theorem last_navigation_wins_after_burst :
    let router := atHome .sample (Page.ofCatalog .sample)
    let happenings : List Happening :=
      [.action .start, .action (.navigate "nowhere" none), .action (.advance 20),
        .action (.navigate "changelog" (some .dropdown)), .late 0]
    let burst : List Happening :=
      [.action (.walk .next), .late 1, .action (.press "End"), .late 0, .action (.advance 0),
        .action (.navigate "overview" (some (.link "nav-overview")))]
    let rest : List Happening :=
      [.action (.advance 30), .late 3, .action (.page (.hasSection "skills")), .action (.advance 20), .late 2]
    let actions := Happening.actions happenings
    let now := router.undergo happenings
    let settled := (now.undergo burst).undergo rest
    (∀ action ∈ actions, action.sparesSections = true) ∧
      (∀ action ∈ Happening.actions burst, action.sparesSections = true ∧ action.isInstant = true) ∧
      (router.destinations actions).getLast? = some "changelog" ∧ now.pending.isSome ∧ now.page.active = [] ∧
      (router.undergo (happenings ++ [.action .settle])).page.active = ["changelog"] ∧
      (router.trips actions).map (·.fate) = [.superseded, .awaited] ∧
      now.generation = 2 ∧ now.superseded.map (fun step => (step.target, step.generation)) = [("overview", 1)] ∧
      (∀ trip, (router.trips actions)[0]? = some trip → now.wake trip.arrival.toStep = now) ∧
      (∀ trip, (router.trips actions)[1]? = some trip → (now.arrive trip.arrival).page.active = [trip.arrival.target]) ∧
      (now.destinations (Happening.actions burst)).length = 3 ∧ (now.undergo burst).superseded.length = 4 ∧
      settled.pending = none ∧ settled.page.active = ["overview"] ∧
      settled.page.scrollResets = now.page.scrollResets + 1 := by
  intro router happenings burst rest actions now settled
  have hidden : (Page.ofCatalog .sample).active = [] := (Page.active_eq_nil_iff _).mpr (Page.shown_ofCatalog _)
  have whole : ∀ id ∈ Catalog.sample.sections, (Page.ofCatalog .sample).hasSection id = true :=
    fun id member => (Page.hasSection_iff _).mpr ((Page.mem_elements_ofCatalog _).mpr member)
  have opened : Opened .sample (Page.ofCatalog .sample) router := .atHome
  have spared : ∀ action ∈ actions, action.sparesSections = true := by decide
  have quick : ∀ action ∈ Happening.actions burst, action.sparesSections = true ∧ action.isInstant = true := by decide
  have delayed : 0 < router.delay := by decide
  have after : ∀ action ∈ Happening.actions rest, action.sparesSections = true := by decide
  obtain ⟨lasts, ⟨_, _, _, _, trips⟩, bursts⟩ := last_navigation_wins opened hidden whole spared
  have latest : (router.destinations actions).getLast? = some "changelog" := by decide +kernel
  have underway : now.pending.isSome := by decide +kernel
  have finished : settled.pending = none := by decide +kernel
  have applied : now.destinations (Happening.actions burst) ≠ [] := by decide +kernel
  have ignored : (now.undergo burst).destinations (Happening.actions rest) = [] := by decide +kernel
  have fates : (router.trips actions).map (·.fate) = [.superseded, .awaited] := by decide +kernel
  have once := bursts burst rest delayed quick applied after ignored finished
  obtain ⟨_, _, meanwhile, arrived⟩ := lasts "changelog" latest
  have fate {number : Nat} {trip : Trip} (found : (router.trips actions)[number]? = some trip) :
      [Fate.superseded, .awaited][number]? = some trip.fate := by
    rw [← fates, List.getElem?_map, found]
    rfl
  refine ⟨spared, quick, latest, underway, meanwhile underway, arrived, fates, by decide +kernel, by decide +kernel,
    fun trip found => ?_, fun trip found => ?_, by decide +kernel, by decide +kernel, finished, by decide +kernel, ?_⟩
  · have superseded : trip.fate = .superseded := (Option.some.inj (fate found)).symm
    exact ((trips 0 trip found).2.1 superseded).2.2
  · have awaited : trip.fate = .awaited := (Option.some.inj (fate found)).symm
    exact ((trips 1 trip found).2.2 awaited).2.2
  · simpa only [settled, now] using once

end Router

end Vitae
