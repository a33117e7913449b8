import Vitae.Proofs.Section.Catalog
import Vitae.Proofs.Section.Transition
import Vitae.Section.Session

/-! Visits one action at a time. `Effect` says once what a single action can do to a router;
every law about visits is proved from its cases, by induction on the actions. Here a due
arrival may keep waiting: it happens in an `advance` or a `settle` and not by itself, so
that the moments between a navigation and its arrival are part of the visit as well. -/

namespace Vitae

/-- The actions asked of the router, time included: the page is left alone and the router is
not given up. -/
def Action.isRouted : Action → Bool
  | .page _ | .close => false
  | _ => true

namespace Router

/-- The routers that come to be: at the home or at a registered section, then with a position
to step on from and a delay, in any order. -/
inductive Opened (catalog : Catalog) (page : Page) : Router → Prop
  | atHome : Opened catalog page (atHome catalog page)
  | startingAt {id router} (found : startingAt catalog page id = .ok router) : Opened catalog page router
  | withGestureIndex {router seeded index} (opened : Opened catalog page router)
      (accepted : router.withGestureIndex index = .ok seeded) : Opened catalog page seeded
  | withDelay {router} (opened : Opened catalog page router) (ms : Nat) :
      Opened catalog page (router.withDelay ms)

theorem startingAt_eq_ok {catalog : Catalog} {page : Page} {id : String} {router : Router}
    (found : startingAt catalog page id = .ok router) :
    id ∈ catalog.sections ∧ router = placedAt catalog page id := by
  unfold startingAt at found
  split at found
  next registered =>
    cases found
    exact ⟨catalog.contains_iff.mp registered, rfl⟩
  · cases found

/-- Seeding a position says that it is inside the order, and moves only a router that is at
an informational section. -/
theorem withGestureIndex_eq_ok {router seeded : Router} {index : Nat}
    (accepted : router.withGestureIndex index = .ok seeded) :
    index < router.catalog.order.length ∧
    seeded = { router with place.index := if router.place.active ∈ router.catalog.order then router.place.index else index } := by
  unfold withGestureIndex at accepted
  simp only at accepted
  split at accepted
  · cases accepted
  next inside =>
    refine ⟨by omega, ?_⟩
    split at accepted
    next position found =>
      have ordered := router.catalog.mem_order_of_position? found
      cases accepted
      simp [ordered]
    next absent =>
      have informational := router.catalog.position?_eq_none_iff.mp absent
      cases accepted
      simp [informational]

/-- Nothing has happened to a router that was only opened: all it has of its own is its place and
its delay. -/
theorem Opened.eq {catalog : Catalog} {page : Page} {router : Router} (opened : Opened catalog page router) :
    router = { catalog, page, place := router.place, delay := router.delay } := by
  induction opened with
  | atHome => rfl
  | startingAt found =>
    obtain ⟨_, rfl⟩ := startingAt_eq_ok found
    rfl
  | withGestureIndex _ accepted ih =>
    obtain ⟨_, rfl⟩ := withGestureIndex_eq_ok accepted
    rw [ih]
  | withDelay _ _ ih => rw [ih]; rfl

theorem Opened.fresh {catalog : Catalog} {page : Page} {router : Router} (opened : Opened catalog page router) :
    router.catalog = catalog ∧ router.page = page ∧ router.pending = none := by
  rw [opened.eq]
  exact ⟨rfl, rfl, rfl⟩

theorem Opened.not_awaited {catalog : Catalog} {page : Page} {router : Router} (opened : Opened catalog page router)
    (arrival : Arrival) : router.pending ≠ some arrival := by
  rw [opened.fresh.2.2]
  exact (Option.some_ne_none arrival).symm

theorem Opened.silent {catalog : Catalog} {page : Page} {router : Router} (opened : Opened catalog page router) :
    router.log = {} := by
  rw [opened.eq]

theorem Opened.unnumbered {catalog : Catalog} {page : Page} {router : Router} (opened : Opened catalog page router) :
    router.generation = 0 ∧ router.superseded = [] := by
  rw [opened.eq]
  exact ⟨rfl, rfl⟩

/-- What one action can do to a router, and the reply it gives. -/
inductive Effect (router : Router) : Action → Router → Reply → Prop
  /-- A request that was ignored, or time passing with nothing pending. -/
  | kept {action reply} (ignored : reply ≠ .outcome .applied) : Effect router action router reply
  | departed {action id source} (registered : id ∈ router.catalog.sections) (there : router.page.hasSection id = true) :
      Effect router action (router.depart id source) (.outcome .applied)
  | walked {action id direction} (registered : id ∈ router.catalog.sections) (there : router.page.hasSection id = true) :
      Effect router action ((router.depart id none).swiped direction) (.outcome .applied)
  | waited {action arrival ms} (awaited : router.pending = some arrival) (early : ms < arrival.wait) :
      Effect router action { router with pending := some { arrival with wait := arrival.wait - ms } } .nothing
  | arrived {action arrival} (awaited : router.pending = some arrival) (current : arrival.generation = router.generation) :
      Effect router action (router.arrive arrival) .nothing
  /-- What was pending does not belong to the last navigation, and nothing comes of it. -/
  | lapsed {action arrival} (awaited : router.pending = some arrival) (stale : arrival.generation ≠ router.generation) :
      Effect router action router.close .nothing
  | handled {command} : Effect router (.page command) { router with page := (router.page.handle command).1 }
      (.page (router.page.handle command).2)
  | closed : Effect router .close router.close .nothing

variable (router : Router)

theorem navigate_cases (id : String) (source : Option Source) :
    (id ∈ router.catalog.sections ∧ router.page.hasSection id = true ∧
      router.navigate id source = (router.depart id source, .applied)) ∨
    ∃ outcome, outcome ≠ .applied ∧ router.navigate id source = (router, outcome) := by
  unfold navigate
  split
  next registered =>
    split
    next there => exact Or.inl ⟨router.catalog.contains_iff.mp registered, there, rfl⟩
    next => exact Or.inr ⟨.missingElement, by decide, rfl⟩
  next => exact Or.inr ⟨.unknownTarget, by decide, rfl⟩

def neighbour? (direction : Direction) : Option String :=
  (router.catalog.step? router.place.index direction).bind router.catalog.sectionAt?

def keyAim? (key : String) : Option String :=
  match KeyRoute.ofKey? key with
  | none => none
  | some (.relative direction) => router.neighbour? direction
  | some .first => router.catalog.order.head?
  | some .last => router.catalog.order.getLast?

/-- How a request for `aim` ends: it is ignored and changes nothing, or it leaves for `aim`. -/
inductive Asked (router : Router) (aim : Option String) : Router → Reply → Prop
  | ignored {reply} (refused : reply ≠ .outcome .applied) : Asked router aim router reply
  | departed {id} (aimed : aim = some id) (source : Option Source) (registered : id ∈ router.catalog.sections)
      (there : router.page.hasSection id = true) : Asked router aim (router.depart id source) (.outcome .applied)
  | walked {id} (aimed : aim = some id) (direction : Direction) (registered : id ∈ router.catalog.sections)
      (there : router.page.hasSection id = true) :
      Asked router aim ((router.depart id none).swiped direction) (.outcome .applied)

variable {router}

theorem asked_navigate (id : String) (source : Option Source) :
    Asked router (some id) (router.navigate id source).1 (.outcome (router.navigate id source).2) := by
  rcases router.navigate_cases id source with ⟨registered, there, moved⟩ | ⟨outcome, refused, kept⟩
  · rw [moved]
    exact .departed rfl source registered there
  · rw [kept]
    exact .ignored (by simpa using refused)

private theorem asked_nothing (aim : Option String) : Asked router aim router .nothing :=
  .ignored (by simp)

/-- A walk is a navigation to the neighbour that leaves the traces of a swipe if it is applied. -/
theorem asked_walk (direction : Direction) :
    Asked router (router.neighbour? direction) (router.walk direction).1 (.outcome (router.walk direction).2) := by
  unfold walk
  split
  · exact .ignored (by simp)
  next index stepped =>
    split
    · exact .ignored (by simp)
    next target found =>
      have aimed : router.neighbour? direction = some target := by simp [neighbour?, stepped, found]
      rcases router.navigate_cases target none with ⟨registered, there, moved⟩ | ⟨outcome, refused, kept⟩
      · rw [moved]
        exact .walked aimed direction registered there
      · rw [kept]
        cases outcome with
        | applied => exact absurd rfl refused
        | unknownTarget | missingElement => exact .ignored (by simp)

theorem asked_press (key : String) :
    Asked router (router.keyAim? key) (router.press key).1 (.ofOutcome? (router.press key).2) := by
  unfold press keyAim?
  cases KeyRoute.ofKey? key with
  | none => exact asked_nothing _
  | some route =>
    cases route with
    | relative direction => exact asked_walk direction
    | first =>
      cases router.catalog.order.head? with
      | none => exact asked_nothing _
      | some id => exact asked_navigate id none
    | last =>
      cases router.catalog.order.getLast? with
      | none => exact asked_nothing _
      | some id => exact asked_navigate id none

theorem asked_touch (threshold : Float) (start finish : TouchPoint) :
    Asked router ((classify threshold start finish).bind router.neighbour?)
      (router.touch threshold start finish).1 (.ofOutcome? (router.touch threshold start finish).2) := by
  unfold touch
  cases classify threshold start finish with
  | none => exact asked_nothing _
  | some direction => exact asked_walk direction

theorem Asked.effect {aim : Option String} {later : Router} {reply : Reply} (asked : Asked router aim later reply)
    (action : Action) : Effect router action later reply := by
  cases asked with
  | ignored refused => exact .kept refused
  | departed _ _ registered there => exact .departed registered there
  | walked _ _ registered there => exact .walked registered there

theorem effect_navigate (action : Action) (id : String) (source : Option Source) :
    Effect router action (router.navigate id source).1 (.outcome (router.navigate id source).2) :=
  (asked_navigate id source).effect action

theorem effect_press (action : Action) (key : String) :
    Effect router action (router.press key).1 (.ofOutcome? (router.press key).2) :=
  (asked_press key).effect action

theorem effect_touch (action : Action) (threshold : Float) (start finish : TouchPoint) :
    Effect router action (router.touch threshold start finish).1
      (.ofOutcome? (router.touch threshold start finish).2) :=
  (asked_touch threshold start finish).effect action

theorem effect_arrive (action : Action) {arrival : Arrival} (awaited : router.pending = some arrival) :
    Effect router action (router.arrive arrival) .nothing := by
  by_cases current : arrival.generation = router.generation
  · exact .arrived awaited current
  · rw [arrive_of_stale _ current]
    exact .lapsed awaited current

theorem effect_advance (action : Action) (ms : Nat) : Effect router action (router.advance ms) .nothing := by
  unfold advance
  cases awaited : router.pending with
  | none => exact .kept (by simp)
  | some arrival =>
    by_cases due : arrival.wait ≤ ms
    · simp only [due, if_true]
      exact effect_arrive action awaited
    · simp only [due, if_false]
      exact .waited awaited (by omega)

theorem effect_settle (action : Action) : Effect router action router.settle .nothing := by
  unfold settle
  cases awaited : router.pending with
  | none => exact .kept (by simp)
  | some arrival => exact effect_arrive action awaited

theorem effect_perform (action : Action) :
    Effect router action (router.perform action).1 (router.perform action).2 := by
  cases action with
  | start => exact effect_navigate _ _ _
  | navigate id source => exact effect_navigate _ id source
  | walk direction => exact (asked_walk direction).effect _
  | press key => exact effect_press _ key
  | touch start finish threshold => exact effect_touch _ threshold start finish
  | settle => exact effect_settle _
  | advance ms => exact effect_advance _ ms
  | page command => exact .handled
  | close => exact .closed

/-- What is neither applied nor done to the page is about the pending arrival, or nothing. -/
theorem Effect.quiet {later : Router} {action : Action} {reply : Reply}
    (effect : Effect router action later reply) (routed : action.isRouted = true)
    (ignored : reply ≠ .outcome .applied) :
    later = router ∨ ∃ arrival, router.pending = some arrival ∧
      ((∃ wait, later = { router with pending := some { arrival with wait } }) ∨ later = router.arrive arrival) := by
  cases effect with
  | kept => exact Or.inl rfl
  | departed | walked => exact absurd rfl ignored
  | waited awaited => exact Or.inr ⟨_, awaited, Or.inl ⟨_, rfl⟩⟩
  | arrived awaited => exact Or.inr ⟨_, awaited, Or.inr rfl⟩
  | lapsed awaited stale => exact Or.inr ⟨_, awaited, Or.inr (arrive_of_stale _ stale).symm⟩
  | handled | closed => cases routed

/-- The router after a sequence of actions, with nothing happening between them. -/
def play (router : Router) (actions : List Action) : Router :=
  actions.foldl (fun router action => (router.perform action).1) router

/-- What every effect of the actions allowed preserves holds at the end of a sequence. -/
theorem play_preserves {holds : Router → Prop} {allowed : Action → Prop}
    (step : ∀ {router action later reply}, holds router → allowed action →
      Effect router action later reply → holds later)
    {router : Router} (now : holds router) (actions : List Action)
    (fine : ∀ action ∈ actions, allowed action) : holds (router.play actions) := by
  induction actions generalizing router with
  | nil => exact now
  | cons action rest ih =>
    have later := step now (fine action List.mem_cons_self) (effect_perform action)
    exact ih later fun other member => fine other (List.mem_cons_of_mem _ member)

/-- The same for what no effect at all breaks. -/
theorem play_invariant {holds : Router → Prop}
    (step : ∀ {router action later reply}, holds router → Effect router action later reply → holds later)
    {router : Router} (now : holds router) (actions : List Action) : holds (router.play actions) := by
  have anything : ∀ action ∈ actions, True := fun _ _ => trivial
  exact play_preserves (fun now _ effect => step now effect) now actions anything

end Router

end Vitae
