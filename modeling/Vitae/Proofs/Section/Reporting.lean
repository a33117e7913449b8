import Vitae.Proofs.Section.Trips

/-! What is told of a visit and what it scrolled, accounted for by its trips. Every trip is
reported once when it sets out, and once more if it goes back; every arrival that happens
scrolls once. Nothing else is reported, and nothing after the router is given up. -/

namespace Vitae

/-- The actions that scroll the page without asking the router. -/
def Action.scrolls : Action → Bool
  | .page .scrollToTop => true
  | _ => false

def Action.isWait : Action → Bool
  | .settle | .advance _ => true
  | _ => false

theorem Action.countP_scrolls_of_routed {action : Action} (routed : action.isRouted = true) :
    [action].countP Action.scrolls = 0 := by
  cases action with
  | page | close => cases routed
  | _ => rfl

namespace Log

/-- The sections of the events of one kind. -/
def told (log : Log) (kind : EventKind) : List String :=
  (log.events.filter (·.kind = kind)).map (·.id)

theorem told_tell (log : Log) (kind other : EventKind) (id : String) :
    (log.tell kind id).told other = log.told other ++ if kind = other then [id] else [] := by
  by_cases same : kind = other <;> simp [told, tell, same]

/-- Every event was announced, in the order of the events. -/
def Spoken (log : Log) : Prop :=
  log.announced = log.events.map fun event => announcement event.id

theorem Spoken.tell {log : Log} (spoken : log.Spoken) (kind : EventKind) (id : String) : (log.tell kind id).Spoken := by
  unfold Spoken Log.tell at *
  simp [spoken]

end Log

theorem Page.scrollResets_handle (page : Page) (command : Page.Command) :
    (page.handle command).1.scrollResets =
      page.scrollResets + [Action.page command].countP Action.scrolls := by
  cases command with
  | activate id =>
    change (page.activate id).1.scrollResets = _
    unfold Page.activate
    split <;> rfl
  | highlight link =>
    change (page.highlight link).1.scrollResets = _
    rw [page.highlight_eq]
    rfl
  | _ => rfl

namespace Router

/-- What one action tells and scrolls is due to where it goes and to the trip that it ends. -/
theorem Course.told {router later : Router} {action : Action} {reply : Reply} {destination : Option String}
    {trip : Option Trip} (course : Course router action later reply destination trip) :
    later.log.told .viewed = router.log.told .viewed ++ destination.toList ∧
    later.log.told .restored = router.log.told .restored ++ trip.toList.filterMap Trip.restored? ∧
    later.page.scrollResets =
      router.page.scrollResets + [action].countP Action.scrolls + trip.toList.countP Trip.isOver := by
  cases course with
  | ignored routed => simp [Action.countP_scrolls_of_routed routed]
  | waited routed => simp [Action.countP_scrolls_of_routed routed]
  | left routed leaves =>
    rw [Action.countP_scrolls_of_routed routed, leaves.log, leaves.scrollResets, Log.told_tell, Log.told_tell]
    cases router.pending <;> simp [Trip.restored?, Trip.isOver]
  | @arrived _ arrival due _ current =>
    have routed : action.isRouted = true := by
      rcases due with rfl | ⟨_, rfl, _⟩ <;> rfl
    rw [Action.countP_scrolls_of_routed routed, log_arrive _ current, scrollResets_arrive _ current]
    cases router.page.hasSection arrival.target <;> simp [Trip.restored?, Trip.isOver, Log.told_tell]
  | handled => simp [Page.scrollResets_handle]
  | closed => cases pending : router.pending <;> simp [close, Trip.restored?, Trip.isOver, Action.scrolls]

theorem told_play {router : Router} (numbered : Numbered router) (actions : List Action) :
    (router.play actions).log.told .viewed = router.log.told .viewed ++ router.destinations actions ∧
    (router.play actions).log.told .restored =
      router.log.told .restored ++ (router.concluded actions).filterMap Trip.restored? ∧
    (router.play actions).page.scrollResets =
      router.page.scrollResets + actions.countP Action.scrolls + (router.concluded actions).countP Trip.isOver := by
  induction actions generalizing router with
  | nil => simp [play, destinations, concluded]
  | cons action rest ih =>
    obtain ⟨viewed, restored, scrolled⟩ := ih (numbered.perform action)
    obtain ⟨first, second, third⟩ := (course_perform numbered action).told
    have head : (action :: rest).countP Action.scrolls = [action].countP Action.scrolls + rest.countP Action.scrolls := by
      rw [← List.singleton_append, List.countP_append]
    refine ⟨?_, ?_, ?_⟩
    · rw [destinations, ← List.append_assoc, ← first]
      exact viewed
    · rw [concluded, List.filterMap_append, ← List.append_assoc, ← second]
      exact restored
    · rw [concluded, List.countP_append, head]
      change ((router.perform action).1.play rest).page.scrollResets = _
      omega

/-- What the log of a router says last is where the router is. -/
structure Voiced (router : Router) : Prop where
  spoken : router.log.Spoken
  latest : ∀ event, router.log.events.getLast? = some event → event.id = router.place.active

theorem Voiced.of_tell {router later : Router} (voiced : Voiced router) {kind : EventKind} {id : String}
    (log : later.log = router.log.tell kind id) (placed : later.place.active = id) : Voiced later := by
  refine ⟨log ▸ voiced.spoken.tell kind id, fun event last => ?_⟩
  rw [log, Log.tell, List.getLast?_concat] at last
  cases last
  exact placed.symm

theorem Effect.voiced {router later : Router} {action : Action} {reply : Reply} (voiced : Voiced router)
    (effect : Effect router action later reply) : Voiced later := by
  cases effect with
  | kept => exact voiced
  | departed => exact voiced.of_tell rfl rfl
  | walked => exact voiced.of_tell rfl rfl
  | waited | lapsed | handled | closed => exact ⟨voiced.spoken, voiced.latest⟩
  | arrived _ current =>
    have log := log_arrive router current
    have place := place_arrive router current
    split at log
    next there =>
      rw [if_pos there] at place
      exact ⟨log ▸ voiced.spoken, by rw [log, place]; exact voiced.latest⟩
    next gone =>
      rw [if_neg gone] at place
      exact voiced.of_tell log (by rw [place])

theorem play_waits_of_idle {router : Router} (idle : router.pending = none) {waits : List Action}
    (only : ∀ action ∈ waits, action.isWait = true) : router.play waits = router ∧ router.concluded waits = [] := by
  induction waits with
  | nil => exact ⟨rfl, rfl⟩
  | cons action rest ih =>
    have still : (router.perform action).1 = router := by
      cases action with
      | settle => simp [perform, settle, idle]
      | advance ms => simp [perform, advance, idle]
      | _ => cases only _ List.mem_cons_self
    have nothing : router.concluded? action = none := by simp [concluded?, idle]
    obtain ⟨same, finished⟩ := ih fun other member => only other (List.mem_cons_of_mem _ member)
    refine ⟨?_, ?_⟩
    · change (router.perform action).1.play rest = router
      rw [still, same]
    · rw [concluded, nothing, still, finished]
      rfl

/-- The accounts of a visit that was begun on a page. -/
structure Accounts (page : Page) (router : Router) (actions : List Action) : Prop where
  /-- Every applied navigation is reported once, in order. -/
  viewed : (router.play actions).log.told .viewed = router.destinations actions
  /-- So is every arrival that found its target gone, under the section gone back to. -/
  restored : (router.play actions).log.told .restored = (router.trips actions).filterMap Trip.restored?
  spoken : (router.play actions).log.announced =
    (router.play actions).log.events.map fun event => announcement event.id
  /-- From the first applied navigation on, what was told last is where the router is. -/
  latest : router.destinations actions ≠ [] →
    (router.play actions).log.events.getLast?.map (·.id) = some (router.play actions).place.active ∧
    (router.play actions).log.announced.getLast? = some (announcement (router.play actions).place.active)
  /-- Every applied navigation has one trip, which has one fate. -/
  targets : (router.trips actions).map (·.arrival.target) = router.destinations actions
  superseded : ∀ number trip, (router.trips actions)[number]? = some trip → trip.fate = .superseded →
    number + 1 < (router.trips actions).length
  /-- At most one arrival is still awaited, the one that is pending. -/
  awaited : (router.trips actions).filter (·.fate = .awaited) = (router.play actions).awaitedTrip?.toList
  kept : ∀ trip ∈ router.trips actions, trip.fate ≠ .cancelled
  /-- The page is scrolled directly, or once by an arrival that happens. -/
  scrolled : (router.play actions).page.scrollResets =
    page.scrollResets + actions.countP Action.scrolls + (router.trips actions).countP Trip.isOver

private theorem over_trips {router : Router} (numbered : Numbered router) (actions : List Action) :
    (router.trips actions).filterMap Trip.restored? = (router.concluded actions).filterMap Trip.restored? ∧
    (router.trips actions).countP Trip.isOver = (router.concluded actions).countP Trip.isOver ∧
    (router.trips actions).filter (·.fate = .awaited) = (router.play actions).awaitedTrip?.toList := by
  have finished : (router.concluded actions).filter (·.fate = .awaited) = [] := by
    simpa using fun trip member => (mem_concluded numbered member).1
  rw [trips, List.filterMap_append, List.countP_append, List.filter_append, finished, awaitedTrip?]
  cases (router.play actions).pending <;> simp [Trip.restored?, Trip.isOver]

theorem Opened.accounts {catalog : Catalog} {page : Page} {router : Router} (opened : Opened catalog page router)
    {actions : List Action} (held : ∀ action ∈ actions, action.closes = false) : Accounts page router actions := by
  obtain ⟨_, same, idle⟩ := opened.fresh
  have numbered := opened.numbered
  obtain ⟨viewed, restored, scrolled⟩ := told_play numbered actions
  obtain ⟨returned, happened, awaited⟩ := over_trips numbered actions
  have voiced : Voiced (router.play actions) := by
    have start : Voiced router := by constructor <;> simp [Log.Spoken, opened.silent]
    exact play_invariant Effect.voiced start actions
  have seen : (router.play actions).log.told .viewed = router.destinations actions := by
    simpa [opened.silent, Log.told] using viewed
  refine ⟨seen, ?_, voiced.spoken, fun somewhere => ?_, ?_, fun number trip found replaced => ?_, awaited, ?_, ?_⟩
  · rw [restored, returned, opened.silent]
    rfl
  · have told : (router.play actions).log.events ≠ [] := by
      intro none
      refine somewhere (seen.symm.trans ?_)
      simp [Log.told, none]
    obtain ⟨event, last⟩ := Option.isSome_iff_exists.mp (List.getLast?_isSome.mpr told)
    rw [voiced.spoken, List.getLast?_map, last, ← voiced.latest event last]
    exact ⟨rfl, rfl⟩
  · simpa [idle] using targets_trips numbered actions
  · exact superseded_followed numbered found replaced
  · intro trip member cancelled
    rcases List.mem_append.mp member with finished | waiting
    · obtain ⟨action, inside, closes⟩ := (mem_concluded numbered finished).2.1 cancelled
      simp [held action inside] at closes
    · obtain ⟨arrival, _, rfl⟩ := Option.map_eq_some_iff.mp (Option.mem_toList.mp waiting)
      cases cancelled
  · rw [scrolled, happened, same]

/-- Wherever a visit stands before the router is given up, its reports and scrolls are accounted
for by its trips. Giving the router up cancels the arrival that is still awaited and leaves every
other fate as it was, and however much time passes then, nothing more is told. -/
theorem visit_is_accounted_for {catalog : Catalog} {page : Page} {router : Router} (opened : Opened catalog page router)
    {actions : List Action} (held : ∀ action ∈ actions, action.closes = false) :
    Accounts page router actions ∧
    ∀ waits : List Action, (∀ action ∈ waits, action.isWait = true) →
      (router.play (actions ++ .close :: waits)).log = (router.play actions).log ∧
      (router.play (actions ++ .close :: waits)).page = (router.play actions).page ∧
      router.trips (actions ++ .close :: waits) = (router.trips actions).map Trip.giveUp := by
  refine ⟨opened.accounts held, fun waits only => ?_⟩
  let gone := (router.play actions).close
  obtain ⟨still, finished⟩ := play_waits_of_idle (show gone.pending = none from rfl) only
  have played : router.play (actions ++ .close :: waits) = gone := by
    rw [play_append]
    exact still
  have settled : (router.concluded actions).map Trip.giveUp = router.concluded actions := by
    have kept : ∀ trip ∈ router.concluded actions, trip.giveUp = trip :=
      fun trip member => if_neg (mem_concluded opened.numbered member).1
    rw [List.map_congr_left kept, List.map_id']
  refine ⟨by rw [played]; rfl, by rw [played]; rfl, ?_⟩
  have closing : (router.play actions).concluded (.close :: waits) =
      ((router.play actions).concluded? .close).toList ++ gone.concluded waits := rfl
  rw [trips, concluded_append, closing, finished, played, trips, List.map_append, settled]
  cases pending : (router.play actions).pending <;> simp [concluded?, fate?, awaitedTrip?, gone, close, Trip.giveUp, pending]

/-- A visit with every fate in it: a walk takes the place of the start and finds its target gone,
an arrival succeeds after a scroll by hand, and the last is cancelled. -/
theorem visit_is_accounted_for_to_the_end :
    let router := atHome .sample (Page.ofCatalog .sample)
    let actions : List Action :=
      [.start, .walk .next, .page (.removeSection "skills"), .settle, .page .scrollToTop, .navigate "changelog" none,
        .navigate "nowhere" none, .advance 60, .press "Home"]
    let gone := router.play (actions ++ [.close, .advance 60])
    (∀ action ∈ actions, action.closes = false) ∧ Accounts (Page.ofCatalog .sample) router actions ∧
      router.destinations actions = ["overview", "skills", "changelog", "overview"] ∧
      (router.trips actions).map (·.fate) = [.superseded, .happened false, .happened true, .awaited] ∧
      (router.play actions).log.told .restored = ["overview"] ∧ (router.play actions).page.scrollResets = 3 ∧
      (router.trips (actions ++ [.close, .advance 60])).map (·.fate) =
        [.superseded, .happened false, .happened true, .cancelled] ∧
      gone.log = (router.play actions).log := by
  intro router actions gone
  have held : ∀ action ∈ actions, action.closes = false := by decide
  obtain ⟨accounts, dropped⟩ := visit_is_accounted_for .atHome held
  obtain ⟨silent, _, trips⟩ := dropped [.advance 60] (by decide)
  have fates : (router.trips actions).map (·.fate) = [.superseded, .happened false, .happened true, .awaited] := by
    decide +kernel
  refine ⟨held, accounts, by decide +kernel, fates, by decide +kernel, by decide +kernel, by decide +kernel, silent⟩

end Router

end Vitae
