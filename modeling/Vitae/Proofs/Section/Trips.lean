import Vitae.Proofs.Section.Generations

/-! Visits as trips. Every applied navigation sets out on one, and its arrival is what is left
for later. `Course` says of a single action where it goes and which trip it brings to an end;
over a visit this gives the destinations and, beside them, the fate of every arrival. Trips
carry the numbers of their navigations, so the latest has the number that the router has. -/

namespace Vitae

/-- What becomes of the arrival of an applied navigation. -/
inductive Fate
  | awaited
  /-- It happened, and its target was there or not. -/
  | happened (found : Bool)
  | superseded
  | cancelled
deriving DecidableEq, Repr

structure Trip where
  arrival : Arrival
  fate : Fate
deriving DecidableEq, Repr

namespace Trip

def isOver (trip : Trip) : Bool :=
  match trip.fate with
  | .happened _ => true
  | _ => false

/-- The section gone back to, if the target was not there any more. -/
def restored? (trip : Trip) : Option String :=
  if trip.fate = .happened false then some trip.arrival.before.active else none

/-- The trip once the router is given up: nothing is awaited any more. -/
def giveUp (trip : Trip) : Trip :=
  if trip.fate = .awaited then { trip with fate := .cancelled } else trip

end Trip

/-- The actions that ask the router for a section. -/
def Action.isRequest : Action → Bool
  | .start | .navigate .. | .walk _ | .press _ | .touch .. => true
  | _ => false

def Action.closes : Action → Bool
  | .close => true
  | _ => false

namespace Router

variable (router : Router)

def aim? : Action → Option String
  | .start => some router.place.active
  | .navigate id _ => some id
  | .walk direction => router.neighbour? direction
  | .press key => router.keyAim? key
  | .touch start finish threshold => (classify threshold start finish).bind router.neighbour?
  | .settle | .advance _ | .page _ | .close => none

/-- The section that an action goes to: the one it asks for, if that is applied. -/
def destination? (action : Action) : Option String :=
  if (router.perform action).2 = .outcome .applied then router.aim? action else none

/-- The end that an action makes of a pending arrival, if it makes one. -/
def fate? (arrival : Arrival) : Action → Option Fate
  | .settle => some (.happened (router.page.hasSection arrival.target))
  | .advance ms =>
    if arrival.wait ≤ ms then some (.happened (router.page.hasSection arrival.target)) else none
  | .close => some .cancelled
  | action => if (router.perform action).2 = .outcome .applied then some .superseded else none

/-- The trip that an action brings to an end. -/
def concluded? (action : Action) : Option Trip :=
  router.pending.bind fun arrival => (router.fate? arrival action).map (Trip.mk arrival)

/-- Where a visit goes, one navigation after the other. -/
def destinations (router : Router) : List Action → List String
  | [] => []
  | action :: rest => (router.destination? action).toList ++ destinations (router.perform action).1 rest

/-- The trips that end during a visit, in the order in which they end. -/
def concluded (router : Router) : List Action → List Trip
  | [] => []
  | action :: rest => (router.concluded? action).toList ++ concluded (router.perform action).1 rest

def awaitedTrip? : Option Trip :=
  router.pending.map fun arrival => ⟨arrival, .awaited⟩

/-- The trips of a visit: those that ended, and the one that did not. -/
def trips (actions : List Action) : List Trip :=
  router.concluded actions ++ (router.play actions).awaitedTrip?.toList

/-- What a departure for a section leaves behind, by whatever control. -/
structure Leaves (router : Router) (id : String) (later : Router) : Prop where
  place : later.place = router.placeOf id
  generation : later.generation = router.generation + 1
  pending : later.pending =
    some
      { target := id
        generation := router.generation + 1
        wait := router.delay
        before := router.place
        highlights := router.page.highlights }
  superseded : later.superseded = router.superseded ++ router.pending.toList.map (·.toStep)
  log : later.log = router.log.tell .viewed id
  scrollResets : later.page.scrollResets = router.page.scrollResets

/-- What an action does, where it goes, and the trip that it ends. -/
inductive Course (router : Router) : Action → Router → Reply → Option String → Option Trip → Prop
  | ignored {action reply} (routed : action.isRouted = true) (refused : reply ≠ .outcome .applied) :
      Course router action router reply none none
  | left {action id later} (routed : action.isRouted = true) (leaves : Leaves router id later) :
      Course router action later (.outcome .applied) (some id)
        (router.pending.map fun arrival => ⟨arrival, .superseded⟩)
  | waited {action arrival ms} (routed : action.isRouted = true) (awaited : router.pending = some arrival)
      (early : ms < arrival.wait) :
      Course router action { router with pending := some { arrival with wait := arrival.wait - ms } } .nothing none none
  | arrived {action arrival} (due : action = .settle ∨ ∃ ms, action = .advance ms ∧ arrival.wait ≤ ms)
      (awaited : router.pending = some arrival) (current : arrival.generation = router.generation) :
      Course router action (router.arrive arrival) .nothing none
        (some ⟨arrival, .happened (router.page.hasSection arrival.target)⟩)
  | handled {command} : Course router (.page command) { router with page := (router.page.handle command).1 }
      (.page (router.page.handle command).2) none none
  | closed : Course router .close router.close .nothing none
      (router.pending.map fun arrival => ⟨arrival, .cancelled⟩)

theorem leaves_depart (id : String) (source : Option Source) : Leaves router id (router.depart id source) := by
  refine ⟨rfl, rfl, rfl, rfl, rfl, ?_⟩
  change (mark router.page.deactivateAll id source).scrollResets = _
  rw [mark_eq]
  rfl

variable {router}

theorem Asked.leaves {aim : Option String} {later : Router} {reply : Reply} (asked : Asked router aim later reply) :
    reply ≠ .outcome .applied ∧ later = router ∨
      reply = .outcome .applied ∧ ∃ id, aim = some id ∧ Leaves router id later := by
  cases asked with
  | ignored refused => exact Or.inl ⟨refused, rfl⟩
  | departed aimed source => exact Or.inr ⟨rfl, _, aimed, router.leaves_depart _ source⟩
  | walked aimed =>
    obtain ⟨place, generation, pending, superseded, log, scrollResets⟩ := router.leaves_depart _ none
    exact Or.inr ⟨rfl, _, aimed, place, generation, pending, superseded, log, scrollResets⟩

theorem asked_perform {action : Action} (request : action.isRequest = true) :
    Asked router (router.aim? action) (router.perform action).1 (router.perform action).2 := by
  cases action with
  | start => exact asked_navigate _ none
  | navigate id source => exact asked_navigate id source
  | walk direction => exact asked_walk direction
  | press key => exact asked_press key
  | touch start finish threshold => exact asked_touch threshold start finish
  | settle | advance | page | close => cases request

private theorem Asked.course {action : Action}
    (asked : Asked router (router.aim? action) (router.perform action).1 (router.perform action).2)
    (routed : action.isRouted = true)
    (request : ∀ arrival, router.fate? arrival action =
      if (router.perform action).2 = .outcome .applied then some .superseded else none) :
    Course router action (router.perform action).1 (router.perform action).2
      (router.destination? action) (router.concluded? action) := by
  rcases asked.leaves with ⟨refused, same⟩ | ⟨applied, id, aimed, leaves⟩
  · have nowhere : router.destination? action = none := by simp [destination?, refused]
    have nothing : router.concluded? action = none := by simp [concluded?, request, refused]
    rw [nowhere, nothing, same]
    exact .ignored routed refused
  · have somewhere : router.destination? action = some id := by simp [destination?, applied, aimed]
    have ended : router.concluded? action = router.pending.map fun arrival => ⟨arrival, .superseded⟩ := by
      simp only [concluded?, request, applied, if_true]
      cases router.pending <;> rfl
    rw [somewhere, ended, applied]
    exact .left routed leaves

private theorem course_advance (numbered : Numbered router) (ms : Nat) :
    Course router (.advance ms) (router.advance ms) .nothing none (router.concluded? (.advance ms)) := by
  unfold advance concluded?
  cases awaited : router.pending with
  | none => exact .ignored rfl (by simp)
  | some arrival =>
    by_cases due : arrival.wait ≤ ms
    · simp only [Option.bind_some, fate?, due, if_true]
      exact .arrived (Or.inr ⟨ms, rfl, due⟩) awaited (numbered.current arrival awaited)
    · simp only [Option.bind_some, fate?, due, if_false]
      exact .waited rfl awaited (by omega)

theorem course_perform (numbered : Numbered router) (action : Action) :
    Course router action (router.perform action).1 (router.perform action).2
      (router.destination? action) (router.concluded? action) := by
  cases action with
  | start | navigate | walk | press | touch => exact (asked_perform rfl).course rfl fun _ => rfl
  | advance ms => exact course_advance numbered ms
  | settle =>
    simp only [perform, settle, destination?, concluded?]
    cases awaited : router.pending with
    | none => exact .ignored rfl (by simp)
    | some arrival => exact .arrived (Or.inl rfl) awaited (numbered.current arrival awaited)
  | page command =>
    have nothing : router.concluded? (.page command) = none := by simp [concluded?, fate?, perform]
    rw [nothing]
    exact .handled
  | close =>
    have ended : router.concluded? .close = router.pending.map fun arrival => ⟨arrival, .cancelled⟩ := by
      unfold concluded?
      cases router.pending <;> rfl
    rw [ended]
    exact .closed

theorem pending_of_concluded? {router : Router} {action : Action} {ended : Trip}
    (found : router.concluded? action = some ended) : router.pending = some ended.arrival := by
  obtain ⟨arrival, pending, finished⟩ := Option.bind_eq_some_iff.mp found
  obtain ⟨_, _, rfl⟩ := Option.map_eq_some_iff.mp finished
  exact pending

section Course
variable {action : Action} {later : Router} {reply : Reply} {destination : Option String} {trip : Option Trip}

/-- No arrival is lost and none appears: those pending before and those set out on are the ones
that end and those pending after. -/
theorem Course.targets (course : Course router action later reply destination trip) :
    (trip.map (·.arrival.target)).toList ++ (later.pending.map (·.target)).toList =
      (router.pending.map (·.target)).toList ++ destination.toList := by
  cases course with
  | ignored | handled => simp
  | left _ leaves => cases pending : router.pending <;> simp [leaves.pending]
  | waited _ awaited => simp [awaited]
  | arrived _ awaited => simp [awaited]
  | closed => cases pending : router.pending <;> simp [close]

/-- The numbers of the trips are consecutive: each departure takes the next one. -/
theorem Course.generations (course : Course router action later reply destination trip) :
    later.generation = router.generation + destination.toList.length ∧
    (trip.map (·.arrival.generation)).toList ++ (later.pending.map (·.generation)).toList =
      (router.pending.map (·.generation)).toList ++ List.range' (router.generation + 1) destination.toList.length := by
  cases course with
  | ignored | handled => simp
  | left _ leaves => cases pending : router.pending <;> simp [leaves.pending, leaves.generation]
  | waited _ awaited => simp [awaited]
  | arrived _ awaited => simp [awaited]
  | closed => cases pending : router.pending <;> simp [close]

/-- What is superseded is the arrival of the trip that an action ends in this way, and nothing else. -/
theorem Course.superseded (course : Course router action later reply destination trip) :
    later.superseded =
      router.superseded ++ (trip.toList.filter (·.fate = .superseded)).map (·.arrival.toStep) := by
  cases course with
  | ignored | waited | handled => simp
  | left _ leaves => cases pending : router.pending <;> simp [leaves.superseded, pending]
  | arrived => simp
  | closed => cases pending : router.pending <;> simp [close]

theorem Course.fate {ended : Trip} (course : Course router action later reply destination (some ended)) :
    match ended.fate with
    | .awaited => False
    | .happened _ => action = .settle ∨ ∃ ms, action = .advance ms ∧ ended.arrival.wait ≤ ms
    | .superseded => destination.isSome ∧ later.pending.isSome
    | .cancelled => action = .close := by
  generalize same : some ended = trip at course
  cases course with
  | ignored | waited | handled => cases same
  | left _ leaves =>
    obtain ⟨arrival, _, rfl⟩ := Option.map_eq_some_iff.mp same.symm
    exact ⟨rfl, by rw [leaves.pending]; rfl⟩
  | arrived due =>
    cases same
    exact due
  | closed =>
    obtain ⟨arrival, _, rfl⟩ := Option.map_eq_some_iff.mp same.symm
    rfl

end Course

section Visit
variable (router : Router)

theorem trips_cons (action : Action) (rest : List Action) :
    router.trips (action :: rest) = (router.concluded? action).toList ++ (router.perform action).1.trips rest :=
  List.append_assoc ..

theorem play_append (actions more : List Action) :
    router.play (actions ++ more) = (router.play actions).play more :=
  List.foldl_append

theorem concluded_append (actions more : List Action) :
    router.concluded (actions ++ more) = router.concluded actions ++ (router.play actions).concluded more := by
  induction actions generalizing router with
  | nil => rfl
  | cons action rest ih =>
    rw [List.cons_append, concluded, ih, concluded, List.append_assoc]
    rfl

variable {router} (numbered : Numbered router)
include numbered

/-- The trips of a visit lead where its navigations lead, the pending one first. -/
theorem targets_trips (actions : List Action) :
    (router.trips actions).map (·.arrival.target) =
      (router.pending.map (·.target)).toList ++ router.destinations actions := by
  induction actions generalizing router with
  | nil => cases pending : router.pending <;> simp [trips, concluded, destinations, play, awaitedTrip?, pending]
  | cons action rest ih =>
    have step := (course_perform numbered action).targets
    rw [Option.toList_map] at step
    rw [trips_cons, List.map_append, ih (numbered.perform action), destinations, ← List.append_assoc, step,
      List.append_assoc]

/-- They carry the numbers of their navigations, and the router carries the number of the last one. -/
theorem generations_trips (actions : List Action) :
    (router.play actions).generation = router.generation + (router.destinations actions).length ∧
    (router.trips actions).map (·.arrival.generation) =
      (router.pending.map (·.generation)).toList ++
        List.range' (router.generation + 1) (router.destinations actions).length := by
  induction actions generalizing router with
  | nil => cases pending : router.pending <;> simp [trips, concluded, destinations, play, awaitedTrip?, pending]
  | cons action rest ih =>
    obtain ⟨counted, step⟩ := (course_perform numbered action).generations
    obtain ⟨total, numbers⟩ := ih (numbered.perform action)
    rw [Option.toList_map] at step
    rw [destinations, List.length_append, ← Nat.add_assoc, ← counted]
    refine ⟨total, ?_⟩
    rw [trips_cons, List.map_append, numbers, ← List.append_assoc, step, counted, List.append_assoc]
    congr 1
    rw [Nat.add_right_comm, List.range'_append_1]

/-- The steps that a visit has superseded are those of the trips that ended in this way. -/
theorem superseded_play (actions : List Action) :
    (router.play actions).superseded =
      router.superseded ++ ((router.trips actions).filter (·.fate = .superseded)).map (·.arrival.toStep) := by
  induction actions generalizing router with
  | nil => cases pending : router.pending <;> simp [trips, concluded, play, awaitedTrip?, pending]
  | cons action rest ih =>
    have step := (course_perform numbered action).superseded
    rw [trips_cons, List.filter_append, List.map_append, ← List.append_assoc, ← step]
    exact ih (numbered.perform action)

theorem trips_ne_nil {actions : List Action} (started : router.pending.isSome ∨ router.destinations actions ≠ []) :
    router.trips actions ≠ [] := by
  intro none
  have targets := targets_trips numbered actions
  rw [none, List.map_nil, eq_comm, List.append_eq_nil_iff] at targets
  rcases started with awaited | applied
  · obtain ⟨arrival, pending⟩ := Option.isSome_iff_exists.mp awaited
    simp [pending] at targets
  · exact applied targets.2

theorem mem_concluded {actions : List Action} {ended : Trip} (member : ended ∈ router.concluded actions) :
    ended.fate ≠ .awaited ∧ (ended.fate = .cancelled → ∃ action ∈ actions, action.closes = true) ∧
      (ended.fate = .superseded → router.destinations actions ≠ []) := by
  induction actions generalizing router with
  | nil => cases member
  | cons action rest ih =>
    rw [concluded, List.mem_append] at member
    rcases member with now | later
    · have course := course_perform numbered action
      rw [Option.mem_toList.mp now] at course
      have fate := course.fate
      refine ⟨fun awaited => ?_, fun cancelled => ?_, fun superseded => ?_⟩
      · rw [awaited] at fate
        exact fate
      · rw [cancelled] at fate
        exact ⟨action, List.mem_cons_self, fate ▸ rfl⟩
      · rw [superseded] at fate
        obtain ⟨id, there⟩ := Option.isSome_iff_exists.mp fate.1
        simp [destinations, there]
    · obtain ⟨finished, cancelled, superseded⟩ := ih (numbered.perform action) later
      refine ⟨finished, fun called => ?_, fun replaced => ?_⟩
      · obtain ⟨other, inside, closes⟩ := cancelled called
        exact ⟨other, List.mem_cons_of_mem _ inside, closes⟩
      · simp [destinations, superseded replaced]

/-- The latest trip has no later one that could have superseded it. -/
theorem latest_not_superseded {actions : List Action} {latest : Trip}
    (last : (router.trips actions).getLast? = some latest) : latest.fate ≠ .superseded := by
  induction actions generalizing router with
  | nil =>
    cases pending : router.pending <;> simp [trips, concluded, play, awaitedTrip?, pending] at last
    subst last
    simp
  | cons action rest ih =>
    rw [trips_cons] at last
    cases ended : router.concluded? action with
    | none =>
      rw [ended] at last
      exact ih (numbered.perform action) last
    | some trip =>
      rw [ended, Option.toList_some, List.singleton_append] at last
      have course := course_perform numbered action
      rw [ended] at course
      have fate := course.fate
      cases more : (router.perform action).1.trips rest with
      | nil =>
        rw [more, List.getLast?_singleton] at last
        cases last
        -- What superseded the trip at the head is itself pending, so the rest has a trip.
        intro superseded
        rw [superseded] at fate
        exact trips_ne_nil (numbered.perform action) (Or.inl fate.2) more
      | cons next others =>
        apply ih (numbered.perform action)
        rwa [more] at last ⊢

theorem superseded_followed {actions : List Action} {number : Nat} {trip : Trip}
    (found : (router.trips actions)[number]? = some trip) (superseded : trip.fate = .superseded) :
    number + 1 < (router.trips actions).length := by
  have inside := (List.getElem?_eq_some_iff.mp found).1
  have last : number + 1 ≠ (router.trips actions).length := by
    intro last
    have latest : (router.trips actions).getLast? = some trip := by
      rw [List.getLast?_eq_getElem?, ← last]
      exact found
    exact latest_not_superseded numbered latest superseded
  omega

end Visit

end Router

end Vitae
