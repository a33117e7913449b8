import Mathlib.Algebra.Ring.Nat
import Vitae.Proofs.Section.Lockstep
import Vitae.Proofs.Section.Refusal

/-! Time as a router counts it and as a clock shows it. A router counts down what is left of a wait; a
clock goes on and wakes a sleeper as soon as it shows the moment at which that one is due. Both tell
the same of every visit. So the spans into which the time between two actions is cut do not matter,
and waiting a transition out is letting exactly the rest of its time pass. -/

namespace Vitae

/-- A router beside a clock. The pending arrival sleeps since the moment it was set out on, and its
wait is the length of the whole sleep. -/
structure Clocked where
  router : Router
  now : Nat
  since : Nat

namespace Clocked
variable (clocked : Clocked)

/-- Lets the clock go on until it shows a moment. A sleeper that is due by then wakes up. -/
def reach (moment : Nat) : Clocked :=
  match clocked.router.pending with
  | some arrival =>
    if clocked.since + arrival.wait ≤ moment then
      { clocked with router := clocked.router.arrive arrival, now := moment }
    else { clocked with now := moment }
  | none => { clocked with now := moment }

/-- Carries out an action at the moment that the clock shows. Whoever waits a transition out waits
until its sleeper is due. -/
def perform : Action → Clocked × Reply
  | .advance ms => (clocked.reach (clocked.now + ms), .nothing)
  | .settle =>
    match clocked.router.pending with
    | some arrival => (clocked.reach (max clocked.now (clocked.since + arrival.wait)), .nothing)
    | none => (clocked, .nothing)
  | action =>
    let (router, reply) := clocked.router.perform action
    ({ clocked with router, since := if reply = .outcome .applied then clocked.now else clocked.since }, reply)

/-- The router as it is when its waits are read off the clock. -/
def reading : Router :=
  { clocked.router with
    pending := clocked.router.pending.map fun arrival =>
      { arrival with wait := clocked.since + arrival.wait - clocked.now } }

theorem reading_of_idle {clocked : Clocked} (idle : clocked.router.pending = none) :
    clocked.reading = clocked.router := by
  rw [reading, idle, Option.map_none, ← idle]

theorem reading_awaits {clocked : Clocked} {arrival : Arrival} (awaited : clocked.router.pending = some arrival) :
    clocked.reading.pending = some { arrival with wait := clocked.since + arrival.wait - clocked.now } := by
  rw [reading, awaited]
  rfl

/-- At the moment of a departure the whole wait is left. -/
theorem reading_of_fresh {clocked : Clocked} (fresh : clocked.since = clocked.now) :
    clocked.reading = clocked.router := by
  have whole (arrival : Arrival) : clocked.since + arrival.wait - clocked.now = arrival.wait := by omega
  simp only [reading, whole, Option.map_id']

theorem reading_reach {moment : Nat} (later : clocked.now ≤ moment) :
    (clocked.reach moment).reading = clocked.reading.advance (moment - clocked.now) := by
  cases awaited : clocked.router.pending with
  | none =>
    rw [reading_of_idle awaited, Router.advance_of_idle awaited, reach, awaited]
    exact reading_of_idle awaited
  | some arrival =>
    have counted := reading_awaits awaited
    simp only [reach, awaited]
    by_cases due : clocked.since + arrival.wait ≤ moment
    · rw [if_pos due, Router.advance_of_due counted (by dsimp only; omega), reading_of_idle (Router.pending_arrive _)]
      exact (clocked.router.arrive_waiting ..).symm
    · rw [if_neg due, Router.advance_of_early counted (by dsimp only; omega)]
      have left : clocked.since + arrival.wait - clocked.now - (moment - clocked.now) =
          clocked.since + arrival.wait - moment := by omega
      simp only [reading, awaited, Option.map_some, left]

end Clocked

namespace Router

/-- Routers that differ at most in how long what is pending still has to wait. -/
structure Abreast (first second : Router) : Prop where
  rest : first.close = second.close
  step : first.pending.map (·.toStep) = second.pending.map (·.toStep)

/-- A departure does not look at the wait of what it supersedes. -/
theorem Abreast.depart_eq {first second : Router} (abreast : Abreast first second) (id : String)
    (source : Option Source) : first.depart id source = second.depart id source := by
  have left (router : Router) : router.depart id source =
      { router.close.depart id source with
        superseded := router.close.superseded ++ (router.pending.map (·.toStep)).toList } := by
    rw [Option.toList_map]
    rfl
  rw [left first, left second, abreast.rest, abreast.step]

theorem lockstep_abreast : Lockstep Abreast where
  catalog abreast := congrArg (fun router => router.catalog) abreast.rest
  place abreast := congrArg (fun router => router.place) abreast.rest
  there abreast id _ := congrArg (fun router => router.page.hasSection id) abreast.rest
  depart abreast id _ _ source := by
    rw [abreast.depart_eq]
    exact ⟨rfl, rfl⟩
  swiped abreast direction := ⟨congrArg (fun router => router.swiped direction) abreast.rest, abreast.step⟩

theorem eq_of_close_eq {first second : Router} (same : first.close = second.close)
    (pending : first.pending = second.pending) : first = second :=
  calc
    first = { first.close with pending := first.pending } := rfl
    _ = { second.close with pending := second.pending } := by rw [same, pending]
    _ = second := rfl

/-- An applied request overwrites what is pending. -/
theorem Abreast.perform {first second : Router} (abreast : Abreast first second) {action : Action}
    (request : action.isRequest = true) :
    (first.perform action).2 = (second.perform action).2 ∧
    ((first.perform action).2 = .outcome .applied → (first.perform action).1 = (second.perform action).1) := by
  obtain ⟨answer, later⟩ := lockstep_abreast.perform abreast request
  refine ⟨answer, fun applied => eq_of_close_eq later.rest ?_⟩
  obtain ⟨refused, _⟩ | ⟨_, id, _, here⟩ := (@asked_perform first _ request).leaves
  · exact absurd applied refused
  obtain ⟨refused, _⟩ | ⟨_, other, _, there⟩ := (@asked_perform second _ request).leaves
  · exact absurd (answer ▸ applied) refused
  have place := congrArg (fun router => router.place) later.rest
  have aim : id = other := congrArg Place.active (here.place.symm.trans (place.trans there.place))
  have delay : first.delay = second.delay := congrArg (fun router => router.delay) abreast.rest
  have before : first.place = second.place := congrArg (fun router => router.place) abreast.rest
  have page : first.page = second.page := congrArg (fun router => router.page) abreast.rest
  have generation : first.generation = second.generation := congrArg (fun router => router.generation) abreast.rest
  rw [here.pending, there.pending, aim, delay, before, page, generation]

end Router

namespace Clocked

private theorem reading_request (clocked : Clocked) {action : Action} (request : action.isRequest = true) :
    clocked.reading.perform action = ((clocked.perform action).1.reading, (clocked.perform action).2) := by
  have carried : clocked.perform action =
      ({ clocked with
          router := (clocked.router.perform action).1
          since := if (clocked.router.perform action).2 = .outcome .applied then clocked.now else clocked.since },
        (clocked.router.perform action).2) := by
    cases action with
    | start | navigate | walk | press | touch => rfl
    | settle | advance | page | close => cases request
  have abreast : Router.Abreast clocked.reading clocked.router := by
    refine ⟨rfl, ?_⟩
    rw [reading, Option.map_map]
    rfl
  obtain ⟨answer, moved⟩ := abreast.perform request
  rw [carried]
  refine Prod.ext ?_ answer
  dsimp only
  by_cases applied : (clocked.router.perform action).2 = .outcome .applied
  · rw [moved (answer.trans applied), if_pos applied]
    symm
    apply reading_of_fresh
    rfl
  · rw [if_neg applied]
    have still := (@Router.asked_perform clocked.router _ request).kept applied
    have waiting := (@Router.asked_perform clocked.reading _ request).kept (answer ▸ applied)
    simp only [waiting, still]

private theorem reading_settle (clocked : Clocked) :
    clocked.reading.settle = (clocked.perform .settle).1.reading := by
  cases awaited : clocked.router.pending with
  | none =>
    simp only [perform, awaited, reading_of_idle awaited, Router.settle_of_idle awaited]
  | some arrival =>
    have counted := reading_awaits awaited
    simp only [perform, awaited]
    rw [reading_reach clocked (Nat.le_max_left ..), Router.settle_of_awaited counted]
    rw [Router.advance_of_due counted (by dsimp only; omega)]

/-- The step of the simulation: what is read off the clock after an action is what the router that
counts its waits comes to, with the same reply. -/
theorem reading_perform (clocked : Clocked) (action : Action) :
    clocked.reading.perform action = ((clocked.perform action).1.reading, (clocked.perform action).2) := by
  cases action with
  | start | navigate | walk | press | touch => exact clocked.reading_request rfl
  | advance ms =>
    simp only [perform, reading_reach clocked (Nat.le_add_right ..), Nat.add_sub_cancel_left, Router.perform]
  | settle =>
    refine Prod.ext clocked.reading_settle ?_
    cases awaited : clocked.router.pending <;> simp only [Router.perform, perform, awaited]
  | page command => rfl
  | close => rfl

/-- A visit told by the clock. -/
def story (clocked : Clocked) : List Action → List Episode
  | [] => []
  | action :: rest =>
    let (later, reply) := clocked.perform action
    ⟨action, reply, later.reading⟩ :: story later rest

theorem story_eq (clocked : Clocked) (actions : List Action) :
    clocked.story actions = clocked.reading.story Router.perform actions := by
  induction actions generalizing clocked with
  | nil => rfl
  | cons action rest ih =>
    simp only [story, Router.story, reading_perform, ih]

end Clocked

def Action.isPause : Action → Bool
  | .advance _ => true
  | _ => false

/-- A visit with the time between its other actions gathered into one pause before each of them and
one at the end. Time that has passed already is counted in. -/
def gathered (passed : Nat) : List Action → List Action
  | [] => [.advance passed]
  | .advance ms :: rest => gathered (passed + ms) rest
  | action :: rest => .advance passed :: action :: gathered 0 rest

theorem gathered_cons {action : Action} (busy : action.isPause = false) (passed : Nat) (rest : List Action) :
    gathered passed (action :: rest) = .advance passed :: action :: gathered 0 rest := by
  cases action with
  | advance => cases busy
  | _ => rfl

namespace Router
variable (router : Router)

/-- A visit told without its pauses. -/
def heard (actions : List Action) : List Episode :=
  (router.story act actions).filter (!·.action.isPause)

theorem act_pause (ms : Nat) : router.act (.advance ms) = (router.advance ms, .nothing) :=
  Prod.ext (router.advance_advance ms 0) rfl

theorem run_cons (action : Action) (rest : List Action) :
    router.run (action :: rest) = (router.act action).1.run rest := rfl

theorem heard_pause (ms : Nat) (rest : List Action) :
    router.heard (.advance ms :: rest) = (router.advance ms).heard rest := by
  have later : (router.act (.advance ms)).1 = router.advance ms := by rw [act_pause]
  rw [← later]
  rfl

theorem heard_cons {action : Action} (busy : action.isPause = false) (rest : List Action) :
    router.heard (action :: rest) =
      ⟨action, (router.act action).2, (router.act action).1⟩ :: (router.act action).1.heard rest :=
  List.filter_cons_of_pos (by simpa using busy)

/-- Gathering the time of a visit changes nothing else. -/
theorem run_gathered (passed : Nat) (actions : List Action) :
    (router.advance passed).run actions = router.run (gathered passed actions) ∧
    (router.advance passed).heard actions = router.heard (gathered passed actions) := by
  induction actions generalizing router passed with
  | nil =>
    rw [gathered, run_cons, heard_pause, act_pause]
    exact ⟨rfl, rfl⟩
  | cons action rest ih =>
    cases pause : action.isPause with
    | true =>
      cases action with
      | advance ms =>
        obtain ⟨ended, told⟩ := ih router (passed + ms)
        rw [run_cons, heard_pause, act_pause, advance_advance]
        exact ⟨ended, told⟩
      | _ => cases pause
    | false =>
      obtain ⟨ended, told⟩ := ih ((router.advance passed).act action).1 0
      -- What is due after an action has happened by the end of it.
      have looked : ((router.advance passed).act action).1.advance 0 = ((router.advance passed).act action).1 :=
        punctual_advance _
      rw [looked] at ended told
      rw [gathered_cons pause, run_cons, run_cons, run_cons, heard_cons _ pause, heard_pause, heard_cons _ pause,
        act_pause, ended, told]
      exact ⟨rfl, rfl⟩

theorem play_advances (spans : List Nat) (ms : Nat) :
    (router.play (spans.map .advance)).advance ms = router.advance (spans.sum + ms) := by
  induction spans generalizing router with
  | nil => simp [play]
  | cons span rest ih =>
    change ((router.advance span).play (rest.map .advance)).advance ms = _
    rw [ih, advance_advance, List.sum_cons, Nat.add_assoc]

/-- Time that is shorter than a wait only shortens it. -/
theorem play_advances_of_early {router : Router} {arrival : Arrival} (awaited : router.pending = some arrival)
    {spans : List Nat} (early : spans.sum < arrival.wait) :
    router.play (spans.map .advance) =
      { router with pending := some { arrival with wait := arrival.wait - spans.sum } } := by
  induction spans generalizing router arrival with
  | nil =>
    change router = _
    rw [List.sum_nil, Nat.sub_zero, ← awaited]
  | cons span rest ih =>
    rw [List.sum_cons] at early
    change (router.advance span).play (rest.map .advance) = _
    rw [advance_of_early awaited (by omega), ih rfl (by dsimp only; omega)]
    simp only [List.sum_cons, Nat.sub_sub]

/-- Time counts as a whole, from wherever a visit has led a router. Passing in two spans it leaves the
router, its page and its log as it does in one. Waiting a transition out is letting exactly the rest of its
time pass, or more, in any spans; shorter times only shorten the wait, and once the transition is over
neither more waiting nor more time changes anything. A clock at any moment that wakes whoever sleeps
as soon as it shows the moment due tells the same story of every visit. And all that counts of the time
in a visit is how much there is between its other actions. -/
theorem time_counts_as_a_whole (router : Router) :
    (∀ first second, (router.advance first).advance second = router.advance (first + second)) ∧
    (router.pending = none → router.settle = router ∧ ∀ ms, router.advance ms = router) ∧
    (∀ arrival, router.pending = some arrival →
      router.settle = router.advance arrival.wait ∧
      (∀ spans : List Nat, spans.sum < arrival.wait →
        router.play (spans.map .advance) =
          { router with pending := some { arrival with wait := arrival.wait - spans.sum } }) ∧
      ∀ (spans : List Nat) (ms : Nat), arrival.wait ≤ spans.sum + ms →
        (router.play (spans.map .advance)).advance ms = router.settle ∧
        (router.advance (spans.sum + ms)).settle = router.advance (spans.sum + ms)) ∧
    (router.settle.settle = router.settle ∧ ∀ ms, router.settle.advance ms = router.settle) ∧
    (∀ moment actions, (Clocked.mk router moment moment).story actions = router.story perform actions) ∧
    (Punctual router → ∀ actions,
      router.run actions = router.run (gathered 0 actions) ∧
        router.heard actions = router.heard (gathered 0 actions)) := by
  have idle : router.settle.pending = none := router.pending_settle
  refine ⟨router.advance_advance, fun idle => ⟨settle_of_idle idle, advance_of_idle idle⟩, ?_,
    ⟨settle_of_idle idle, advance_of_idle idle⟩, ?_, ?_⟩
  · intro arrival awaited
    have passed {ms : Nat} (due : arrival.wait ≤ ms) : router.advance ms = router.settle := by
      rw [settle_of_awaited awaited, advance_of_due awaited due]
    refine ⟨(passed (Nat.le_refl _)).symm, fun spans early => play_advances_of_early awaited early, ?_⟩
    intro spans ms due
    rw [play_advances, passed due]
    exact ⟨rfl, settle_of_idle idle⟩
  · intro moment actions
    rw [Clocked.story_eq, Clocked.reading_of_fresh rfl]
  · intro punctual actions
    have whole := router.run_gathered 0 actions
    rwa [punctual] at whole

/-- Three of seven milliseconds into a walk its target goes. One and two more change nothing, and one and
three end in the way back. -/
theorem time_counts_as_a_whole_on_the_way_back :
    let opening := (atHome .sample (Page.ofCatalog .sample)).withDelay 7
    let here := opening.play [.start, .settle, .walk .next, .advance 3, .page (.removeSection "skills")]
    let overview : Place := { index := 0, active := "overview" }
    let arrival : Arrival := { target := "skills", generation := 2, wait := 4, before := overview, highlights := [] }
    let actions : List Action := [.advance 1, .advance 2, .navigate "changelog" none, .advance 6, .settle]
    here.pending = some arrival ∧
      here.play [.advance 1, .advance 2] = { here with pending := some { arrival with wait := 1 } } ∧
      (here.advance 1).advance 3 = here.settle ∧ here.settle.place = overview ∧
      (here.advance 9).settle = here.advance 9 ∧ here.settle.settle = here.settle ∧
      (Clocked.mk here 100 100).story actions = here.story perform actions ∧
      here.run actions = here.run [.advance 3, .navigate "changelog" none, .advance 6, .settle, .advance 0] := by
  intro opening here overview arrival actions
  have awaited : here.pending = some arrival := by decide +kernel
  obtain ⟨cut, _, waiting, ⟨settled, _⟩, told, gathers⟩ := time_counts_as_a_whole here
  obtain ⟨exactly, early, late⟩ := waiting arrival awaited
  have punctual : Punctual here := by
    rw [Punctual, advance_of_early awaited (by decide), Nat.sub_zero, ← awaited]
  exact ⟨awaited, early [1, 2] (by decide), (cut 1 3).trans exactly.symm, by decide +kernel,
    (late [] 9 (by decide)).2, settled, told 100 actions, (gathers punctual actions).1⟩

end Router

end Vitae
