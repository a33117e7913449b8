import Vitae.Section.Router

/-! A visit as a sequence of actions: what the reader asks of the router, what happens to
the page from outside, and the time between. After every action the arrivals whose wait is
over have happened, so with no delay a navigation is complete at once. Between two actions a
superseded step may turn out to have been called off too late. -/

namespace Vitae

inductive Action
  | start
  | navigate (id : String) (source : Option Source)
  | walk (direction : Direction)
  | press (key : String)
  /-- A touch, read with a threshold of its own or the usual one. -/
  | touch (start finish : TouchPoint) (threshold : Float := defaultThreshold)
  | settle
  | advance (ms : Nat)
  | page (command : Page.Command)
  | close

/-- What can happen in a visit. -/
inductive Happening
  | action (action : Action)
  /-- A superseded step goes on although it was called off. -/
  | late (number : Nat)

inductive Reply
  | nothing
  | outcome (outcome : Outcome)
  | page (answer : Page.Answer)
deriving DecidableEq, Repr

namespace Reply

/-- The reply to a key or a touch that may not be bound to navigation. -/
def ofOutcome? : Option Outcome → Reply
  | none => .nothing
  | some known => .outcome known

end Reply

namespace Router

variable (router : Router)

/-- Carries out an action, before any time passes. -/
def perform : Action → Router × Reply
  | .start => let (moved, outcome) := router.start; (moved, .outcome outcome)
  | .navigate id source =>
    let (moved, outcome) := router.navigate id source
    (moved, .outcome outcome)
  | .walk direction => let (moved, outcome) := router.walk direction; (moved, .outcome outcome)
  | .press key => let (moved, outcome) := router.press key; (moved, .ofOutcome? outcome)
  | .touch start finish threshold =>
    let (moved, outcome) := router.touch threshold start finish
    (moved, .ofOutcome? outcome)
  | .settle => (router.settle, .nothing)
  | .advance ms => (router.advance ms, .nothing)
  | .page command =>
    let (page, answer) := router.page.handle command
    ({ router with page }, .page answer)
  | .close => (router.close, .nothing)

/-- Lets something happen. -/
def happen : Happening → Router × Reply
  | .action action => router.perform action
  | .late number => (router.late number, .nothing)

/-- Carries out an action and whatever is due right after it. -/
def act (action : Action) : Router × Reply :=
  let (moved, reply) := router.perform action
  (moved.advance 0, reply)

/-- The router after everything that has happened. -/
def undergo (happenings : List Happening) : Router :=
  happenings.foldl (fun router happening => (router.happen happening).1) router

/-- The router after a whole visit. -/
def run (actions : List Action) : Router :=
  actions.foldl (fun router action => (router.act action).1) router

end Router

end Vitae
