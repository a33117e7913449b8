import Vitae.Section.Gesture
import Vitae.Section.Page
import Vitae.Section.Report

/-! The router owns which section is showing and draws it onto the page. Applying a
navigation hides every section at once and leaves the arrival, which scrolls to the top and
shows the target, for when the transition is over. A later navigation takes the place of a
pending arrival, so the last one wins. If the target's element is gone when its arrival
comes, the place and the highlights from before that navigation are restored.

An arrival is a step that sleeps until its wait is over. One that is superseded is called off,
but it may have woken up already. Applied navigations are therefore numbered, and a step that
finds another number than its own does nothing.

Time passes only by `advance` and `settle`, and an arrival happens as soon as its wait is
over. -/

namespace Vitae

/-- The section showing, and the position from which swipes and arrow keys step on. The
position stays where it was while an informational section is showing. -/
structure Place where
  index : Nat
  active : String
deriving DecidableEq, Repr

/-- The control that asked for a section. -/
inductive Source
  /-- A link, which is highlighted. -/
  | link (id : String)
  /-- The menu; the link that leads to the section is highlighted. -/
  | dropdown
deriving DecidableEq, Repr

inductive Outcome
  | applied
  | unknownTarget
  | missingElement
deriving DecidableEq, Repr

def Outcome.name : Outcome → String
  | .applied => "applied"
  | .unknownTarget => "ignored_unknown_target"
  | .missingElement => "ignored_missing_element"

/-- What a navigation leaves for later, and what to return to if its element is gone by then. -/
structure Step where
  target : String
  /-- The number of the navigation. -/
  generation : Nat
  before : Place
  highlights : List String
deriving DecidableEq, Repr

/-- A step still to come. -/
structure Arrival extends Step where
  /-- The milliseconds left until it happens. -/
  wait : Nat
deriving DecidableEq, Repr

/-- The length of a transition in milliseconds, unless configured. -/
def defaultDelay : Nat := 50

/-- The length in milliseconds of the pulse played for a swipe. -/
def pulseLength : Nat := 30

structure Router where
  catalog : Catalog
  place : Place
  page : Page
  delay : Nat := defaultDelay
  /-- The number of the last navigation that was applied. -/
  generation : Nat := 0
  pending : Option Arrival := none
  /-- The steps whose place another one took while they were pending. -/
  superseded : List Step := []
  log : Log := {}

namespace Router

/-- A router placed at a section. Nothing is shown before `start`. -/
def placedAt (catalog : Catalog) (page : Page) (id : String) : Router :=
  { catalog, page, place := { index := (catalog.position? id).getD 0, active := id } }

/-- A router placed at the catalog's home. -/
def atHome (catalog : Catalog) (page : Page) : Router :=
  placedAt catalog page catalog.home

/-- A router placed at a section that has to be registered. -/
def startingAt (catalog : Catalog) (page : Page) (id : String) : Except CatalogFault Router :=
  if catalog.contains id then .ok (placedAt catalog page id) else .error (.unknownHome id)

variable (router : Router)

/-- Sets the position to step on from while an informational section is showing. An ordered
section has its own position, but the index is checked for it as well. -/
def withGestureIndex (index : Nat) : Except CatalogFault Router :=
  let size := router.catalog.order.length
  if size ≤ index then .error (.indexOutOfRange index size)
  else
    match router.catalog.position? router.place.active with
    | some _ => .ok router
    | none => .ok { router with place := { router.place with index } }

def withDelay (ms : Nat) : Router :=
  { router with delay := ms }

/-- The place after moving to a section. -/
def placeOf (id : String) : Place :=
  { index := (router.catalog.position? id).getD router.place.index, active := id }

/-- The highlights that a control leaves behind. Without a control they stay as they are. -/
def mark (page : Page) (id : String) : Option Source → Page
  | none => page
  | some (.link link) => (page.clearHighlights.highlight link).1
  | some .dropdown =>
    match page.linkFor? id with
    | some link => (page.clearHighlights.highlight link).1
    | none => page.clearHighlights

/-- Leaves for a section: everything is hidden and its arrival becomes the pending one. -/
def depart (id : String) (source : Option Source) : Router :=
  { router with
    place := router.placeOf id
    page := mark router.page.deactivateAll id source
    generation := router.generation + 1
    pending := some
      { target := id
        generation := router.generation + 1
        wait := router.delay
        before := router.place
        highlights := router.page.highlights }
    superseded := router.superseded ++ router.pending.toList.map (·.toStep)
    log := router.log.tell .viewed id }

/-- Goes to a section, which has to be registered and to have an element on the page. -/
def navigate (id : String) (source : Option Source) : Router × Outcome :=
  if router.catalog.contains id then
    if router.page.hasSection id then (router.depart id source, .applied)
    else (router, .missingElement)
  else (router, .unknownTarget)

/-- Goes to the section that the router is placed at. -/
def start : Router × Outcome :=
  router.navigate router.place.active none

/-- The traces that a swipe leaves on the page. -/
def swiped (direction : Direction) : Router :=
  { router with page := (router.page.animate direction).vibrate pulseLength }

/-- Goes one step through the ordered sections. -/
def walk (direction : Direction) : Router × Outcome :=
  match router.catalog.step? router.place.index direction with
  | none => (router, .unknownTarget)
  | some index =>
    match router.catalog.sectionAt? index with
    | none => (router, .unknownTarget)
    | some target =>
      match router.navigate target none with
      | (moved, .applied) => (moved.swiped direction, .applied)
      | ignored => ignored

/-- Follows a key. A key that is not bound to navigation has no outcome. -/
def press (key : String) : Router × Option Outcome :=
  let follow (target : Option String) : Router × Option Outcome :=
    match target with
    | none => (router, none)
    | some id => let (moved, outcome) := router.navigate id none; (moved, some outcome)
  match KeyRoute.ofKey? key with
  | none => (router, none)
  | some (.relative direction) =>
    let (moved, outcome) := router.walk direction
    (moved, some outcome)
  | some .first => follow router.catalog.order.head?
  | some .last => follow router.catalog.order.getLast?

/-- Follows a touch. A touch that is no swipe has no outcome. -/
def touch (threshold : Float) (start finish : TouchPoint) : Router × Option Outcome :=
  match classify threshold start finish with
  | none => (router, none)
  | some direction =>
    let (moved, outcome) := router.walk direction
    (moved, some outcome)

/-- Returns to the place and the highlights from before a navigation. -/
def restore (step : Step) : Router :=
  { router with
    place := step.before
    page := (router.page.activate step.before.active).1.highlightOnly step.highlights
    log := router.log.tell .restored step.before.active }

/-- A step wakes up. Only that of the last navigation that was applied goes on. -/
def wake (step : Step) : Router :=
  if step.generation = router.generation then
    let (page, found) := router.page.scrollToTop.activate step.target
    let arrived : Router := { router with page }
    if found then arrived else arrived.restore step
  else router

/-- The end of a transition: its step wakes up and nothing is pending any more. -/
def arrive (arrival : Arrival) : Router :=
  wake { router with pending := none } arrival.toStep

/-- A superseded step that had woken up before it was called off goes on. -/
def late (number : Nat) : Router :=
  match router.superseded[number]? with
  | none => router
  | some step => router.wake step

/-- Lets time pass. -/
def advance (ms : Nat) : Router :=
  match router.pending with
  | none => router
  | some arrival =>
    if arrival.wait ≤ ms then router.arrive arrival
    else { router with pending := some { arrival with wait := arrival.wait - ms } }

/-- Waits out the pending transition. -/
def settle : Router :=
  match router.pending with
  | none => router
  | some arrival => router.arrive arrival

/-- Gives the router up. Its pending arrival never happens. -/
def close : Router :=
  { router with pending := none }

end Router

end Vitae
