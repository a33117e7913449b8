import Vitae.Site.Fault
import Vitae.Site.Requests
import Vitae.Site.Startup

/-! Navigation over single requests. The site remembers nothing between two of them: each
says where the reader is, a router is put there, moved, read off and given up. -/

namespace Vitae

def Direction.toJson : Option Direction → Json
  | none => .text "none"
  | some direction => .text direction.name

def Outcome.toJson : Option Outcome → Json
  | none => .null
  | some outcome => .text outcome.name

def Place.toJson (place : Place) : Json :=
  .record [("current_index", .number place.index), ("active_section", .text place.active)]

def Catalog.toJson (catalog : Catalog) : Json :=
  .record
    [("order", .texts catalog.order),
     ("informational", .texts catalog.informational),
     ("default", .text catalog.home)]

structure GestureReply where
  direction : Option Direction
  outcome : Option Outcome
  place : Place
deriving DecidableEq, Repr

def GestureReply.toJson (reply : GestureReply) : Json :=
  .record
    [("direction", Direction.toJson reply.direction),
     ("outcome", Outcome.toJson reply.outcome),
     ("state", reply.place.toJson)]

structure KeyReply where
  outcome : Option Outcome
  place : Place
deriving DecidableEq, Repr

def KeyReply.toJson (reply : KeyReply) : Json :=
  .record [("outcome", Outcome.toJson reply.outcome), ("state", reply.place.toJson)]

structure SelectReply where
  outcome : Outcome
  place : Place
  /-- The sections visible when the transition is over. -/
  active : List String
  highlighted : List String
deriving DecidableEq, Repr

def SelectReply.toJson (reply : SelectReply) : Json :=
  .record
    [("outcome", .text reply.outcome.name),
     ("state", reply.place.toJson),
     ("active", .texts reply.active),
     ("highlighted", .texts reply.highlighted)]

namespace Site

variable (site : Site)

/-- A router on a page of its own, placed where the reader says they are. -/
def routerAt (current : String) (index : Option Nat) : Except SiteFault Router :=
  match Router.startingAt site.catalog (Page.ofCatalog site.catalog) current with
  | .error _ => .error (.notFound s!"Section '{current}' is not registered")
  | .ok router =>
    let placed := router.withDelay site.settings.transitionDelay
    match index with
    | none => .ok placed
    | some position =>
      match placed.withGestureIndex position with
      | .ok seeded => .ok seeded
      | .error (.indexOutOfRange position size) =>
        .error (.invalid (CatalogFault.indexOutOfRange position size).message)
      | .error fault => .error (.internal fault.message)

/-- Follows a touch. -/
def gesture (request : GestureRequest) : Except SiteFault (GestureReply × Log) := do
  let router ← site.routerAt request.current request.index
  let direction := classify site.settings.swipeThreshold request.start request.finish
  let (moved, outcome) :=
    router.touch site.settings.swipeThreshold request.start request.finish
  return ({ direction, outcome, place := moved.place }, moved.log)

/-- Follows a key. -/
def key (request : KeyRequest) : Except SiteFault (KeyReply × Log) := do
  let router ← site.routerAt request.current request.index
  let (moved, outcome) := router.press request.key
  return ({ outcome, place := moved.place }, moved.log)

/-- Follows a link or the menu, and waits until the transition is over. -/
def select (request : SelectRequest) : Except SiteFault (SelectReply × Log) := do
  let router ← site.routerAt request.current request.index
  let (moved, outcome) := router.start.1.navigate request.target request.source
  let settled := moved.settle
  return (
    { outcome
      place := settled.place
      active := settled.page.active
      highlighted := settled.page.highlights },
    settled.log)

end Site

end Vitae
