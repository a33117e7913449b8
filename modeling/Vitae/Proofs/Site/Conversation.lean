import Vitae.Proofs.Section.Presence
import Vitae.Proofs.Site.Placement
import Vitae.Site.Routes

/-! A reader who sends back the place of every response moves as if one router had been kept for
them. The router put up for a request is placed like the one kept, on a page of its own that
lacks nothing, and the two answer alike; what only the kept one has seen, its log, its
highlights and its pending arrival, never decides where a navigation leads. -/

namespace Vitae
open Router

/-- What a reader asks for, whoever remembers where they are. -/
inductive Wish
  | touch (start finish : TouchPoint)
  | press (key : String)
  | select (target : String) (source : Option Source)

/-- What happens to a router that is kept: the reader asks for something, or time passes. -/
inductive Moment
  | asked (wish : Wish)
  | pause (ms : Nat)

def Moment.wish? : Moment → Option Wish
  | .asked wish => some wish
  | .pause _ => none

namespace Response

/-- A field of the record in a response. -/
def field? (response : Response) (name : String) : Option Json :=
  match response.content with
  | .json (.record fields) => fields.lookup name
  | _ => none

/-- The place that a reader finds in a response. -/
def place? (response : Response) : Option Place :=
  match response.field? "state" with
  | some (.record fields) =>
    match fields.lookup "current_index", fields.lookup "active_section" with
    | some (.number index), some (.text active) => some { index, active }
    | _, _ => none
  | _ => none

/-- The status of a response and what it says of the outcome and of the place. -/
def verdict (response : Response) : Nat × Option Json × Option Json :=
  (response.status, response.field? "outcome", response.field? "state")

end Response

namespace Site

variable (site : Site)

/-- The response to a navigation request that has been read. -/
def ask (current : String) (index : Option Nat) : Wish → Response
  | .touch start finish =>
    (Answered.ofReported GestureReply.toJson (site.gesture { current, index, start, finish })).response
  | .press key => (Answered.ofReported KeyReply.toJson (site.key { current, index, key })).response
  | .select target source =>
    (Answered.ofReported SelectReply.toJson (site.select { current, index, target, source })).response

/-- The responses to one request after another, each sent from the place in the response before
it. A response without a place ends the conversation. -/
def converse (current : String) (index : Option Nat) : List Wish → List Response
  | [] => []
  | wish :: rest =>
    let response := site.ask current index wish
    response :: match response.place? with
      | none => []
      | some place => converse place.active (some place.index) rest

end Site

namespace Router

/-- Does what a reader asks for. -/
def grant (threshold : Float) (router : Router) : Wish → Router × Option Outcome
  | .touch start finish => router.touch threshold start finish
  | .press key => router.press key
  | .select target source =>
    let (moved, outcome) := router.navigate target source
    (moved, some outcome)

/-- What a router that is kept answers to each wish, and where it is then. -/
def follow (threshold : Float) (router : Router) : List Moment → List (Option Outcome × Place)
  | [] => []
  | .pause ms :: rest => (router.advance ms).follow threshold rest
  | .asked wish :: rest =>
    let (moved, outcome) := router.grant threshold wish
    (outcome, moved.place) :: moved.follow threshold rest

theorem effect_grant {router : Router} (action : Action) (threshold : Float) (wish : Wish) :
    Effect router action (router.grant threshold wish).1 (.ofOutcome? (router.grant threshold wish).2) := by
  cases wish with
  | touch start finish => exact effect_touch action threshold start finish
  | press key => exact effect_press action key
  | select target source => exact effect_navigate action target source

theorem Alike.grant {first second : Router} (alike : Alike first second) (threshold : Float) (wish : Wish) :
    (first.grant threshold wish).2 = (second.grant threshold wish).2 ∧
    Alike (first.grant threshold wish).1 (second.grant threshold wish).1 := by
  cases wish with
  | touch start finish => exact Alike.lockstep.touch alike threshold start finish
  | press key => exact Alike.lockstep.press alike key
  | select target source =>
    obtain ⟨same, moved⟩ := Alike.lockstep.navigate alike target source
    exact ⟨congrArg some same, moved⟩

/-- Time passing keeps a router alike. -/
theorem Alike.advance {first second : Router} (alike : Alike first second) (ms : Nat) :
    Alike (first.advance ms) second := by
  have effect : Effect first (.advance ms) (first.advance ms) .nothing := effect_advance _ ms
  have place := effect.place_of_quiet alike.here rfl (by simp)
  exact ⟨effect.catalog_eq.trans alike.catalog, place.trans alike.place, effect.whole alike.here rfl, alike.there⟩

/-- Starting a router on a whole page again leaves it where it is. -/
theorem Whole.start_alike {router : Router} (whole : Whole router) (here : router.place.Coherent router.catalog) :
    Alike router.start.1 router := by
  have place : router.placeOf router.place.active = router.place := by
    simp only [placeOf, here.looked_up]
  rw [whole.start here.registered]
  exact ⟨rfl, place, whole.depart here.registered none, whole⟩

end Router

namespace Site

variable {site : Site} {current : String} {index : Option Nat}

theorem placed_whole : Whole (site.placed current index) :=
  ⟨fun _ member => (Page.mem_elements_ofCatalog site.catalog).mpr member, fun _ pending => (nomatch pending)⟩

private theorem place?_of_state {response : Response} {place : Place}
    (state : response.field? "state" = some place.toJson) : response.place? = some place := by
  rw [Response.place?, state]
  rfl

/-- A request answers with what its router does, also a selection, which starts the router
first and waits until it has arrived. -/
theorem ask_verdict {router : Router} (accepted : site.routerAt current index = .ok router)
    (whole : Whole router) (here : router.place.Coherent router.catalog) (wish : Wish) :
    (site.ask current index wish).verdict =
      (200, some (Outcome.toJson (router.grant site.settings.swipeThreshold wish).2),
        some (router.grant site.settings.swipeThreshold wish).1.place.toJson) := by
  cases wish with
  | touch start finish =>
    simp only [ask, gesture, accepted]
    rfl
  | press key =>
    simp only [ask, Site.key, accepted]
    rfl
  | select target source =>
    obtain ⟨same, moved⟩ := Alike.lockstep.navigate (whole.start_alike here) target source
    have settled := (effect_settle .settle).place_of_quiet moved.here rfl (by simp)
    have place := settled.trans moved.place
    simp only [ask, select, accepted]
    change (200, some (Outcome.toJson (some _)), some (Place.toJson _)) = _
    rw [same, place]
    rfl

/-- The step of the simulation: a kept router and the one put up for a request agree on the
answer, and the place in it puts up a router that is like the kept one again. -/
private theorem follow_step {live router moved : Router} {outcome : Option Outcome}
    (oriented : Oriented site.catalog live) (accepted : site.routerAt current index = .ok router)
    (alike : Alike live router) {wish : Wish}
    (granted : live.grant site.settings.swipeThreshold wish = (moved, outcome)) :
    (site.ask current index wish).verdict = (200, some (Outcome.toJson outcome), some moved.place.toJson) ∧
    Oriented site.catalog moved ∧
    site.routerAt moved.place.active (some moved.place.index) = .ok (site.placed moved.place.active (some moved.place.index)) ∧
    Alike moved (site.placed moved.place.active (some moved.place.index)) := by
  obtain ⟨same, like⟩ := alike.grant site.settings.swipeThreshold wish
  have effect := @effect_grant live .start site.settings.swipeThreshold wish
  rw [granted] at same like effect
  have here : router.place.Coherent router.catalog := by
    rw [← alike.catalog, ← alike.place, oriented.same]
    exact oriented.here
  have after := effect.oriented oriented
  refine ⟨?_, after, ?_, ?_⟩
  · rw [ask_verdict accepted alike.there here, ← same, ← like.place]
  · apply routerAt_eq_placed after.here.registered
    intro position given
    cases given
    exact after.here.inside
  · exact ⟨after.same, (place_placed after.here).symm, like.here, placed_whole⟩

private theorem converse_follows {live router : Router} (oriented : Oriented site.catalog live)
    (accepted : site.routerAt current index = .ok router) (alike : Alike live router) (moments : List Moment) :
    (site.converse current index (moments.filterMap Moment.wish?)).map Response.verdict =
      (live.follow site.settings.swipeThreshold moments).map fun (outcome, place) =>
        (200, some (Outcome.toJson outcome), some place.toJson) := by
  induction moments generalizing live router current index with
  | nil => rfl
  | cons moment rest ih =>
    cases moment with
    | pause ms =>
      have later := (effect_advance (.advance ms) ms).oriented oriented
      exact ih later accepted (alike.advance ms)
    | asked wish =>
      rcases granted : live.grant site.settings.swipeThreshold wish with ⟨moved, outcome⟩
      obtain ⟨verdict, after, again, like⟩ := follow_step oriented accepted alike granted
      have state : (site.ask current index wish).place? = some moved.place :=
        place?_of_state (congrArg (fun verdict => verdict.2.2) verdict)
      simp only [List.filterMap_cons, Moment.wish?, converse, follow, granted, state, List.map_cons, verdict]
      rw [ih after again like]

/-- From any registered section, with any position inside the order, every request of a
conversation is answered, and with the outcome and the place of one router that was put there
once and kept, however much time passes for it in between. -/
theorem converse_eq_follow (valid : site.catalog.Valid) (registered : current ∈ site.catalog.sections)
    (inside : ∀ position, index = some position → position < site.catalog.order.length) :
    ∃ router, site.routerAt current index = .ok router ∧ ∀ moments : List Moment,
      (site.converse current index (moments.filterMap Moment.wish?)).map Response.verdict =
        (router.follow site.settings.swipeThreshold moments).map fun (outcome, place) =>
          (200, some (Outcome.toJson outcome), some place.toJson) := by
  have accepted := routerAt_eq_placed registered inside
  refine ⟨_, accepted, fun moments => ?_⟩
  have alike : Alike (site.placed current index) (site.placed current index) :=
    ⟨rfl, rfl, placed_whole, placed_whole⟩
  exact converse_follows ((routerAt_opened accepted).oriented valid) accepted alike moments

/-- A conversation from an informational section with a position of its own, past the end of the
order and over a section that nobody registered. -/
theorem converse_eq_follow_around :
    let settings : Settings :=
      { port := 8080, logLevel := "info", siteRoot := "./public", contactEmail := "me@home", transitionDelay := 50
        swipeThreshold := 50.0, sectionOrder := ["overview", "skills"], infoSections := ["changelog"], homeSection := none }
    let site : Site := { settings, catalog := .sample }
    let moments : List Moment :=
      [.asked (.press "ArrowRight"), .pause 20, .asked (.select "nowhere" none),
        .asked (.select "changelog" (some .dropdown)), .pause 70, .asked (.press "ArrowLeft")]
    site.catalog.Valid ∧ "changelog" ∈ site.catalog.sections ∧
      (∀ position, some 1 = some position → position < site.catalog.order.length) ∧
      (∃ router, site.routerAt "changelog" (some 1) = .ok router ∧
        (site.converse "changelog" (some 1) (moments.filterMap Moment.wish?)).map Response.verdict =
          (router.follow site.settings.swipeThreshold moments).map fun (outcome, place) =>
            (200, some (Outcome.toJson outcome), some place.toJson)) ∧
      (site.converse "changelog" (some 1) (moments.filterMap Moment.wish?)).map Response.place? =
        [some ⟨0, "overview"⟩, some ⟨0, "overview"⟩, some ⟨0, "changelog"⟩, some ⟨1, "skills"⟩] := by
  intro settings site moments
  have valid : site.catalog.Valid := @Catalog.valid_of_build _ ["overview", "skills"] ["changelog"] none rfl
  have registered : "changelog" ∈ site.catalog.sections := by decide
  have inside : ∀ position, some 1 = some position → position < site.catalog.order.length := by
    rintro position ⟨⟩
    decide
  obtain ⟨router, accepted, same⟩ := converse_eq_follow valid registered inside
  exact ⟨valid, registered, inside, ⟨router, accepted, same moments⟩, by decide +kernel⟩

end Site

end Vitae
