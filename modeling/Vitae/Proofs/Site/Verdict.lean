import Vitae.Proofs.Section.Refusal
import Vitae.Proofs.Section.Reporting
import Vitae.Proofs.Site.Conversation
import Vitae.Proofs.Site.Posting

/-! What a navigation request comes to. Where the reader says they are is judged first: the section,
and then the position, if one is given. A request that passes is always carried out, because the router
put up for it has a page that lacks nothing; it is given up right after it was read off, with its
arrival still to come. -/

namespace Vitae
open Router

def Wish.isSelect : Wish → Bool
  | .select .. => true
  | _ => false

/-- A request that posts a wish to the route for it, with where the reader says they are. -/
inductive Request.Wishes (request : Request) (current : String) (index : Option Nat) : Wish → Prop
  | touch {start finish}
      (posts : request.Posts "/api/v1/navigation/gesture" GestureRequest.read { current, index, start, finish }) :
      Wishes request current index (.touch start finish)
  | press {key} (posts : request.Posts "/api/v1/navigation/key" KeyRequest.read { current, index, key }) :
      Wishes request current index (.press key)
  | select {target source}
      (posts : request.Posts "/api/v1/navigation/select" SelectRequest.read { current, index, target, source }) :
      Wishes request current index (.select target source)

namespace Router

variable {router : Router}

theorem asked_grant (threshold : Float) (wish : Wish) :
    ∃ aim, Asked router aim (router.grant threshold wish).1 (.ofOutcome? (router.grant threshold wish).2) := by
  cases wish with
  | touch start finish => exact ⟨_, asked_touch threshold start finish⟩
  | press key => exact ⟨_, asked_press key⟩
  | select target source => exact ⟨_, asked_navigate target source⟩

variable {catalog : Catalog} (oriented : Oriented catalog router) (whole : Whole router)
include oriented whole

/-- On a whole page there is always somewhere to walk on to. -/
theorem Whole.walk_applied (fits : catalog.order.length ≤ 2 ^ 63) (direction : Direction) :
    (router.walk direction).2 = .applied := by
  obtain ⟨rfl, here, _⟩ := oriented
  obtain ⟨next, stepped, inside, _⟩ := router.catalog.step?_inside fits here.inside direction
  obtain ⟨target, ordered, found⟩ := router.catalog.sectionAt?_of_lt inside
  have known := router.catalog.contains_iff.mpr (router.catalog.mem_sections_of_mem_order ordered)
  simp [walk, stepped, found, whole.navigate, known]

theorem Whole.follow_applied {id : String} (ordered : id ∈ catalog.order) : (router.navigate id none).2 = .applied := by
  obtain ⟨rfl, _⟩ := oriented
  have known := router.catalog.contains_iff.mpr (router.catalog.mem_sections_of_mem_order ordered)
  simp [whole.navigate, known]

/-- A touch or a key asks for nothing, or for a section that is there. -/
theorem Whole.grant_applied (fits : catalog.order.length ≤ 2 ^ 63) (threshold : Float) {wish : Wish}
    (moves : wish.isSelect = false) :
    (router.grant threshold wish).2 = none ∨ (router.grant threshold wish).2 = some .applied := by
  cases wish with
  | touch start finish =>
    simp only [grant, Router.touch]
    cases classify threshold start finish with
    | none => exact Or.inl rfl
    | some direction => exact Or.inr (congrArg some (whole.walk_applied oriented fits direction))
  | press key =>
    simp only [grant, Router.press]
    cases KeyRoute.ofKey? key with
    | none => exact Or.inl rfl
    | some route =>
      cases route with
      | relative direction => exact Or.inr (congrArg some (whole.walk_applied oriented fits direction))
      | first =>
        cases first : router.catalog.order.head? with
        | none => exact Or.inl rfl
        | some id =>
          have ordered := oriented.same ▸ List.mem_of_head? first
          exact Or.inr (congrArg some (whole.follow_applied oriented ordered))
      | last =>
        cases last : router.catalog.order.getLast? with
        | none => exact Or.inl rfl
        | some id =>
          have ordered := oriented.same ▸ List.mem_of_getLast? last
          exact Or.inr (congrArg some (whole.follow_applied oriented ordered))
  | select => cases moves

end Router

namespace Site

/-- The site's answer to a wish, with what the router put up for it reported. -/
def heed (site : Site) (current : String) (index : Option Nat) : Wish → Answered
  | .touch start finish => .ofReported GestureReply.toJson (site.gesture { current, index, start, finish })
  | .press key => .ofReported KeyReply.toJson (site.key { current, index, key })
  | .select target source => .ofReported SelectReply.toJson (site.select { current, index, target, source })

/-- How a reader is placed, or why not. The section counts before the position, and a position counts
even if the section has one of its own. -/
inductive Placing (site : Site) (current : String) (index : Option Nat) : Except SiteFault Router → Prop
  | placed (registered : current ∈ site.catalog.sections)
      (inside : ∀ position, index = some position → position < site.catalog.order.length) :
      Placing site current index (.ok (site.placed current index))
  | unregistered (unknown : current ∉ site.catalog.sections) :
      Placing site current index (.error (.notFound s!"Section '{current}' is not registered"))
  | outside {position} (registered : current ∈ site.catalog.sections) (given : index = some position)
      (beyond : site.catalog.order.length ≤ position) :
      Placing site current index
        (.error (.invalid (CatalogFault.indexOutOfRange position site.catalog.order.length).message))

variable {site : Site} {current : String} {index : Option Nat}

theorem placing_routerAt (site : Site) (current : String) (index : Option Nat) :
    Placing site current index (site.routerAt current index) := by
  by_cases registered : current ∈ site.catalog.sections
  · by_cases inside : ∀ position, index = some position → position < site.catalog.order.length
    · rw [routerAt_eq_placed registered inside]
      exact .placed registered inside
    · obtain ⟨position, given, beyond⟩ : ∃ position, index = some position ∧ site.catalog.order.length ≤ position := by
        simpa using inside
      have refused : site.routerAt current index =
          .error (.invalid (CatalogFault.indexOutOfRange position site.catalog.order.length).message) := by
        have known := site.catalog.contains_iff.mpr registered
        simp [routerAt, startingAt, known, given, withGestureIndex, placedAt, withDelay, beyond]
      rw [refused]
      exact .outside registered given beyond
  · have refused : site.routerAt current index = .error (.notFound s!"Section '{current}' is not registered") := by
      have unknown := mt site.catalog.contains_iff.mp registered
      simp [routerAt, startingAt, unknown]
    rw [refused]
    exact .unregistered registered

theorem respond_of_wishes {request : Request} {wish : Wish} (wishes : request.Wishes current index wish)
    (site : Site) (folder : Folder) : site.respond folder request = site.heed current index wish := by
  cases wishes with
  | touch posts =>
    rw [posts.respond .gesture rfl rfl, answer, posts.withBody]
    rfl
  | press posts =>
    rw [posts.respond .key rfl rfl, answer, posts.withBody]
    rfl
  | select posts =>
    rw [posts.respond .select rfl rfl, answer, posts.withBody]
    rfl

/-- A reader who cannot be placed is told why, whatever they wish for, and no router reports anything. -/
theorem heed_of_refused {fault : SiteFault} (refused : site.routerAt current index = .error fault) (wish : Wish) :
    site.heed current index wish = { response := fault.response } := by
  cases wish with
  | touch => simp only [heed, gesture, refused]; rfl
  | press => simp only [heed, key, refused]; rfl
  | select => simp only [heed, select, refused]; rfl

theorem response_heed (wish : Wish) : (site.heed current index wish).response = site.ask current index wish := by
  cases wish <;> rfl

/-- A touch or a key reports what its router did by the time it was given up. -/
theorem log_heed {router : Router} (accepted : site.routerAt current index = .ok router) {wish : Wish}
    (moves : wish.isSelect = false) :
    (site.heed current index wish).log = (router.grant site.settings.swipeThreshold wish).1.log := by
  cases wish with
  | touch => simp only [heed, gesture, accepted]; rfl
  | press => simp only [heed, key, accepted]; rfl
  | select => cases moves

/-- Where a router is that was put up for a request. -/
theorem placed_oriented (valid : site.catalog.Valid) (accepted : site.routerAt current index = .ok (site.placed current index)) :
    Oriented site.catalog (site.placed current index) :=
  (routerAt_opened accepted).oriented valid

/-- A request that is not waited for either leads nowhere and is reported nowhere, or is applied and
reported once, under the section that it leads to. -/
theorem heed_of_placed (valid : site.catalog.Valid) (fits : site.catalog.order.length ≤ 2 ^ 63)
    (accepted : site.routerAt current index = .ok (site.placed current index)) {wish : Wish} (moves : wish.isSelect = false) :
    let answered := site.heed current index wish
    let moved := ((site.placed current index).grant site.settings.swipeThreshold wish).1
    answered.response.verdict = (200, some .null, some (site.placed current index).place.toJson) ∧ answered.log = {} ∨
    answered.response.verdict = (200, some (.text "applied"), some moved.place.toJson) ∧
      answered.log = { announced := [announcement moved.place.active], events := [⟨.viewed, moved.place.active⟩] } := by
  intro answered moved
  have oriented := placed_oriented valid accepted
  have verdict := ask_verdict accepted placed_whole oriented.here wish
  have log : answered.log = moved.log := log_heed accepted moves
  rw [← response_heed] at verdict
  obtain ⟨aim, asked⟩ := (site.placed current index).asked_grant site.settings.swipeThreshold wish
  rcases placed_whole.grant_applied oriented fits site.settings.swipeThreshold moves with nothing | applied
  · left
    rw [nothing] at asked verdict
    have still : moved = site.placed current index := asked.kept (by simp [Reply.ofOutcome?])
    have place : ((site.placed current index).grant site.settings.swipeThreshold wish).1.place = (site.placed current index).place :=
      congrArg Router.place still
    exact ⟨place ▸ verdict, log.trans (congrArg Router.log still)⟩
  · right
    rw [applied] at asked verdict
    obtain ⟨id, _, leaves⟩ := (asked.leaves.resolve_left fun ignored => ignored.1 rfl).2
    have active : moved.place.active = id := congrArg Place.active leaves.place
    refine ⟨verdict, log.trans ?_⟩
    rw [active]
    exact leaves.log

/-- A request is refused with 404 exactly when the section that it comes from is not registered, and
with 400 exactly when that is registered and a position is given that is not one of the order's, even
if the section has one of its own; nothing is told then but the reason. Every other request is
answered with 200. One that is not waited for leads nowhere, and leaves the reader where they were
put, or is applied and told once, under the section where the reader is then; and once its router is
given up, nothing more is told. No list in memory has more than 2 ^ 63 elements, so the steps on the way
stay within the words. -/
theorem navigation_verdict (valid : site.catalog.Valid) {request : Request} {wish : Wish}
    (wishes : request.Wishes current index wish) (folder : Folder) :
    let size := site.catalog.order.length
    let answered := site.respond folder request
    (answered.response.status = 404 ↔ current ∉ site.catalog.sections) ∧
    (answered.response.status = 400 ↔
      current ∈ site.catalog.sections ∧ ∃ position, index = some position ∧ size ≤ position) ∧
    (answered.response.status = 200 ↔
      current ∈ site.catalog.sections ∧ ∀ position, index = some position → position < size) ∧
    answered.response.status ≠ 500 ∧
    (answered.response.status = 404 →
      answered = { response := .refusal 404 "NOT_FOUND" s!"Section '{current}' is not registered" }) ∧
    (answered.response.status = 400 → ∃ position, index = some position ∧
      answered =
        { response := .refusal 400 "VALIDATION_ERROR" s!"gesture index {position} is out of range for {size} sections" }) ∧
    (answered.response.status = 200 → wish.isSelect = false → size ≤ 2 ^ 63 →
      ∃ router, site.routerAt current index = .ok router ∧
        let moved := (router.grant site.settings.swipeThreshold wish).1
        (answered.response.verdict = (200, some .null, some router.place.toJson) ∧ answered.log = {} ∨
          answered.response.verdict = (200, some (.text "applied"), some moved.place.toJson) ∧
            answered.log = { announced := [announcement moved.place.active], events := [⟨.viewed, moved.place.active⟩] }) ∧
        ∀ waits : List Action, (∀ action ∈ waits, action.isWait = true) →
          (moved.close.play waits).log = answered.log) := by
  intro size answered
  have heeded : answered = site.heed current index wish := respond_of_wishes wishes site folder
  have placing := site.placing_routerAt current index
  generalize accepted : site.routerAt current index = result at placing
  cases placing with
  | unregistered unknown =>
    rw [heed_of_refused accepted] at heeded
    have status : answered.response.status = 404 := by rw [heeded]; rfl
    rw [status]
    refine ⟨?_, ?_, ?_, ?_, fun _ => heeded, ?_, ?_⟩
    all_goals simp [unknown]
  | @outside position registered given beyond =>
    rw [heed_of_refused accepted] at heeded
    have status : answered.response.status = 400 := by rw [heeded]; rfl
    rw [status]
    refine ⟨?_, ?_, ?_, ?_, ?_, fun _ => ⟨position, given, heeded⟩, ?_⟩
    all_goals simp [registered, given, beyond, size]
  | placed registered inside =>
    have verdict := ask_verdict accepted placed_whole (placed_oriented valid accepted).here wish
    have status : answered.response.status = 200 := by
      rw [heeded, response_heed]
      exact congrArg Prod.fst verdict
    rw [status]
    refine ⟨?_, ?_, ?_, ?_, ?_, ?_, fun _ moves fits => ⟨_, rfl, ?_, fun waits only => ?_⟩⟩
    · simp [registered]
    · simpa [registered, size] using inside
    · exact ⟨fun _ => ⟨registered, inside⟩, fun _ => rfl⟩
    · simp
    · simp
    · simp
    · exact heeded ▸ heed_of_placed valid fits accepted moves
    · rw [(play_waits_of_idle rfl only).1, heeded, log_heed accepted moves]
      rfl

/-- A position past the order is refused although the section has its own, and the last one is where a
reader of an informational section goes on from. -/
theorem navigation_verdict_beside_order :
    let folder : Folder := { entries := [] }
    let past := Request.posting "/api/v1/navigation/key"
      "\x7b\"current\": \"skills\", \"index\": 18446744073709551615, \"key\": \"Home\"\x7d"
    let last := Request.posting "/api/v1/navigation/key"
      "\x7b\"current\": \"changelog\", \"index\": 1, \"key\": \"ArrowRight\"\x7d"
    sample.catalog.Valid ∧ past.Wishes "skills" (some 18446744073709551615) (.press "Home") ∧
      last.Wishes "changelog" (some 1) (.press "ArrowRight") ∧
      (sample.respond folder past).response.status = 400 ∧ (sample.respond folder past).log = {} ∧
      (sample.respond folder last).response.status = 200 ∧
      (sample.respond folder last).log = { announced := ["Showing overview section"], events := [⟨.viewed, "overview"⟩] } ∧
      ∃ router, sample.routerAt "changelog" (some 1) = .ok router ∧
        ((router.grant sample.settings.swipeThreshold (.press "ArrowRight")).1.close.play [.advance 60]).log =
          (sample.respond folder last).log := by
  intro folder past last
  have valid : sample.catalog.Valid := @Catalog.valid_of_build _ ["overview", "skills"] ["changelog"] none rfl
  have beyond : past.Wishes "skills" (some 18446744073709551615) (.press "Home") :=
    .press (.of_body (by decide) (by decide +kernel) (by decide +kernel))
  have inside : last.Wishes "changelog" (some 1) (.press "ArrowRight") := .press (.of_body (by decide) (by decide +kernel) (by decide +kernel))
  obtain ⟨_, refusal, _, _, _, told, _⟩ := navigation_verdict valid beyond folder
  obtain ⟨_, _, acceptance, _, _, _, reports⟩ := navigation_verdict valid inside folder
  have refused : (sample.respond folder past).response.status = 400 := refusal.mpr ⟨by decide, _, rfl, by decide⟩
  have accepted : (sample.respond folder last).response.status = 200 := by
    refine acceptance.mpr ⟨by decide, ?_⟩
    rintro position ⟨⟩
    decide
  obtain ⟨position, _, explained⟩ := told refused
  obtain ⟨router, placed, _, silent⟩ := reports accepted rfl (by decide)
  have log : (sample.respond folder last).log = { announced := ["Showing overview section"], events := [⟨.viewed, "overview"⟩] } := by
    rw [respond_of_wishes inside]
    decide +kernel
  exact ⟨valid, beyond, inside, refused, congrArg Answered.log explained, accepted, log, router, placed, silent _ (by decide)⟩

end Site

end Vitae
