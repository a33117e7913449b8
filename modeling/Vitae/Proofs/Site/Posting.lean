import Mathlib.Data.List.TakeWhile
import Vitae.Proofs.Section.Catalog
import Vitae.Site.Routes

/-! Requests that post a body to one of the site's routes. Once the body is read, only what it says
counts: the route's answer to that is the answer to the request. A body that is too large is never
read, and the routes all answer it alike. -/

namespace Vitae

/-- A request that posts a body to a path, announced as JSON and within the limit, from which a value
is read. -/
structure Request.Posts {α : Type} (request : Request) (path : String) (read : Json.Reader α) (value : α) : Prop where
  posted : request.method = "POST"
  path : request.path = path
  announced : request.contentType.map MediaType.isJson = some true
  fits : request.body.utf8ByteSize ≤ Request.bodyLimit
  read : read (Json.Document.ofText request.body) = .ok value

/-- The plainest request that posts a body. -/
def Request.posting (path body : String) : Request :=
  { method := "POST", target := path, contentType := some "application/json", body }

/-- A site to look at single requests with. -/
def Site.sample : Site where
  settings :=
    { port := 8080, logLevel := "info", siteRoot := "./public", contactEmail := "me@home", transitionDelay := 50
      swipeThreshold := 50.0, sectionOrder := ["overview", "skills"], infoSections := ["changelog"], homeSection := none }
  catalog := .sample

/-- A response that does nothing but explain a fault. -/
def Response.refusal (status : Nat) (code message : String) : Response :=
  .json status (.record [("error", .record [("code", .text code), ("message", .text message)])])

namespace Request.Posts
variable {α : Type} {request : Request} {path : String} {read : Json.Reader α} {value : α}

/-- A path with no query in it can be posted to with any body that fits and reads as it should. -/
theorem of_body {body : String} (plain : '?' ∉ path.toList) (fits : body.utf8ByteSize ≤ Request.bodyLimit)
    (reads : read (Json.Document.ofText body) = .ok value) :
    (Request.posting path body).Posts path read value := by
  have whole : path.toList.takeWhile (· ≠ '?') = path.toList := by
    refine List.takeWhile_eq_self_iff.mpr fun c member => decide_eq_true ?_
    rintro rfl
    exact plain member
  refine ⟨rfl, ?_, rfl, fits, reads⟩
  rw [Request.path, Request.posting, whole, String.ofList_toList]

theorem respond (posts : request.Posts path read value) (route : Route) (routed : Route.ofPath? path = some route)
    (posted : route.isFetched = false) (site : Site) (folder : Folder) :
    site.respond folder request = site.answer folder request route := by
  simp [Site.respond, posts.path, routed, posted, posts.posted]

theorem withBody (posts : request.Posts path read value) (answer : α → Answered) :
    request.withBody read answer = answer value := by
  simp [Request.withBody, posts.announced, Nat.not_lt.mpr posts.fits, posts.read]

end Request.Posts

/-- Every route that a body can be posted to refuses one over the limit, whatever it says. -/
theorem Site.respond_of_large {request : Request} (posted : request.method = "POST")
    (announced : request.contentType.map MediaType.isJson = some true) {route : Route}
    (routed : Route.ofPath? request.path = some route) (posts : route.isFetched = false)
    (large : Request.bodyLimit < request.body.utf8ByteSize) (site : Site) (folder : Folder) :
    site.respond folder request = { response := .rejection 413 "The body is too large" } := by
  have refused {α : Type} (read : Json.Reader α) (answer : α → Answered) :
      request.withBody read answer = { response := .rejection 413 "The body is too large" } := by
    simp [Request.withBody, announced, large]
  have answered : site.respond folder request = site.answer folder request route := by
    simp [Site.respond, routed, posts, posted]
  rw [answered]
  cases route with
  | health | sections | chart | stylesheet => cases posts
  | gesture | key | select | bars | theme | timeline | contact | dialog => exact refused _ _

end Vitae
