import Vitae.Http.MediaType
import Vitae.Site.Folder
import Vitae.Site.Navigation
import Vitae.Site.Widgets
import Vitae.Stylesheet

/-! From requests to responses. A path is either one of the site's routes or leads to a file
in its folder. A route answers one method; the head of what can be fetched can be asked for
as well. A route with a body refuses one that is not announced as JSON before reading it, and
one that is too large while reading it; it reads all of any other before deciding anything. -/

namespace Vitae

inductive Route
  | health
  | sections
  | gesture
  | key
  | select
  | chart
  | bars
  | theme
  | timeline
  | contact
  | dialog
  | stylesheet
deriving DecidableEq, Repr

def Route.ofPath? : String → Option Route
  | "/health" => some .health
  | "/api/v1/sections" => some .sections
  | "/api/v1/navigation/gesture" => some .gesture
  | "/api/v1/navigation/key" => some .key
  | "/api/v1/navigation/select" => some .select
  | "/api/v1/skills/chart" => some .chart
  | "/api/v1/skills/bars" => some .bars
  | "/api/v1/page/theme" => some .theme
  | "/api/v1/page/timeline/toggle" => some .timeline
  | "/api/v1/contact" => some .contact
  | "/api/v1/contact/modal" => some .dialog
  | "/styles.min.css" => some .stylesheet
  | _ => none

/-- Whether a route is fetched; the others have a body posted to them. -/
def Route.isFetched : Route → Bool
  | .health | .sections | .chart | .stylesheet => true
  | _ => false

/-- What the site says of itself. -/
def Site.health : Json :=
  .record
    [("status", .text "ok"), ("version", .text "0.1.0"), ("service", .text "resume-site")]

/-- A response and what the routers behind it reported. -/
structure Answered where
  response : Response
  log : Log := {}

namespace Answered

/-- The answer to a request, or the explanation of why there is none. -/
def ofResult {α : Type} (toJson : α → Json) : Except SiteFault α → Answered
  | .error fault => { response := fault.response }
  | .ok value => { response := .json 200 (toJson value) }

/-- The same for an answer that comes with reports. -/
def ofReported {α : Type} (toJson : α → Json) : Except SiteFault (α × Log) → Answered
  | .error fault => { response := fault.response }
  | .ok (value, log) => { response := .json 200 (toJson value), log }

end Answered

/-- The largest size in bytes of a body that is read. -/
def Request.bodyLimit : Nat := 2 * 1024 * 1024

/-- Reads the body of a request and goes on with what it says. -/
def Request.withBody {α : Type} (request : Request) (read : Json.Reader α)
    (answer : α → Answered) : Answered :=
  if (request.contentType.map MediaType.isJson).getD false then
    if Request.bodyLimit < request.body.utf8ByteSize then
      { response := .rejection 413 "The body is too large" }
    else
      match read (Json.Document.ofText request.body) with
      | .ok value => answer value
      | .error .malformed => { response := .rejection 400 "The body is not JSON" }
      | .error .mismatch =>
        { response := .rejection 422 "The body does not have the expected shape" }
  else { response := .rejection 415 "The body is not announced as JSON" }

/-- The stylesheet of a folder, made smaller. -/
def Folder.stylesheet (folder : Folder) : Response :=
  match folder.readText "styles.css" with
  | .error fault => fault.response
  | .ok css =>
    { status := 200
      contentType := some "text/css; charset=utf-8"
      content := .text (Stylesheet.compact css) }

namespace Site

variable (site : Site)

/-- Answers a request that came to a route by its method. -/
def answer (folder : Folder) (request : Request) : Route → Answered
  | .health => { response := .json 200 Site.health }
  | .sections => { response := .json 200 site.catalog.toJson }
  | .chart => { response := .json 200 Chart.ai.toJson }
  | .stylesheet => { response := folder.stylesheet }
  | .gesture => request.withBody GestureRequest.read fun gesture =>
    .ofReported GestureReply.toJson (site.gesture gesture)
  | .key => request.withBody KeyRequest.read fun key =>
    .ofReported KeyReply.toJson (site.key key)
  | .select => request.withBody SelectRequest.read fun selection =>
    .ofReported SelectReply.toJson (site.select selection)
  | .bars => request.withBody BarsRequest.read fun bars =>
    { response := .json 200 bars.answer.toJson }
  | .theme => request.withBody ThemeRequest.read fun theme =>
    { response := .json 200 theme.answer.toJson }
  | .timeline => request.withBody TimelineRequest.read fun entry =>
    { response := .json 200 entry.answer.toJson }
  | .contact => request.withBody ContactForm.read fun form =>
    .ofResult ContactReply.toJson (site.contact form)
  | .dialog => request.withBody DialogRequest.read fun dialog =>
    { response := .json 200 dialog.answer.toJson }

/-- Answers any request. -/
def respond (folder : Folder) (request : Request) : Answered :=
  match Route.ofPath? request.path with
  | some route =>
    if route.isFetched then
      if request.method = "GET" then site.answer folder request route
      else if request.method = "HEAD" then
        let answered := site.answer folder request route
        { answered with response := answered.response.headOnly }
      else { response := .bare 405 }
    else if request.method = "POST" then site.answer folder request route
    else { response := .bare 405 }
  | none =>
    if request.method = "GET" then { response := folder.serve request.path }
    else if request.method = "HEAD" then { response := (folder.serve request.path).headOnly }
    else { response := .bare 405 }

end Site

end Vitae
