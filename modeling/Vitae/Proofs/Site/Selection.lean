import Mathlib.Data.List.Basic
import Vitae.Proofs.Site.Verdict

/-! Selecting a section in one request. The router put up for it starts where the reader says
they are, leaves for the selected section at once and is waited for, so the answer shows where
that led: the departure of the start is told, and its arrival never comes. -/

namespace Vitae
open Router

/-- The links that a control leaves highlighted on a page drawn from a catalog, when it leads to
one of the sections. -/
def Catalog.highlightsAfter (catalog : Catalog) (target : String) : Option Source → List String
  | none => []
  | some .dropdown => ["nav-" ++ target]
  | some (.link link) => if ∃ id ∈ catalog.sections, link = "nav-" ++ id then [link] else []

namespace Router
open Std

theorem highlights_mark {catalog : Catalog} (page : Page) (links : page.links = (Page.ofCatalog catalog).links)
    (bare : page.highlighted = ∅) {id : String} (registered : id ∈ catalog.sections) (source : Option Source) :
    (mark page id source).highlights = catalog.highlightsAfter id source := by
  have single (link : String) (there : link ∈ page.links) : (page.clearHighlights.highlight link).1.highlights = [link] := by
    rw [Page.highlight_of_there _ (show link ∈ page.clearHighlights.links from there)]
    rfl
  have drawn (link : String) : link ∈ page.links ↔ ∃ id ∈ catalog.sections, link = "nav-" ++ id :=
    links ▸ Page.mem_links_ofCatalog catalog
  cases source with
  | none =>
    change page.highlighted.toList = []
    rw [bare]
    rfl
  | some source =>
    cases source with
    | link link =>
      by_cases there : link ∈ page.links
      · exact (single link there).trans (if_pos ((drawn link).mp there)).symm
      · have kept : (page.clearHighlights.highlight link).1 = page.clearHighlights := Page.highlight_of_gone _ there
        simp only [mark, Catalog.highlightsAfter, kept, if_neg (mt (drawn link).mpr there)]
        rfl
    | dropdown =>
      have found : page.linkFor? id = some (Page.linkName id) := by
        rw [Page.linkFor?, links]
        exact Page.linkFor?_ofCatalog registered
      simp only [mark, found]
      exact single _ ((drawn _).mpr ⟨id, registered, rfl⟩)

/-- On a whole page a departure that is waited out shows where it led and nothing else. -/
theorem Whole.settle_depart {router : Router} (whole : Whole router) {id : String}
    (registered : id ∈ router.catalog.sections) (source : Option Source) :
    let settled := (router.depart id source).settle
    settled.place = router.placeOf id ∧ settled.page.active = [id] ∧
      settled.page.highlights = (mark router.page.deactivateAll id source).highlights ∧
      settled.log = router.log.tell .viewed id := by
  intro settled
  have there : (router.depart id source).page.hasSection id = true := (whole.depart registered source).there registered
  have arrived : settled = { router.depart id source with
      page := ((router.depart id source).page.scrollToTop.activate id).1, pending := none } :=
    arrive_of_there _ rfl there
  have shown : settled.page = { (router.depart id source).page.scrollToTop with shown := ExtTreeSet.insert ∅ id } := by
    rw [arrived, Page.activate_of_there _ (show (router.depart id source).page.scrollToTop.hasSection id = true from there)]
    simp
  refine ⟨by rw [arrived]; rfl, settled.page.active_of_shown_single (by rw [shown]), ?_, by rw [arrived]; rfl⟩
  rw [shown]
  rfl

end Router

namespace Site

variable {site : Site} {current : String} {index : Option Nat}

theorem placeOf_placed : (site.placed current index).placeOf current = (site.placed current index).place := by
  cases found : site.catalog.position? current <;> simp [placeOf, placed, placedAt, found]

/-- What is left of a selection when its router is given up, and what was told on the way. -/
theorem select_eq (registered : current ∈ site.catalog.sections)
    (inside : ∀ position, index = some position → position < site.catalog.order.length)
    (target : String) (source : Option Source) :
    site.select { current, index, target, source } = .ok (
      if target ∈ site.catalog.sections then
        ({ outcome := .applied
           place := (site.placed current index).placeOf target
           active := [target]
           highlighted := site.catalog.highlightsAfter target source },
         (({} : Log).tell .viewed current).tell .viewed target)
      else
        ({ outcome := .unknownTarget
           place := (site.placed current index).place
           active := [current]
           highlighted := [] },
         ({} : Log).tell .viewed current)) := by
  let started := (site.placed current index).depart current none
  have whole : Whole started := placed_whole.depart registered none
  have departed : (site.placed current index).start.1 = started := congrArg Prod.fst (placed_whole.start registered)
  simp only [select, routerAt_eq_placed registered inside, bind, Except.bind, pure, Except.pure, departed]
  split
  next known =>
    have moved : started.navigate target source = (started.depart target source, .applied) :=
      (whole.navigate target source).trans (if_pos (site.catalog.contains_iff.mpr known))
    obtain ⟨place, active, highlights, log⟩ := whole.settle_depart known source
    have marked : (mark started.page.deactivateAll target source).highlights = site.catalog.highlightsAfter target source :=
      highlights_mark started.page.deactivateAll rfl (Page.highlighted_ofCatalog _) known source
    have onward : started.placeOf target = (site.placed current index).placeOf target := by
      rw [placeOf, show started.place = (site.placed current index).place from placeOf_placed]
      rfl
    rw [moved, place, active, highlights, log, marked, onward]
    rfl
  next unknown =>
    have kept : started.navigate target source = (started, .unknownTarget) :=
      (whole.navigate target source).trans (if_neg (mt site.catalog.contains_iff.mp unknown))
    obtain ⟨place, active, highlights, log⟩ := (@placed_whole site current index).settle_depart registered none
    have bare : (mark (site.placed current index).page.deactivateAll current none).highlights = [] :=
      highlights_mark _ rfl (Page.highlighted_ofCatalog _) registered none
    rw [kept, place, active, highlights, log, bare, placeOf_placed]
    rfl

/-- Whatever is to be selected, from any registered section and with any position inside the
order, the site has an answer, and every request for it is given that one. A registered target is
then where the reader is and all that is visible, with the links highlighted that its control
leaves so; any other leaves them where they were put. Either way the start is told first, and then
the target if it was reached; nothing else is. -/
theorem selection_shows_target {selection : SelectRequest} (registered : selection.current ∈ site.catalog.sections)
    (inside : ∀ position, selection.index = some position → position < site.catalog.order.length) :
    ∃ router reply log, site.routerAt selection.current selection.index = .ok router ∧
      site.select selection = .ok (reply, log) ∧
      (∀ (folder : Folder) (request : Request),
        request.Posts "/api/v1/navigation/select" SelectRequest.read selection →
        site.respond folder request = { response := .json 200 reply.toJson, log }) ∧
      (selection.target ∈ site.catalog.sections →
        reply =
          { outcome := .applied
            place :=
              { index := (site.catalog.position? selection.target).getD router.place.index
                active := selection.target }
            active := [selection.target]
            highlighted := site.catalog.highlightsAfter selection.target selection.source } ∧
        log =
          { announced := [announcement selection.current, announcement selection.target]
            events := [⟨.viewed, selection.current⟩, ⟨.viewed, selection.target⟩] }) ∧
      (selection.target ∉ site.catalog.sections →
        reply = { outcome := .unknownTarget, place := router.place, active := [selection.current], highlighted := [] } ∧
        log = { announced := [announcement selection.current], events := [⟨.viewed, selection.current⟩] }) := by
  have accepted := routerAt_eq_placed registered inside
  have selected := select_eq registered inside selection.target selection.source
  by_cases known : selection.target ∈ site.catalog.sections
  · rw [if_pos known] at selected
    refine ⟨_, _, _, accepted, selected, fun folder request posts => ?_, fun _ => ⟨rfl, rfl⟩, absurd known⟩
    exact (respond_of_wishes (.select posts) site folder).trans
      (congrArg (Answered.ofReported SelectReply.toJson) selected)
  · rw [if_neg known] at selected
    refine ⟨_, _, _, accepted, selected, fun folder request posts => ?_, fun reached => absurd reached known, fun _ => ⟨rfl, rfl⟩⟩
    exact (respond_of_wishes (.select posts) site folder).trans
      (congrArg (Answered.ofReported SelectReply.toJson) selected)

/-- A section beside the order is selected again, by a link to another section, on a site whose
transitions take no time. -/
theorem selection_shows_target_beside_order :
    let settings : Settings :=
      { port := 8080, logLevel := "info", siteRoot := "./public", contactEmail := "me@home", transitionDelay := 0
        swipeThreshold := 50.0, sectionOrder := ["overview", "skills"], infoSections := ["changelog"], homeSection := none }
    let site : Site := { settings, catalog := .sample }
    let request : Request :=
      { method := "POST", target := "/api/v1/navigation/select?by=link", contentType := some "application/json; charset=utf-8"
        body := "\x7b\"target\": \"changelog\", \"source\": \x7b\"link\": \"nav-skills\"\x7d, \"current\": \"changelog\", \"index\": 1\x7d" }
    let selection : SelectRequest :=
      { current := "changelog", index := some 1, target := "changelog", source := some (.link "nav-skills") }
    selection.current ∈ site.catalog.sections ∧
      (∀ position, selection.index = some position → position < site.catalog.order.length) ∧
      request.Posts "/api/v1/navigation/select" SelectRequest.read selection ∧
      site.respond { entries := [] } request =
        { response := .json 200 (SelectReply.toJson
            { outcome := .applied, place := { index := 1, active := "changelog" }, active := ["changelog"]
              highlighted := ["nav-skills"] })
          log :=
            { announced := ["Showing changelog section", "Showing changelog section"]
              events := [⟨.viewed, "changelog"⟩, ⟨.viewed, "changelog"⟩] } } := by
  intro settings site request selection
  have registered : selection.current ∈ site.catalog.sections := by decide
  have inside : ∀ position, selection.index = some position → position < site.catalog.order.length := by
    rintro position ⟨⟩
    decide
  have posts : request.Posts "/api/v1/navigation/select" SelectRequest.read selection :=
    ⟨rfl, by decide, by decide, by decide +kernel, by decide +kernel⟩
  have known : selection.target ∈ site.catalog.sections := by decide
  obtain ⟨router, reply, log, accepted, _, responds, reached, _⟩ := @selection_shows_target site selection registered inside
  obtain ⟨rfl, rfl⟩ := reached known
  cases accepted
  exact ⟨registered, inside, posts, responds _ request posts⟩

end Site

end Vitae
