import Vitae.Proofs.Section.Page

/-! Links and what is highlighted of them. Links are put up and never taken down, so a link
that was highlighted once can be highlighted again, however much later. -/

namespace Vitae
open Std

namespace Page

variable (page : Page)

/-- Only links that are there are highlighted. -/
def Linked : Prop := ∀ link ∈ page.highlighted, link ∈ page.links

theorem mem_highlights {link : String} : link ∈ page.highlights ↔ link ∈ page.highlighted :=
  ExtTreeSet.mem_toList

theorem highlight_of_there {link : String} (there : link ∈ page.links) :
    (page.highlight link).1 = { page with highlighted := page.highlighted.insert link } := by
  have found : page.links.contains link = true := ExtTreeMap.contains_iff_mem.mpr there
  simp [highlight, found]

theorem highlight_of_gone {link : String} (gone : link ∉ page.links) : (page.highlight link).1 = page := by
  have missing : ¬ page.links.contains link = true := fun found => gone (ExtTreeMap.contains_iff_mem.mp found)
  rw [highlight, if_neg missing]

theorem mem_highlighted_highlight {link other : String} :
    other ∈ (page.highlight link).1.highlighted ↔ other ∈ page.highlighted ∨ other = link ∧ link ∈ page.links := by
  by_cases there : link ∈ page.links
  · rw [page.highlight_of_there there]
    simp only [ExtTreeSet.mem_insert, LawfulEqCmp.compare_eq_iff_eq, there]
    grind
  · rw [page.highlight_of_gone there]
    simp [there]

/-- Highlighting again changes nothing but highlights, and leaves those of the asked links that
are there. -/
theorem highlightOnly_spec (ids : List String) :
    page.highlightOnly ids = { page with highlighted := (page.highlightOnly ids).highlighted } ∧
    ∀ link, link ∈ (page.highlightOnly ids).highlighted ↔ link ∈ ids ∧ link ∈ page.links := by
  have fold (page : Page) (ids : List String) :
      let after := ids.foldl (fun page link => (page.highlight link).1) page
      after = { page with highlighted := after.highlighted } ∧
      ∀ link, link ∈ after.highlighted ↔ link ∈ page.highlighted ∨ link ∈ ids ∧ link ∈ page.links := by
    induction ids generalizing page with
    | nil => exact ⟨rfl, by simp⟩
    | cons id rest ih =>
      obtain ⟨same, members⟩ := ih (page.highlight id).1
      refine ⟨?_, fun link => ?_⟩
      · rw [List.foldl_cons, same, highlight_eq]
      · rw [List.foldl_cons, members, links_highlight, mem_highlighted_highlight]
        grind
  obtain ⟨same, members⟩ := fold page.clearHighlights ids
  refine ⟨same, fun link => ?_⟩
  rw [highlightOnly, members]
  simp [clearHighlights]

@[simp] theorem shown_highlightOnly (links : List String) : (page.highlightOnly links).shown = page.shown := by
  rw [(page.highlightOnly_spec links).1]

/-- Highlights that were taken off or replaced come back in full. -/
theorem highlightOnly_highlights {before : Page} (linked : before.Linked)
    (kept : ∀ link ∈ before.links, link ∈ page.links) :
    page.highlightOnly before.highlights = { page with highlighted := before.highlighted } := by
  obtain ⟨same, members⟩ := page.highlightOnly_spec before.highlights
  have restored : (page.highlightOnly before.highlights).highlighted = before.highlighted := by
    apply ExtTreeSet.ext_mem
    intro link
    rw [members, mem_highlights]
    exact ⟨fun both => both.1, fun member => ⟨member, kept link (linked link member)⟩⟩
  rw [same, restored]

namespace Linked
variable {page}

theorem of_bare {page : Page} (bare : page.highlighted = ∅) : page.Linked := by
  intro link member
  rw [bare] at member
  exact absurd member ExtTreeSet.not_mem_empty

theorem of_unchanged (linked : page.Linked) {after : Page} (highlighted : after.highlighted = page.highlighted)
    (links : after.links = page.links) : after.Linked := by
  intro link member
  rw [links]
  exact linked link (highlighted ▸ member)

theorem highlight (linked : page.Linked) (link : String) : (page.highlight link).1.Linked := by
  intro other member
  rw [links_highlight]
  rcases page.mem_highlighted_highlight.mp member with before | ⟨rfl, there⟩
  · exact linked other before
  · exact there

theorem highlightOnly (ids : List String) : (page.highlightOnly ids).Linked := by
  obtain ⟨same, members⟩ := page.highlightOnly_spec ids
  intro link member
  rw [same]
  exact ((members link).mp member).2

theorem handle (linked : page.Linked) (command : Command) : (page.handle command).1.Linked := by
  cases command with
  | addLink id target =>
    intro link member
    exact ExtTreeMap.mem_insert.mpr (Or.inr (linked link member))
  | activate id =>
    change (page.activate id).1.Linked
    unfold Page.activate
    split <;> exact linked
  | clearHighlights => exact of_bare rfl
  | highlight link => exact linked.highlight link
  | _ => exact linked.of_unchanged rfl rfl

end Linked

/-! ### The link found for a section -/

theorem linkFor?_eq_none_iff {id : String} : page.linkFor? id = none ↔ ∀ link : String, page.links[link]? ≠ some id := by
  rw [linkFor?, Option.map_eq_none_iff, List.find?_eq_none]
  constructor
  · intro elsewhere link leads
    exact elsewhere (link, id) (ExtTreeMap.mem_toList_iff_getElem?_eq_some.mpr leads) (beq_self_eq_true id)
  · rintro elsewhere ⟨link, target⟩ listed same
    obtain rfl : target = id := eq_of_beq same
    exact elsewhere link (ExtTreeMap.mem_toList_iff_getElem?_eq_some.mp listed)

theorem leads_of_linkFor? {id link : String} (found : page.linkFor? id = some link) : page.links[link]? = some id := by
  obtain ⟨⟨_, target⟩, entry, rfl⟩ := Option.map_eq_some_iff.mp found
  have same : target = id := by simpa using List.find?_some entry
  rw [← same]
  exact ExtTreeMap.mem_toList_iff_getElem?_eq_some.mp (List.mem_of_find?_eq_some entry)

/-- The links are gone through by code point, so the one found is the least that leads there. -/
theorem linkFor?_le {id link other : String} (found : page.linkFor? id = some link)
    (leads : page.links[other]? = some id) : link ≤ other := by
  obtain ⟨⟨_, target⟩, entry, rfl⟩ := Option.map_eq_some_iff.mp found
  obtain ⟨_, before, after, listed, elsewhere⟩ := List.find?_eq_some_iff_append.mp entry
  have ordered := ExtTreeMap.ordered_keys_toList (t := page.links)
  have member : (other, id) ∈ page.links.toList := ExtTreeMap.mem_toList_iff_getElem?_eq_some.mpr leads
  rw [listed] at ordered member
  obtain ⟨_, ordered, _⟩ := List.pairwise_append.mp ordered
  -- No link before the one found leads there, so the other is that one or comes after it.
  rcases List.mem_append.mp member with early | late
  · simpa using elsewhere _ early
  · rcases List.mem_cons.mp late with same | late
    · cases same
      exact String.le_refl _
    · exact Std.le_of_lt (compareOfLessAndEq_eq_lt.mp (List.rel_of_pairwise_cons ordered late))

theorem linkFor?_eq_some_iff {id link : String} : page.linkFor? id = some link ↔
    page.links[link]? = some id ∧ ∀ other : String, page.links[other]? = some id → link ≤ other := by
  refine ⟨fun found => ⟨page.leads_of_linkFor? found, fun _ => page.linkFor?_le found⟩, fun ⟨leads, least⟩ => ?_⟩
  cases found : page.linkFor? id with
  | none => exact absurd leads (page.linkFor?_eq_none_iff.mp found link)
  | some first =>
    have before := least first (page.leads_of_linkFor? found)
    rw [String.le_antisymm (page.linkFor?_le found leads) before]

/-! ### Fresh pages -/

theorem highlighted_ofCatalog (catalog : Catalog) : (ofCatalog catalog).highlighted = ∅ := by
  apply ofCatalog_drawn (motive := fun _ page => page.highlighted = ∅) rfl
  intro _ page id bare
  exact bare

/-- The links drawn from a catalog lead to its sections, each by its own name. -/
theorem getElem?_links_ofCatalog (catalog : Catalog) {link id : String} :
    (ofCatalog catalog).links[link]? = some id ↔ id ∈ catalog.sections ∧ link = linkName id := by
  apply ofCatalog_drawn (motive := fun drawn page => page.links[link]? = some id ↔ id ∈ drawn ∧ link = linkName id)
    (by simp [empty])
  intro drawn page other leads
  have named : linkName other = linkName id ↔ other = id := String.append_right_inj "nav-"
  simp only [addSection, addLink, ExtTreeMap.getElem?_insert, LawfulEqCmp.compare_eq_iff_eq, List.mem_append,
    List.mem_singleton]
  grind

theorem mem_links_ofCatalog (catalog : Catalog) {link : String} :
    link ∈ (ofCatalog catalog).links ↔ ∃ id ∈ catalog.sections, link = linkName id := by
  rw [ExtTreeMap.mem_iff_isSome_getElem?, Option.isSome_iff_exists]
  exact exists_congr fun id => getElem?_links_ofCatalog catalog

/-- A section has one link on such a page, so that is the one found for it. -/
theorem linkFor?_ofCatalog {catalog : Catalog} {id : String} (registered : id ∈ catalog.sections) :
    (ofCatalog catalog).linkFor? id = some (linkName id) := by
  refine (linkFor?_eq_some_iff _).mpr ⟨(getElem?_links_ofCatalog catalog).mpr ⟨registered, rfl⟩, ?_⟩
  intro other leads
  obtain ⟨_, rfl⟩ := (getElem?_links_ofCatalog catalog).mp leads
  exact String.le_refl _

end Page

end Vitae
