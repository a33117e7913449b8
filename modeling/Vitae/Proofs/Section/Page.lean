import Vitae.Section.Page

/-! What each operation on a page does to its elements and to what is shown of them. Links,
highlights and traces touch neither, so nearly every operation leaves both alone. -/

namespace Vitae.Page
open Std

variable (page : Page)

/-- The commands that show a section directly. -/
def Command.shows : Command → Bool
  | .activate _ => true
  | _ => false

/-- Only sections whose element is there are shown. -/
def Sound : Prop := ∀ id ∈ page.shown, id ∈ page.elements

theorem hasSection_iff {id : String} : page.hasSection id = true ↔ id ∈ page.elements :=
  ExtTreeSet.contains_iff_mem

theorem mem_active {id : String} : id ∈ page.active ↔ id ∈ page.shown :=
  ExtTreeSet.mem_toList

/-- Whatever is listed of an ordered table is listed by code point, and once. -/
theorem increasing_toList (names : ExtTreeSet String) : names.toList.Pairwise (· < ·) :=
  names.ordered_toList.imp compareOfLessAndEq_eq_lt.mp

theorem active_eq_nil_iff : page.active = [] ↔ page.shown = ∅ :=
  ExtTreeSet.toList_eq_nil_iff

/-- A page that shows at most one section lists it once or lists nothing: the list of what
is shown has no repetitions. -/
theorem active_of_only {id : String} (only : ∀ other ∈ page.shown, other = id) :
    page.active = [] ∨ page.active = [id] := by
  have listed : ∀ other ∈ page.active, other = id :=
    fun other member => only other (page.mem_active.mp member)
  have distinct := page.shown.distinct_toList
  change page.active.Pairwise _ at distinct
  match shown : page.active with
  | [] => exact Or.inl rfl
  | [first] => exact Or.inr (by rw [listed first (by simp [shown])])
  | first :: second :: rest =>
    have same : first = second := (listed first (by simp [shown])).trans (listed second (by simp [shown])).symm
    rw [shown, same] at distinct
    simp at distinct

theorem active_eq_singleton {id : String} (member : id ∈ page.shown)
    (only : ∀ other ∈ page.shown, other = id) : page.active = [id] := by
  rcases page.active_of_only only with nothing | single
  · rw [page.active_eq_nil_iff.mp nothing] at member
    exact absurd member ExtTreeSet.not_mem_empty
  · exact single

theorem active_of_shown_single {id : String} (shown : page.shown = ExtTreeSet.insert ∅ id) : page.active = [id] := by
  rw [active, shown]
  rfl

section Sections

/-! ### Operations that are not about sections -/

@[simp] theorem elements_deactivateAll : page.deactivateAll.elements = page.elements := rfl
@[simp] theorem shown_deactivateAll : page.deactivateAll.shown = ∅ := rfl
@[simp] theorem elements_scrollToTop : page.scrollToTop.elements = page.elements := rfl
@[simp] theorem shown_scrollToTop : page.scrollToTop.shown = page.shown := rfl
@[simp] theorem elements_clearHighlights : page.clearHighlights.elements = page.elements := rfl
@[simp] theorem shown_clearHighlights : page.clearHighlights.shown = page.shown := rfl
@[simp] theorem elements_animate (direction : Direction) : (page.animate direction).elements = page.elements := rfl
@[simp] theorem shown_animate (direction : Direction) : (page.animate direction).shown = page.shown := rfl
@[simp] theorem elements_vibrate (ms : Nat) : (page.vibrate ms).elements = page.elements := rfl
@[simp] theorem shown_vibrate (ms : Nat) : (page.vibrate ms).shown = page.shown := rfl

/-- Highlights are all that highlighting changes. -/
theorem highlight_eq (link : String) :
    (page.highlight link).1 = { page with highlighted := (page.highlight link).1.highlighted } := by
  unfold highlight
  split <;> rfl

@[simp] theorem elements_highlight (link : String) : (page.highlight link).1.elements = page.elements := by
  rw [highlight_eq]

@[simp] theorem shown_highlight (link : String) : (page.highlight link).1.shown = page.shown := by
  rw [highlight_eq]

@[simp] theorem links_highlight (link : String) : (page.highlight link).1.links = page.links := by
  rw [highlight_eq]

end Sections

/-! ### Showing a section -/

theorem activate_of_there {id : String} (there : page.hasSection id = true) :
    page.activate id = ({ page with shown := page.shown.insert id }, true) := by
  simp [activate, there]

theorem activate_of_gone {id : String} (gone : page.hasSection id = false) :
    page.activate id = (page, false) := by
  simp [activate, gone]

/-- What is shown is all that showing a section changes. -/
theorem activate_eq (id : String) : (page.activate id).1 = { page with shown := (page.activate id).1.shown } := by
  unfold activate
  split <;> rfl

@[simp] theorem elements_activate (id : String) : (page.activate id).1.elements = page.elements := by
  rw [activate_eq]

@[simp] theorem links_activate (id : String) : (page.activate id).1.links = page.links := by
  rw [activate_eq]

theorem mem_shown_activate {id other : String} :
    other ∈ (page.activate id).1.shown ↔ other ∈ page.shown ∨ other = id ∧ id ∈ page.elements := by
  cases there : page.hasSection id with
  | true =>
    have member := page.hasSection_iff.mp there
    rw [page.activate_of_there there]
    simp only [ExtTreeSet.mem_insert, LawfulEqCmp.compare_eq_iff_eq]
    grind
  | false =>
    have missing : id ∉ page.elements := fun member => by simp [page.hasSection_iff.mpr member] at there
    rw [page.activate_of_gone there]
    simp [missing]

/-! ### Commands -/

/-- No command but showing one makes another section visible. -/
theorem shown_handle_subset {command : Command} (hidden : command.shows = false) {id : String}
    (member : id ∈ (page.handle command).1.shown) : id ∈ page.shown := by
  cases command with
  | activate _ => cases hidden
  | addSection _ | removeSection _ => exact ExtTreeSet.mem_of_mem_erase member
  | deactivateAll => exact absurd member ExtTreeSet.not_mem_empty
  | highlight link => simpa [handle] using member
  | _ => exact member

namespace Sound
variable {page}

theorem of_unchanged (sound : page.Sound) {after : Page} (elements : after.elements = page.elements)
    (shown : after.shown = page.shown) : after.Sound := by
  intro id member
  rw [elements]
  exact sound id (shown ▸ member)

theorem of_hidden {page : Page} (hidden : page.shown = ∅) : page.Sound := by
  intro id member
  rw [hidden] at member
  exact absurd member ExtTreeSet.not_mem_empty

theorem activate (sound : page.Sound) (id : String) : (page.activate id).1.Sound := by
  intro other member
  rw [elements_activate]
  rcases page.mem_shown_activate.mp member with before | ⟨rfl, there⟩
  · exact sound other before
  · exact there

theorem handle (sound : page.Sound) (command : Command) : (page.handle command).1.Sound := by
  cases command with
  | addSection id =>
    intro other member
    obtain ⟨_, before⟩ := ExtTreeSet.mem_erase.mp member
    exact ExtTreeSet.mem_insert.mpr (Or.inr (sound other before))
  | removeSection id =>
    intro other member
    obtain ⟨different, before⟩ := ExtTreeSet.mem_erase.mp member
    exact ExtTreeSet.mem_erase.mpr ⟨different, sound other before⟩
  | deactivateAll => exact of_hidden rfl
  | activate id => exact sound.activate id
  | highlight link => exact sound.of_unchanged (page.elements_highlight link) (page.shown_highlight link)
  | _ => exact sound.of_unchanged rfl rfl

end Sound

/-! ### Fresh pages -/

/-- A page is drawn from a catalog one section after another: what holds of the page with nothing
on it and is kept by every section drawn holds of the whole page. -/
theorem ofCatalog_drawn {motive : List String → Page → Prop} (bare : motive [] empty)
    (draw : ∀ {drawn page} id, motive drawn page →
      motive (drawn ++ [id]) ((page.addSection id).addLink (linkName id) id))
    (catalog : Catalog) : motive catalog.sections (ofCatalog catalog) := by
  have fold (ids drawn : List String) (page : Page) (now : motive drawn page) :
      motive (drawn ++ ids) (ids.foldl (fun page id => (page.addSection id).addLink (linkName id) id) page) := by
    induction ids generalizing drawn page with
    | nil => simpa using now
    | cons id rest ih => simpa using ih (drawn ++ [id]) _ (draw id now)
  exact fold catalog.sections [] empty bare

theorem shown_ofCatalog (catalog : Catalog) : (ofCatalog catalog).shown = ∅ := by
  apply ofCatalog_drawn (motive := fun _ page => page.shown = ∅) rfl
  intro _ page id hidden
  simp [addSection, addLink, hidden]

theorem mem_elements_ofCatalog (catalog : Catalog) {id : String} :
    id ∈ (ofCatalog catalog).elements ↔ id ∈ catalog.sections := by
  apply ofCatalog_drawn (motive := fun drawn page => id ∈ page.elements ↔ id ∈ drawn) (by simp [empty])
  intro drawn page other present
  simp only [addSection, addLink, ExtTreeSet.mem_insert, LawfulEqCmp.compare_eq_iff_eq, List.mem_append, present,
    List.mem_singleton]
  grind

end Vitae.Page
