import Std.Data.ExtTreeMap
import Std.Data.ExtTreeSet
import Vitae.Section.Catalog

/-! The page that navigation acts on: section elements and which of them are shown, links
and which of them are highlighted, and what was done to it on the way. The page never
decides anything. It answers whether an element or a link was there, and the router reads
nothing else back. Tables are ordered by code point, and so is every list read from them. -/

namespace Vitae

open Std

structure Page where
  elements : ExtTreeSet String := ∅
  /-- The elements marked as visible. -/
  shown : ExtTreeSet String := ∅
  /-- The section that each link leads to. -/
  links : ExtTreeMap String String := ∅
  highlighted : ExtTreeSet String := ∅
  /-- How often the page was scrolled to its top. -/
  scrollResets : Nat := 0
  animations : List Direction := []
  /-- The lengths in milliseconds of the pulses played, on a device that has a motor. -/
  haptics : Option (List Nat) := none

namespace Page

/-- A page with nothing on it. -/
def empty : Page := {}

variable (page : Page)

/-- Puts up an element, hidden even if it replaces a visible one. -/
def addSection (id : String) : Page :=
  { page with elements := page.elements.insert id, shown := page.shown.erase id }

def removeSection (id : String) : Page :=
  { page with elements := page.elements.erase id, shown := page.shown.erase id }

/-- Puts up a link, or points an existing one elsewhere. -/
def addLink (link target : String) : Page :=
  { page with links := page.links.insert link target }

def withHaptics : Page :=
  { page with haptics := some [] }

/-- The link that a page drawn from a catalog has for a section. -/
def linkName (id : String) : String := "nav-" ++ id

/-- One hidden element and one link for every registered section. -/
def ofCatalog (catalog : Catalog) : Page :=
  catalog.sections.foldl (fun page id => (page.addSection id).addLink (linkName id) id) empty

def hasSection (id : String) : Bool :=
  page.elements.contains id

/-- The visible sections. -/
def active : List String :=
  page.shown.toList

def highlights : List String :=
  page.highlighted.toList

/-- The first link that leads to a section. -/
def linkFor? (id : String) : Option String :=
  (page.links.toList.find? fun entry => entry.2 == id).map (·.1)

def deactivateAll : Page :=
  { page with shown := ∅ }

/-- Shows a section, and tells whether its element is there. -/
def activate (id : String) : Page × Bool :=
  if page.hasSection id then ({ page with shown := page.shown.insert id }, true)
  else (page, false)

def scrollToTop : Page :=
  { page with scrollResets := page.scrollResets + 1 }

def clearHighlights : Page :=
  { page with highlighted := ∅ }

/-- Highlights a link beside those already highlighted, and tells whether it is there. -/
def highlight (link : String) : Page × Bool :=
  if page.links.contains link then
    ({ page with highlighted := page.highlighted.insert link }, true)
  else (page, false)

/-- Highlights the links that are there, after taking all highlights off. -/
def highlightOnly (links : List String) : Page :=
  links.foldl (fun page link => (page.highlight link).1) page.clearHighlights

def animate (direction : Direction) : Page :=
  { page with animations := page.animations ++ [direction] }

def supportsHaptics : Bool :=
  page.haptics.isSome

/-- Plays a pulse. A device without a motor ignores it. -/
def vibrate (ms : Nat) : Page :=
  { page with haptics := page.haptics.map (· ++ [ms]) }

/-- The pulses played so far. -/
def pulses : List Nat :=
  page.haptics.getD []

/-- What can be done to a page, or asked of it, directly. -/
inductive Command
  | addSection (id : String)
  | removeSection (id : String)
  | addLink (link target : String)
  | hasSection (id : String)
  | deactivateAll
  | activate (id : String)
  | scrollToTop
  | clearHighlights
  | highlight (link : String)
  | highlights
  | linkFor (id : String)
  | animate (direction : Direction)
  | supportsHaptics
  | vibrate (ms : Nat)
deriving DecidableEq, Repr

inductive Answer
  | nothing
  | truth (value : Bool)
  | links (ids : List String)
  | link (id : Option String)
deriving DecidableEq, Repr

/-- Carries out one command. -/
def handle : Command → Page × Answer
  | .addSection id => (page.addSection id, .nothing)
  | .removeSection id => (page.removeSection id, .nothing)
  | .addLink link target => (page.addLink link target, .nothing)
  | .hasSection id => (page, .truth (page.hasSection id))
  | .deactivateAll => (page.deactivateAll, .nothing)
  | .activate id => ((page.activate id).1, .truth (page.activate id).2)
  | .scrollToTop => (page.scrollToTop, .nothing)
  | .clearHighlights => (page.clearHighlights, .nothing)
  | .highlight link => ((page.highlight link).1, .truth (page.highlight link).2)
  | .highlights => (page, .links page.highlights)
  | .linkFor id => (page, .link (page.linkFor? id))
  | .animate direction => (page.animate direction, .nothing)
  | .supportsHaptics => (page, .truth page.supportsHaptics)
  | .vibrate ms => (page.vibrate ms, .nothing)

end Page

end Vitae
