import Vitae.Section.Ring
import Vitae.Text.Blank

/-! The sections of the page. The ordered ones are walked through by swipes and arrow keys;
the informational ones are registered beside them and are reached only by naming them. A
catalog is built once and never changes. -/

namespace Vitae

structure Catalog where
  order : List String
  informational : List String
  /-- The section shown when nothing else is asked for. -/
  home : String
deriving DecidableEq, Repr

inductive CatalogFault
  | emptyOrder
  | duplicate (id : String)
  | blankId
  | unknownHome (id : String)
  | indexOutOfRange (index size : Nat)
deriving DecidableEq, Repr

namespace CatalogFault

def message : CatalogFault → String
  | .emptyOrder => "section order must contain at least one section"
  | .duplicate id => s!"section '{id}' appears more than once"
  | .blankId => "section id must not be blank"
  | .unknownHome id => s!"default section '{id}' is not registered"
  | .indexOutOfRange index size => s!"gesture index {index} is out of range for {size} sections"

end CatalogFault

namespace Catalog

/-- The first fault among the ids, given those already seen. An id that is blank is not
compared with the earlier ones. -/
def firstFault (seen : List String) : List String → Option CatalogFault
  | [] => none
  | id :: rest =>
    if Text.blank id then some .blankId
    else if id ∈ seen then some (.duplicate id)
    else firstFault (seen ++ [id]) rest

/-- Builds the catalog, with the first ordered section as its home unless another registered
section is asked for. -/
def build (order informational : List String) (home : Option String) :
    Except CatalogFault Catalog :=
  match order with
  | [] => .error .emptyOrder
  | first :: _ =>
    match firstFault [] (order ++ informational) with
    | some fault => .error fault
    | none =>
      match home with
      | none => .ok { order, informational, home := first }
      | some id =>
        if id ∈ order ++ informational then .ok { order, informational, home := id }
        else .error (.unknownHome id)

variable (catalog : Catalog)

/-- Every registered id, the ordered ones first. -/
def sections : List String :=
  catalog.order ++ catalog.informational

def contains (id : String) : Bool :=
  catalog.sections.contains id

/-- The place of an id in the order; informational ids have none. -/
def position? (id : String) : Option Nat :=
  catalog.order.idxOf? id

def sectionAt? (index : Nat) : Option String :=
  catalog.order[index]?

/-- The ordered position next to `index`, wrapping at both ends. -/
def step? (index : Nat) (direction : Direction) : Option Nat :=
  Ring.step? catalog.order.length index direction

/-- What every built catalog satisfies. -/
structure Valid : Prop where
  ordered : catalog.order ≠ []
  named : ∀ id ∈ catalog.sections, Text.blank id = false
  distinct : catalog.sections.Nodup
  home_registered : catalog.home ∈ catalog.sections

end Catalog

end Vitae
