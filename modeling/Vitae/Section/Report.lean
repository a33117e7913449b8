/-! What the router tells the outside: a spoken announcement and an analytics event for
every change of section. Both are sent together and nothing comes back, so a log of what
was said is all there is to know about them. -/

namespace Vitae

inductive EventKind
  | viewed
  | restored
deriving DecidableEq, Repr

def EventKind.name : EventKind → String
  | .viewed => "section_view"
  | .restored => "section_restored"

structure Event where
  kind : EventKind
  id : String
deriving DecidableEq, Repr

/-- What is spoken when a section comes up. -/
def announcement (id : String) : String := s!"Showing {id} section"

structure Log where
  announced : List String := []
  events : List Event := []
deriving DecidableEq, Repr

/-- Announces a section and records the event. -/
def Log.tell (log : Log) (kind : EventKind) (id : String) : Log :=
  { announced := log.announced ++ [announcement id]
    events := log.events ++ [⟨kind, id⟩] }

end Vitae
