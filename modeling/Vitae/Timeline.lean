/-! An entry of the timeline, whose long description is folded away until asked for. -/

namespace Vitae

structure TimelineEntry where
  expanded : Bool := false
deriving DecidableEq, Repr

namespace TimelineEntry

def toggle (entry : TimelineEntry) : TimelineEntry :=
  { expanded := !entry.expanded }

/-- The text on the entry's button. -/
def label (entry : TimelineEntry) : String :=
  if entry.expanded then "Show less" else "Show more"

def iconRotation (entry : TimelineEntry) : String :=
  if entry.expanded then "rotate(180deg)" else "rotate(0deg)"

end TimelineEntry

end Vitae
