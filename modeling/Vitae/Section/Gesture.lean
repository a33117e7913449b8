import Vitae.Section.Ring

/-! Swipes and keys as ways to ask for another section. A swipe counts when it travels more
sideways than along the page, and further than the threshold; the tests reject a touch, so
a distance that is not a number passes both of them. Travel is measured from where the
finger ends to where it started: moving left asks for the next section. -/

namespace Vitae

structure TouchPoint where
  x : Float
  y : Float

/-- The sideways distance, in pixels, that a swipe has to exceed unless configured. -/
def defaultThreshold : Float := 50.0

/-- Whether a touch travelled too little sideways to be a swipe. -/
def tooShort (threshold dx dy : Float) : Bool :=
  dx.abs ≤ dy.abs || dx.abs ≤ threshold

/-- The direction that a touch asks for, if it is a swipe. -/
def classify (threshold : Float) (start finish : TouchPoint) : Option Direction :=
  let dx := start.x - finish.x
  let dy := start.y - finish.y
  if tooShort threshold dx dy then none
  else if 0.0 < dx then some .next
  else some .previous

/-- Where a key sends the reader. -/
inductive KeyRoute
  | relative (direction : Direction)
  | first
  | last
deriving DecidableEq, Repr

/-- The keys bound to navigation, by the names that keyboards report. -/
def KeyRoute.ofKey? : String → Option KeyRoute
  | "ArrowRight" => some (.relative .next)
  | "ArrowLeft" => some (.relative .previous)
  | "Home" => some .first
  | "End" => some .last
  | _ => none

end Vitae
