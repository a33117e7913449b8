import Vitae.Number.Word

/-! Stepping around the sections that swipes and arrow keys walk through. The positions
form a ring, so stepping past either end comes out at the other. -/

namespace Vitae

inductive Direction
  | next
  | previous
deriving DecidableEq, Repr

namespace Direction

def name : Direction → String
  | .next => "next"
  | .previous => "previous"

end Direction

namespace Ring

/-- The neighbour of `index` on a ring of `size` positions. The sum taken on the way has to
be a word; only stepping on from the largest word of all leaves the range. -/
def step? (size index : Nat) : Direction → Option Nat
  | .next => (Word.add? index 1).map (· % size)
  | .previous => (Word.add? (index % size) size).map fun sum => (sum - 1) % size

end Ring

end Vitae
