/-! Taking a given beginning off a text. -/

namespace Vitae.Text

/-- What follows `start`, if the text begins with it. -/
def after? : List Char → List Char → Option (List Char)
  | [], cs => some cs
  | _ :: _, [] => none
  | s :: start, c :: cs => if s = c then after? start cs else none

theorem after?_eq_some_iff {start cs rest : List Char} :
    after? start cs = some rest ↔ cs = start ++ rest := by
  fun_induction after? start cs with
  | case1 => simp [eq_comm]
  | case2 => simp
  | case3 c start cs ih => simpa using ih
  | case4 s start c cs differ => simp [Ne.symm differ]

theorem length_after? {start cs rest : List Char} (found : after? start cs = some rest) :
    rest.length ≤ cs.length := by
  rw [after?_eq_some_iff.mp found]
  simp

end Vitae.Text
