import Vitae.Text.Blank
import Vitae.Text.Digit
import Vitae.Text.Front

/-! The width of a skill bar, found in its inline style: the leftmost place where `width:`,
any white space, digits and a percent sign follow one another. The search is for text and
not for declarations, so `max-width:` ends in a match as well. -/

namespace Vitae.SkillBar

/-- The width that stands right at the beginning of a text. -/
def widthHere? (cs : List Char) : Option (List Char) :=
  match Text.after? ['w', 'i', 'd', 't', 'h', ':'] cs with
  | none => none
  | some value =>
    let value := value.dropWhile Text.isBlank
    let digits := value.takeWhile Text.isDecimalDigit
    match value.dropWhile Text.isDecimalDigit with
    | '%' :: _ => if digits = [] then none else some (digits ++ ['%'])
    | _ => none

/-- The first width in a text. -/
def find? : List Char → Option (List Char)
  | [] => none
  | c :: rest =>
    match widthHere? (c :: rest) with
    | some width => some width
    | none => find? rest

def width? (style : String) : Option String :=
  (find? style.toList).map String.ofList

end Vitae.SkillBar
