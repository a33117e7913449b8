import Vitae.Text.Blank

/-! Making a stylesheet smaller, in five passes over its text: comments go, white space
around the four structural marks goes, line breaks go, any white space left becomes single
spaces, and a semicolon right before a closing brace goes. The passes know nothing of
strings in the stylesheet. Since line breaks go before the rest is collapsed, two words
with only a line break between them become one. -/

namespace Vitae.Stylesheet

/-- What follows the first end of a comment. -/
def afterComment? : List Char → Option (List Char)
  | '*' :: '/' :: rest => some rest
  | _ :: rest => afterComment? rest
  | [] => none

theorem length_of_afterComment? {cs rest : List Char} (closed : afterComment? cs = some rest) :
    rest.length < cs.length := by
  fun_induction afterComment? cs with
  | case1 =>
    obtain rfl := Option.some.inj closed
    simp only [List.length_cons]
    omega
  | case2 _ _ _ ih =>
    have := ih closed
    simp only [List.length_cons]
    omega
  | case3 => simp at closed

/-- Takes out the comments. One that is never closed stays, and so does all after it. -/
def stripComments : List Char → List Char
  | '/' :: '*' :: rest =>
    match _closed : afterComment? rest with
    | some after => stripComments after
    | none => '/' :: '*' :: rest
  | c :: rest => c :: stripComments rest
  | [] => []
termination_by cs => cs.length
decreasing_by
  · have := length_of_afterComment? (by assumption)
    simp only [List.length_cons]
    omega
  · simp

/-- The marks that need no space around them. -/
def isMark (c : Char) : Bool :=
  c == ':' || c == ';' || c == '{' || c == '}'

/-- Whether a text begins with a mark. -/
def startsWithMark : List Char → Bool
  | [] => false
  | c :: _ => isMark c

/-- Takes out the white space in front of marks. -/
def tightenBefore : List Char → List Char
  | [] => []
  | c :: rest =>
    let tight := tightenBefore rest
    if Text.isBlank c && startsWithMark tight then tight else c :: tight

/-- Takes out the white space after marks, given whether a mark came just before. -/
def tightenAfter (marked : Bool) : List Char → List Char
  | [] => []
  | c :: rest =>
    if marked && Text.isBlank c then tightenAfter marked rest
    else c :: tightenAfter (isMark c) rest

/-- Takes out the white space on both sides of every mark. -/
def tighten (cs : List Char) : List Char :=
  tightenAfter false (tightenBefore cs)

def dropLineBreaks (cs : List Char) : List Char :=
  cs.filter fun c => c != '\n' && c != '\r'

/-- Writes one space for each run of white space, given whether one has been written for
the run that is going on. -/
def collapse (spaced : Bool) : List Char → List Char
  | [] => []
  | c :: rest =>
    if Text.isBlank c then
      if spaced then collapse true rest else ' ' :: collapse true rest
    else c :: collapse false rest

/-- Takes out each semicolon that stands right before a closing brace. -/
def dropLastSemicolons : List Char → List Char
  | ';' :: '}' :: rest => '}' :: dropLastSemicolons rest
  | c :: rest => c :: dropLastSemicolons rest
  | [] => []

/-- The smaller stylesheet, by characters. -/
def compactChars (cs : List Char) : List Char :=
  dropLastSemicolons (collapse false (dropLineBreaks (tighten (stripComments cs))))

/-- The smaller stylesheet. -/
def compact (css : String) : String :=
  String.ofList (compactChars css.toList)

end Vitae.Stylesheet
