/-! Cutting a text at every occurrence of one character. A text with `n` separators has
`n + 1` pieces, some of them possibly empty, and the pieces joined by the separator are
the text again. -/

namespace Vitae.Text

def splitAt (separator : Char) : List Char → List (List Char)
  | [] => [[]]
  | c :: rest =>
    if c = separator then
      [] :: splitAt separator rest
    else
      match splitAt separator rest with
      | [] => [[c]]
      | piece :: pieces => (c :: piece) :: pieces

/-- The text before the first separator and the text after it. -/
def splitOnce (separator : Char) : List Char → Option (List Char × List Char)
  | [] => none
  | c :: rest =>
    if c = separator then
      some ([], rest)
    else
      (splitOnce separator rest).map fun (before, after) => (c :: before, after)

end Vitae.Text
