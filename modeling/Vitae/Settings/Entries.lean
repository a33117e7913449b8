import Vitae.Text.Blank
import Vitae.Text.Split

/-! Comma-separated lists in settings. White space around an entry does not count, and
neither does an entry of nothing but white space. -/

namespace Vitae.Settings

/-- The entries of a list, by characters. -/
def entryChars (cs : List Char) : List (List Char) :=
  ((Text.splitAt ',' cs).map Text.trim).filter fun entry => !entry.isEmpty

/-- The entries of a list. -/
def entries (text : String) : List String :=
  (entryChars text.toList).map String.ofList

end Vitae.Settings
