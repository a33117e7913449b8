import Vitae.Text.Blank
import Vitae.Text.Split

/-! Greedy word wrap. Words are what stands between single spaces, so a doubled space gives
an empty word. A line under construction carries the space that would follow it, and that
space counts: a word starts a new line when the line so far, its space and the word are
together longer than the limit. A first word that is too long on its own therefore leaves
an empty line before it. -/

namespace Vitae.Text

/-- Lays the words out after `line`, the line under construction. -/
def fill (limit : Nat) (line : List Char) : List (List Char) → List (List Char)
  | [] => [trim line]
  | word :: words =>
    if limit < line.length + word.length then
      trim line :: fill limit (word ++ [' ']) words
    else
      fill limit (line ++ word ++ [' ']) words

/-- The lines of a text, each trimmed. -/
def wrap (text : String) (limit : Nat) : List String :=
  (fill limit [] (splitAt ' ' text.toList)).map String.ofList

end Vitae.Text
