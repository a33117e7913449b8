import Vitae.Text.Blank
import Vitae.Text.Split

/-! A file of settings, one `NAME=value` to a line. Lines that are blank or begin with a
hash sign say nothing, and the first line that is no assignment ends the file. What the
environment already holds is not changed by the file, and of two lines for one name the
first counts. -/

namespace Vitae.Settings

/-- Where the value of a variable is looked up. -/
abbrev Environment := String → Option String

namespace EnvFile

/-- The assignments of a file's lines. -/
def assignments : List (List Char) → List (String × String)
  | [] => []
  | line :: rest =>
    match Text.trim line with
    | [] => assignments rest
    | '#' :: _ => assignments rest
    | content =>
      match Text.splitOnce '=' content with
      | none => []
      | some (name, value) =>
        (String.ofList (Text.trim name), String.ofList (Text.trim value)) :: assignments rest

/-- An environment filled up from the text of a file. -/
def extend (environment : Environment) (file : String) : Environment :=
  let known := assignments (Text.splitAt '\n' file.toList)
  fun name => (environment name).or (known.lookup name)

end EnvFile

end Vitae.Settings
