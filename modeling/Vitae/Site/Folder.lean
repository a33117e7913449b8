import Vitae.Http.Message
import Vitae.Site.Fault
import Vitae.Text.Percent
import Vitae.Text.Split

/-! The files that the site serves as they are. A folder lists what it holds by path, with
slashes between names; a path that others lie below is a directory. -/

namespace Vitae

inductive FolderEntry
  | file (octets : ByteArray)
  | directory

structure Folder where
  entries : List (String × FolderEntry)

namespace Folder

variable (folder : Folder)

/-- What is at a path, the empty path being the folder itself. -/
def entry? (path : String) : Option FolderEntry :=
  match folder.entries.lookup path with
  | some entry => some entry
  | none =>
    if path = "" ∨ folder.entries.any fun entry => (path ++ "/").isPrefixOf entry.1 then
      some .directory
    else none

/-- The text of a file. -/
def readText (path : String) : Except SiteFault String :=
  match folder.entry? path with
  | none => .error (.file .notFound "No such file or directory")
  | some .directory => .error (.file .other "Is a directory")
  | some (.file octets) =>
    match String.fromUTF8? octets with
    | none => .error (.file .invalidData "stream did not contain valid UTF-8")
    | some text => .ok text

/-- The part of a file's name after its last point. A name that begins with its only point
has no extension. -/
def extension (path : String) : String :=
  let name := (Text.splitAt '/' path.toList).getLastD []
  let ending := (name.reverse.takeWhile (· ≠ '.')).reverse
  if ending.length + 1 < name.length then String.ofList (ending.map Char.toLower) else ""

/-- The media type that a file is served as. -/
def mediaType (path : String) : String :=
  match extension path with
  | "html" | "htm" => "text/html"
  | "css" => "text/css"
  | "js" | "mjs" => "text/javascript"
  | "txt" => "text/plain"
  | "xml" => "text/xml"
  | "md" => "text/markdown"
  | "csv" => "text/csv"
  | "json" => "application/json"
  | "pdf" => "application/pdf"
  | "wasm" => "application/wasm"
  | "zip" => "application/zip"
  | "svg" => "image/svg+xml"
  | "png" => "image/png"
  | "jpg" | "jpeg" => "image/jpeg"
  | "gif" => "image/gif"
  | "webp" => "image/webp"
  | "ico" => "image/x-icon"
  | "woff" => "font/woff"
  | "woff2" => "font/woff2"
  | "ttf" => "font/ttf"
  | _ => "application/octet-stream"

/-- The path below the folder that a request's path leads to. Names for the same directory
count for nothing, and a path that climbs out leads nowhere. -/
def resolve? (path : String) : Option String :=
  let readable := (Text.Percent.decode? path).getD path
  let names := ((Text.splitAt '/' readable.toList).map String.ofList).filter fun name =>
    name ≠ "" ∧ name ≠ "."
  if ".." ∈ names then none else some ("/".intercalate names)

/-- Answers with the file at a path. A directory stands for its index, once the path ends
in a slash. -/
def serve (path : String) : Response :=
  let send (name : String) : Response :=
    match folder.entry? name with
    | some (.file octets) =>
      { status := 200, contentType := some (mediaType name), content := .octets octets }
    | _ => .bare 404
  match resolve? path with
  | none => .bare 404
  | some name =>
    match folder.entry? name with
    | some .directory =>
      if path.toList.getLast? = some '/' then
        send (if name = "" then "index.html" else name ++ "/index.html")
      else .bare 307
    | _ => send name

end Folder

end Vitae
