import Vitae.Json.Value

/-! Requests as the site gets them and responses as it gives them. -/

namespace Vitae

structure Request where
  method : String
  /-- The path as written, with any query after it. -/
  target : String
  contentType : Option String
  body : String
deriving DecidableEq, Repr

/-- The path of a request without its query. -/
def Request.path (request : Request) : String :=
  String.ofList (request.target.toList.takeWhile (· ≠ '?'))

inductive Content
  | nothing
  | json (value : Json)
  | text (value : String)
  | octets (value : ByteArray)

structure Response where
  status : Nat
  contentType : Option String
  content : Content

namespace Response

/-- An answer with nothing in it. -/
def bare (status : Nat) : Response :=
  { status, contentType := none, content := .nothing }

def json (status : Nat) (value : Json) : Response :=
  { status, contentType := some "application/json", content := .json value }

/-- The answer to a body that cannot be used. -/
def rejection (status : Nat) (reason : String) : Response :=
  { status, contentType := some "text/plain; charset=utf-8", content := .text reason }

/-- The answer to the same request when only its head is asked for. -/
def headOnly (response : Response) : Response :=
  { response with content := .nothing }

end Response

end Vitae
