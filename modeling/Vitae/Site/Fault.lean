import Vitae.Http.Message
import Vitae.Mail.Form

/-! What can go wrong while the site answers, and what the reader is told. Faults of the
reader are explained to them; faults of the site are named only. -/

namespace Vitae

inductive FileFault
  | notFound
  | permissionDenied
  | invalidData
  | unexpectedEnd
  | other
deriving DecidableEq, Repr

inductive SiteFault
  | notFound (message : String)
  | invalid (message : String)
  | file (kind : FileFault) (message : String)
  | internal (message : String)
deriving DecidableEq, Repr

namespace SiteFault

/-- What the fault is called in the site's own records. -/
def display : SiteFault → String
  | .notFound message => "Not found: " ++ message
  | .invalid message => "Validation error: " ++ message
  | .file _ message => "I/O error: " ++ message
  | .internal message => "Internal server error: " ++ message

def status : SiteFault → Nat
  | .notFound _ => 404
  | .invalid _ => 400
  | .file .notFound _ => 404
  | .file _ _ => 500
  | .internal _ => 500

def code : SiteFault → String
  | .notFound _ => "NOT_FOUND"
  | .invalid _ => "VALIDATION_ERROR"
  | .file .notFound _ => "NOT_FOUND"
  | .file _ _ => "IO_ERROR"
  | .internal _ => "INTERNAL_ERROR"

/-- What the reader is told. -/
def explanation : SiteFault → String
  | .notFound message => message
  | .invalid message => message
  | .file .notFound _ => "The requested asset does not exist"
  | .file _ _ => "An asset could not be read"
  | .internal _ => "An internal server error occurred"

/-- A form that cannot be sent is the reader's to mend. -/
def ofContact (fault : ContactFault) : SiteFault :=
  .invalid fault.message

def response (fault : SiteFault) : Response :=
  .json fault.status <| .record
    [("error", .record
      [("code", .text fault.code),
       ("message", .text fault.explanation)])]

end SiteFault

end Vitae
