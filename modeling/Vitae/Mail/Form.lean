import Vitae.Text.Blank
import Vitae.Text.Percent
import Vitae.Text.Split

/-! The contact form. Nothing is sent from here: a complete form becomes a link that opens
the reader's own mail program with the message written out. -/

namespace Vitae

structure ContactForm where
  name : String := ""
  email : String := ""
  subject : String := ""
  message : String := ""
deriving DecidableEq, Repr

inductive ContactFault
  | missingField (field : String)
  | invalidEmail (email : String)
deriving DecidableEq, Repr

def ContactFault.message : ContactFault → String
  | .missingField field => s!"field '{field}' is required"
  | .invalidEmail email => s!"'{email}' is not a valid email address"

/-- The link to follow, and what to tell the reader about it. -/
structure Handoff where
  link : String
  notice : String
deriving DecidableEq, Repr

namespace ContactForm

def notice : String :=
  "Your default email client will open. Please send the message from there."

variable (form : ContactForm)

/-- The fields with their names, in the order in which they are checked. -/
def fields : List (String × String) :=
  [("name", form.name), ("email", form.email), ("subject", form.subject),
   ("message", form.message)]

/-- Something before the first at sign and something after it. -/
def isAddress (email : String) : Bool :=
  match Text.splitOnce '@' email.toList with
  | none => false
  | some (before, after) => before ≠ [] && after ≠ []

/-- The first fault of a form: a blank field before a bad address. -/
def fault? : Option ContactFault :=
  match form.fields.find? fun field => Text.blank field.2 with
  | some (field, _) => some (.missingField field)
  | none =>
    let email := Text.trimmed form.email
    if isAddress email then none else some (.invalidEmail email)

def validate : Except ContactFault Unit :=
  match form.fault? with
  | none => .ok ()
  | some fault => .error fault

/-- The text of the mail. -/
def body : String :=
  s!"Name: {form.name}\nEmail: {form.email}\n\nMessage:\n{form.message}"

/-- The link that opens a mail to the recipient. -/
def link (recipient : String) : String :=
  s!"mailto:{recipient}?subject="
    ++ Text.Percent.encode form.subject
    ++ "&body="
    ++ Text.Percent.encode form.body

/-- Checks the form and writes the mail. -/
def submit (recipient : String) : Except ContactFault Handoff :=
  match form.fault? with
  | none => .ok { link := form.link recipient, notice }
  | some fault => .error fault

end ContactForm

end Vitae
