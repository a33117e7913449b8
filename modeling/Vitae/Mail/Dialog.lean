import Vitae.Mail.Form

/-! The dialog that holds the contact form. While it is open the page behind it does not
scroll. Sending a complete form empties and closes it; anything wrong with the form leaves
it as it is. -/

namespace Vitae

/-- How the page body treats what does not fit. -/
inductive Overflow
  | hidden
  | auto
deriving DecidableEq, Repr

def Overflow.css : Overflow → String
  | .hidden => "hidden"
  | .auto => "auto"

/-- What a click landed on. -/
inductive ClickTarget
  | backdrop
  | dialog
deriving DecidableEq, Repr

structure Dialog where
  isOpen : Bool := false
  form : ContactForm := {}
deriving DecidableEq, Repr

namespace Dialog

/-- A dialog that is open on a form. -/
def showing (form : ContactForm) : Dialog := { isOpen := true, form }

variable (dialog : Dialog)

def overflow : Overflow :=
  if dialog.isOpen then .hidden else .auto

def present : Dialog := { dialog with isOpen := true }

def dismiss : Dialog := { dialog with isOpen := false }

/-- A click beside the dialog closes it. -/
def click : ClickTarget → Dialog
  | .backdrop => dialog.dismiss
  | .dialog => dialog

def fill (form : ContactForm) : Dialog := { dialog with form }

def reset : Dialog := { dialog with form := {} }

/-- Sends the form. -/
def submit (recipient : String) : Dialog × Except ContactFault Handoff :=
  match dialog.form.submit recipient with
  | .ok handoff => (dialog.reset.dismiss, .ok handoff)
  | .error fault => (dialog, .error fault)

/-- What can be done to a dialog. -/
inductive Action
  | present
  | dismiss
  | click (target : ClickTarget)
  | fill (form : ContactForm)
  | reset
  | submit (recipient : String)
deriving DecidableEq, Repr

inductive Reply
  | nothing
  | overflow (value : Overflow)
  | submitted (result : Except ContactFault Handoff)

/-- Carries out one action. Presenting, dismissing and clicking answer with the overflow to
set. -/
def act : Action → Dialog × Reply
  | .present => (dialog.present, .overflow dialog.present.overflow)
  | .dismiss => (dialog.dismiss, .overflow dialog.dismiss.overflow)
  | .click target => (dialog.click target, .overflow (dialog.click target).overflow)
  | .fill form => (dialog.fill form, .nothing)
  | .reset => (dialog.reset, .nothing)
  | .submit recipient =>
    let (after, result) := dialog.submit recipient
    (after, .submitted result)

end Dialog

end Vitae
