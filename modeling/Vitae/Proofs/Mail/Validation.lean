import Vitae.Mail.Dialog
import Vitae.Proofs.Mail.Handoff
import Vitae.Proofs.Site.Posting

/-! Which forms can be sent. A form is complete when every field has something written in it and the
email, without the white space around it, has something on both sides of its first at sign. Anything
else is one fault, found in the order of the fields and in the address last, and every way to send a
form comes to the same judgement. -/

namespace Vitae

namespace Text

/-- A text with something other than white space in it. -/
def Written (text : String) : Prop := ∃ c ∈ text.toList, isBlank c = false

instance (text : String) : Decidable (Written text) := decidable_of_iff _ blank_eq_false_iff

/-- What is left of a text when the white space at both ends is taken off. -/
structure Trims (text core : List Char) : Prop where
  around : ∃ front back, text = front ++ core ++ back ∧ (∀ c ∈ front, isBlank c = true) ∧ ∀ c ∈ back, isBlank c = true
  begins : ∀ c ∈ core.head?, isBlank c = false
  ends : ∀ c ∈ core.getLast?, isBlank c = false

theorem trims_iff {text core : List Char} : Trims text core ↔ core = trim text := by
  constructor
  · rintro ⟨⟨front, back, rfl, before, after⟩, begins, ends⟩
    rw [trim_padded before after, trim_eq_self begins ends]
  · rintro rfl
    exact ⟨trim_between text, fun _ first => isBlank_of_head_trim first, fun _ last => isBlank_of_getLast_trim last⟩

end Text

namespace ContactForm
open Text

/-- The first at sign is neither the first character nor the last. -/
def Addressed (address : List Char) : Prop :=
  0 < address.idxOf '@' ∧ address.idxOf '@' + 1 < address.length

instance (address : List Char) : Decidable (Addressed address) := inferInstanceAs (Decidable (_ ∧ _))

structure Complete (form : ContactForm) : Prop where
  name : Written form.name
  email : Written form.email
  subject : Written form.subject
  message : Written form.message
  address : ∃ address, Trims form.email.toList address ∧ Addressed address

/-- The faults of a form. Each is the first one only, with nothing wrong in front of it. -/
inductive Faulty (form : ContactForm) : ContactFault → Prop
  | name (blank : ¬ Written form.name) : Faulty form (.missingField "name")
  | email (name : Written form.name) (blank : ¬ Written form.email) : Faulty form (.missingField "email")
  | subject (name : Written form.name) (email : Written form.email) (blank : ¬ Written form.subject) :
      Faulty form (.missingField "subject")
  | message (name : Written form.name) (email : Written form.email) (subject : Written form.subject)
      (blank : ¬ Written form.message) : Faulty form (.missingField "message")
  | address {address} (name : Written form.name) (email : Written form.email) (subject : Written form.subject)
      (message : Written form.message) (trims : Trims form.email.toList address) (lacking : ¬ Addressed address) :
      Faulty form (.invalidEmail (String.ofList address))

/-- A result that accepts the complete forms and refuses every other for its first fault. -/
structure Judges {α : Type} (form : ContactForm) (result : Except ContactFault α) : Prop where
  accepts : (∃ value, result = .ok value) ↔ form.Complete
  refuses : ∀ fault, result = .error fault ↔ form.Faulty fault

theorem isAddress_iff {email : String} : isAddress email = true ↔ Addressed email.toList := by
  unfold isAddress Addressed
  cases cut : splitOnce '@' email.toList with
  | none =>
    have absent := splitOnce_eq_none_iff.mp cut
    simp [List.idxOf_eq_length absent]
  | some pair =>
    obtain ⟨before, after⟩ := pair
    obtain ⟨whole, first⟩ := splitOnce_eq_some_iff.mp cut
    have position : (before ++ '@' :: after).idxOf '@' = before.length := by
      rw [List.idxOf_append_of_notMem first, List.idxOf_cons_self, Nat.add_zero]
    rw [whole, position]
    simp [List.length_pos_iff]

theorem blank_of_written {text : String} (written : Written text) : blank text = false :=
  blank_eq_false_iff.mpr written

theorem blank_of_not_written {text : String} (nothing : ¬ Written text) : blank text = true := by
  rwa [Written, ← blank_eq_false_iff, Bool.not_eq_false] at nothing

variable {form : ContactForm} {fault : ContactFault}

theorem Complete.fault?_eq (complete : form.Complete) : form.fault? = none := by
  obtain ⟨name, email, subject, message, address, trims, addressed⟩ := complete
  cases trims_iff.mp trims
  have right : isAddress (trimmed form.email) = true := isAddress_iff.mpr (by rwa [trimmed, String.toList_ofList])
  simp [fault?, fields, blank_of_written, name, email, subject, message, right]

theorem Faulty.fault?_eq (faulty : form.Faulty fault) : form.fault? = some fault := by
  cases faulty with
  | name blank => simp [fault?, fields, blank_of_not_written, blank]
  | email name blank => simp [fault?, fields, blank_of_written, blank_of_not_written, name, blank]
  | subject name email blank => simp [fault?, fields, blank_of_written, blank_of_not_written, name, email, blank]
  | message name email subject blank =>
    simp [fault?, fields, blank_of_written, blank_of_not_written, name, email, subject, blank]
  | address name email subject message trims lacking =>
    cases trims_iff.mp trims
    have wrong : ¬ isAddress (trimmed form.email) = true := mt isAddress_iff.mp (by rwa [trimmed, String.toList_ofList])
    simp [fault?, fields, blank_of_written, name, email, subject, message, wrong]
    rfl

theorem complete_or_faulty (form : ContactForm) : form.Complete ∨ ∃ fault, form.Faulty fault := by
  by_cases name : Written form.name
  case neg => exact Or.inr ⟨_, .name name⟩
  by_cases email : Written form.email
  case neg => exact Or.inr ⟨_, .email name email⟩
  by_cases subject : Written form.subject
  case neg => exact Or.inr ⟨_, .subject name email subject⟩
  by_cases message : Written form.message
  case neg => exact Or.inr ⟨_, .message name email subject message⟩
  have trims : Trims form.email.toList (trim form.email.toList) := trims_iff.mpr rfl
  by_cases addressed : Addressed (trim form.email.toList)
  case neg => exact Or.inr ⟨_, .address name email subject message trims addressed⟩
  exact Or.inl ⟨name, email, subject, message, _, trims, addressed⟩

theorem fault?_eq_some_iff : form.fault? = some fault ↔ form.Faulty fault := by
  refine ⟨fun found => ?_, Faulty.fault?_eq⟩
  rcases form.complete_or_faulty with complete | ⟨other, faulty⟩
  · simp [complete.fault?_eq] at found
  · cases found.symm.trans faulty.fault?_eq
    exact faulty

theorem Faulty.not_complete (faulty : form.Faulty fault) : ¬ form.Complete := by
  intro complete
  cases complete.fault?_eq.symm.trans faulty.fault?_eq

theorem Faulty.unique {other : ContactFault} (faulty : form.Faulty fault) (also : form.Faulty other) : other = fault :=
  Option.some.inj (also.fault?_eq.symm.trans faulty.fault?_eq)

/-- What the first fault decides alone is decided rightly. -/
theorem judges_of_fault? {α : Type} {result : Except ContactFault α} (accepts : form.fault? = none → ∃ value, result = .ok value)
    (refuses : ∀ fault, form.fault? = some fault → result = .error fault) : form.Judges result := by
  rcases form.complete_or_faulty with complete | ⟨fault, faulty⟩
  · obtain ⟨value, rfl⟩ := accepts complete.fault?_eq
    refine ⟨⟨fun _ => complete, fun _ => ⟨value, rfl⟩⟩, fun fault => ⟨fun wrong => (nomatch wrong), fun faulty => ?_⟩⟩
    exact absurd complete faulty.not_complete
  · obtain rfl := refuses fault faulty.fault?_eq
    refine ⟨⟨fun ⟨_, right⟩ => (nomatch right), fun complete => absurd complete faulty.not_complete⟩, fun other => ?_⟩
    rw [Except.error.injEq, ← Option.some.injEq, ← faulty.fault?_eq, fault?_eq_some_iff]

theorem judges_validate (form : ContactForm) : form.Judges form.validate := by
  refine judges_of_fault? (fun sound => ⟨(), ?_⟩) fun fault found => ?_
  · simp [validate, sound]
  · simp [validate, found]

theorem judges_submit (form : ContactForm) (recipient : String) : form.Judges (form.submit recipient) := by
  refine judges_of_fault? (fun sound => ⟨{ link := form.link recipient, notice }, ?_⟩) fun fault found => ?_
  · rw [submit, sound]
  · rw [submit, found]

end ContactForm

theorem Dialog.submit_eq (dialog : Dialog) (recipient : String) :
    dialog.submit recipient =
      match dialog.form.submit recipient with
      | .ok handoff => ({}, .ok handoff)
      | .error fault => (dialog, .error fault) := rfl

theorem Dialog.judges_submit (dialog : Dialog) (recipient : String) :
    dialog.form.Judges (dialog.submit recipient).2 := by
  have same : (dialog.submit recipient).2 = dialog.form.submit recipient := by
    rw [submit]
    cases dialog.form.submit recipient <;> rfl
  rw [same]
  exact dialog.form.judges_submit recipient

namespace Site
variable {site : Site} {folder : Folder} {request : Request} {form : ContactForm}

theorem respond_of_form (sends : request.Posts "/api/v1/contact" ContactForm.read form) (site : Site) (folder : Folder) :
    site.respond folder request =
      match form.submit site.settings.contactEmail with
      | .ok handoff => { response := .json 200 (ContactReply.toJson { handoff, overflow := .auto }) }
      | .error fault => { response := .refusal 400 "VALIDATION_ERROR" fault.message } := by
  rw [sends.respond .contact rfl rfl, answer, sends.withBody, contact, Dialog.submit_eq, Dialog.showing]
  cases form.submit site.settings.contactEmail with
  | ok handoff => rfl
  | error fault => rfl

end Site

namespace ContactForm
open Text

/-- A form is accepted exactly when it is complete, and otherwise refused for its first fault, whether
it is looked at, submitted, sent from a dialog, or posted to the site. The site then answers with the
link to follow, or with the text of the fault and nothing else. -/
theorem complete_forms_are_accepted (form : ContactForm) :
    form.Judges form.validate ∧
    (∀ recipient, form.Judges (form.submit recipient)) ∧
    (∀ recipient isOpen, form.Judges (Dialog.submit { isOpen, form } recipient).2) ∧
    ∀ (site : Site) (folder : Folder) (request : Request), request.Posts "/api/v1/contact" ContactForm.read form →
      ((site.respond folder request).response.status = 200 ↔ form.Complete) ∧
      (form.Complete → ∃ handoff, form.submit site.settings.contactEmail = .ok handoff ∧
        site.respond folder request =
          { response := .json 200 (ContactReply.toJson { handoff, overflow := .auto }) }) ∧
      (¬ form.Complete → ∃ fault, form.Faulty fault ∧
        site.respond folder request = { response := .refusal 400 "VALIDATION_ERROR" fault.message }) := by
  refine ⟨form.judges_validate, form.judges_submit, fun recipient isOpen => Dialog.judges_submit { isOpen, form } recipient, ?_⟩
  intro site folder request sends
  have responds := Site.respond_of_form sends site folder
  rcases form.complete_or_faulty with complete | ⟨fault, faulty⟩
  · obtain ⟨handoff, submitted⟩ := (form.judges_submit site.settings.contactEmail).accepts.mpr complete
    rw [submitted] at responds
    exact ⟨⟨fun _ => complete, fun _ => by rw [responds]; rfl⟩, fun _ => ⟨handoff, submitted, responds⟩, absurd complete⟩
  · have refused := ((form.judges_submit site.settings.contactEmail).refuses fault).mpr faulty
    rw [refused] at responds
    refine ⟨⟨fun accepted => ?_, fun complete => absurd complete faulty.not_complete⟩,
      fun complete => absurd complete faulty.not_complete, fun _ => ⟨fault, faulty, responds⟩⟩
    rw [responds] at accepted
    cases accepted

/-- Nothing is left after the at sign once the white space is gone; a second at sign would be enough. -/
theorem complete_forms_are_accepted_half_address :
    let form : ContactForm := { name := "Ada", email := "\u3000ada@ ", subject := "Hello", message := "." }
    let request := Request.posting "/api/v1/contact"
      "\x7b\"email\": \"\\u3000ada@ \", \"name\": \"Ada\", \"subject\": \"Hello\", \"message\": \".\"\x7d"
    request.Posts "/api/v1/contact" ContactForm.read form ∧
      form.validate = .error (.invalidEmail "ada@") ∧ (∃ value, { form with email := "\u3000ada@@ " }.validate = .ok value) ∧
      ∀ (site : Site) (folder : Folder), site.respond folder request =
        { response := .refusal 400 "VALIDATION_ERROR" "'ada@' is not a valid email address" } := by
  intro form request
  have posts : request.Posts "/api/v1/contact" ContactForm.read form := .of_body (by decide) (by decide +kernel) (by decide +kernel)
  have faulty : form.Faulty (.invalidEmail "ada@") :=
    .address (by decide +kernel) (by decide +kernel) (by decide +kernel) (by decide +kernel) (trims_iff.mpr (by decide +kernel))
      (by decide +kernel)
  have complete : { form with email := "\u3000ada@@ " }.Complete :=
    ⟨by decide +kernel, by decide +kernel, by decide +kernel, by decide +kernel, trim _, trims_iff.mpr rfl, by decide +kernel⟩
  obtain ⟨judges, _, _, responds⟩ := complete_forms_are_accepted form
  obtain ⟨other, _⟩ := complete_forms_are_accepted { form with email := "\u3000ada@@ " }
  refine ⟨posts, (judges.refuses _).mpr faulty, other.accepts.mpr complete, fun site folder => ?_⟩
  obtain ⟨fault, first, refused⟩ := (responds site folder request posts).2.2 faulty.not_complete
  rw [refused, faulty.unique first]
  rfl

end ContactForm

end Vitae
