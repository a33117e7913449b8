import Vitae.Mail.Form
import Vitae.Proofs.Text.Percent
import Vitae.Proofs.Text.Pieces

/-! What the link to a mail carries. The subject and the text of a form are found in it unchanged, and
nothing that is typed into the form can end the place it stands in, so the link says what the form says and
no more. -/

namespace Vitae.ContactForm

open Text Percent

/-- What ends a value of a link, or the link itself. -/
def delimiters : List Char := ['&', '=', '?', '#', ' ', '\n', '\r']

variable {form one other : ContactForm} {recipient : String}

theorem validate_eq_ok_iff : form.validate = .ok () ↔ form.fault? = none := by
  unfold validate
  cases form.fault? <;> simp

theorem submit_of_valid (valid : form.validate = .ok ()) :
    form.submit recipient = .ok { link := form.link recipient, notice } := by
  rw [submit, validate_eq_ok_iff.mp valid]

theorem link_eq (form : ContactForm) (recipient : String) :
    form.link recipient =
      "mailto:" ++ recipient ++ "?subject=" ++ encode form.subject ++ "&body=" ++ encode form.body := by
  rfl

theorem delimiter_not_mem {bytes : List UInt8} {cs : List Char} (encodes : Encodes bytes cs) {c : Char}
    (delimiter : c ∈ delimiters) : c ∉ cs := by
  intro member
  have ends : delimiters.all (fun c => !isUnreserved c && c != '%') = true := by decide
  have reserved := List.all_eq_true.mp ends c delimiter
  rcases encodes.unreserved_or_percent c member with unreserved | rfl
  · simp [unreserved] at reserved
  · simp at reserved

/-- Whoever knows the recipient can tell from a link what the form said. -/
theorem link_eq_iff : one.link recipient = other.link recipient ↔ one.subject = other.subject ∧ one.body = other.body := by
  constructor
  · intro same
    have ends (form : ContactForm) : '&' ∉ (encode form.subject).toList :=
      delimiter_not_mem (encodes_encode _) (by decide)
    have opening : "&body=".toList = '&' :: "body=".toList := by decide +kernel
    simp only [link_eq, String.append_assoc, String.append_right_inj] at same
    have chars := congrArg String.toList same
    simp only [String.toList_append, opening, List.cons_append] at chars
    -- The first ampersand after the recipient is the one that comes before the body.
    have split := Text.splitOnce_eq_some_iff.mpr ⟨chars, ends other⟩
    rw [Text.splitOnce_eq_some_iff.mpr ⟨rfl, ends one⟩, Option.some.injEq, Prod.mk.injEq, List.append_cancel_left_eq,
      String.toList_inj, String.toList_inj, encode_inj, encode_inj] at split
    exact split
  · rintro ⟨subject, body⟩
    rw [link_eq, link_eq, subject, body]

/-- A valid form becomes a link to the recipient with the percent-encoded subject and text of the mail.
Both are read back from it unchanged, and neither has a character in it that ends a value. So two valid
forms make one link exactly when their subjects and texts are the same. -/
theorem handoff_reads_back (recipient : String) (valid : form.validate = .ok ()) :
    (∃ subject body : String,
      form.submit recipient =
        .ok { link := "mailto:" ++ recipient ++ "?subject=" ++ subject ++ "&body=" ++ body, notice } ∧
      Encodes (octets form.subject) subject.toList ∧ Encodes (octets form.body) body.toList ∧
      (∀ c ∈ delimiters, c ∉ subject.toList ∧ c ∉ body.toList) ∧
      decode? subject = some form.subject ∧ decode? body = some form.body) ∧
    ∀ other : ContactForm, other.validate = .ok () →
      ((form.submit recipient).map Handoff.link = (other.submit recipient).map Handoff.link ↔
        form.subject = other.subject ∧ form.body = other.body) := by
  constructor
  · have subject := encodes_encode form.subject
    have body := encodes_encode form.body
    refine ⟨encode form.subject, encode form.body, ?_, subject, body, ?_, subject.decode?_eq, body.decode?_eq⟩
    · rw [submit_of_valid valid, link_eq]
    · intro c delimiter
      exact ⟨delimiter_not_mem subject delimiter, delimiter_not_mem body delimiter⟩
  · intro other sound
    rw [submit_of_valid valid, submit_of_valid sound, ← @link_eq_iff form other recipient]
    simp only [Except.map, Except.ok.injEq]

/-- Two forms that say the same in different fields make one link. -/
theorem handoff_reads_back_from_either :
    let one : ContactForm := { name := "Ada\nEmail: a@b", email := "c@d", subject := "50% & more?", message := "é" }
    let other : ContactForm := { name := "Ada", email := "a@b\nEmail: c@d", subject := "50% & more?", message := "é" }
    one.validate = .ok () ∧ other.validate = .ok () ∧ one ≠ other ∧
      (one.submit "owner@example.com").map Handoff.link = (other.submit "owner@example.com").map Handoff.link ∧
      ∃ subject body : String,
        one.submit "owner@example.com" =
          .ok { link := "mailto:" ++ "owner@example.com" ++ "?subject=" ++ subject ++ "&body=" ++ body, notice } ∧
        (∀ c ∈ delimiters, c ∉ subject.toList ∧ c ∉ body.toList) ∧
        decode? subject = some "50% & more?" ∧ decode? body = some "Name: Ada\nEmail: a@b\nEmail: c@d\n\nMessage:\né" := by
  intro one other
  have valid : one.validate = .ok () := validate_eq_ok_iff.mpr (by decide +kernel)
  have sound : other.validate = .ok () := validate_eq_ok_iff.mpr (by decide +kernel)
  have text : one.body = "Name: Ada\nEmail: a@b\nEmail: c@d\n\nMessage:\né" := by decide +kernel
  obtain ⟨⟨subject, body, submitted, _, _, clean, read, whole⟩, same⟩ := handoff_reads_back "owner@example.com" valid
  refine ⟨valid, sound, by decide, (same other sound).mpr ⟨rfl, by decide +kernel⟩, subject, body, submitted, clean, read, ?_⟩
  rw [whole, text]

end Vitae.ContactForm
