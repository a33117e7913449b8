import Vitae.Proofs.Mail.Validation

/-! A contact dialog in use. What is sent leaves an empty form behind, and an empty form is refused,
so a dialog never has more than one thing left to send: the form that was filled in last, or the one
it was shown with. -/

namespace Vitae.Dialog

/-- An action on a dialog, the reply to it, and the dialog before and after. -/
structure Turn where
  before : Dialog
  action : Action
  reply : Reply
  after : Dialog

/-- A dialog in use, turn by turn. -/
def turns (dialog : Dialog) : List Action → List Turn
  | [] => []
  | action :: rest =>
    let (after, reply) := dialog.act action
    ⟨dialog, action, reply, after⟩ :: turns after rest

/-- The dialog at the end. -/
def after (dialog : Dialog) (actions : List Action) : Dialog :=
  actions.foldl (fun dialog action => (dialog.act action).1) dialog

def Action.isFill : Action → Bool
  | .fill _ => true
  | _ => false

def Reply.isSent : Reply → Bool
  | .submitted (.ok _) => true
  | _ => false

def sent (turns : List Turn) : Nat := turns.countP (·.reply.isSent)

/-- What a turn does to the page, and to the form that it submits. -/
structure Turn.Orderly (turn : Turn) : Prop where
  /-- The page is held still exactly while the dialog is open. -/
  held : turn.after.overflow.css = "hidden" ↔ turn.after.isOpen = true
  told : ∀ value, turn.reply = .overflow value → turn.after.overflow = value
  submitted : ∀ recipient, turn.action = .submit recipient →
    (∃ fault, turn.reply = .submitted (.error fault) ∧ turn.before.form.validate = .error fault ∧ turn.after = turn.before) ∨
    ∃ handoff, turn.reply = .submitted (.ok handoff) ∧ turn.before.form.validate = .ok () ∧
      turn.after = { isOpen := false, form := { name := "", email := "", subject := "", message := "" } }

/-- How much a dialog has left to send. -/
def unsent (dialog : Dialog) : Nat := if dialog.form.fault? = none then 1 else 0

theorem overflow_eq_hidden_iff (dialog : Dialog) : dialog.overflow.css = "hidden" ↔ dialog.isOpen = true := by
  unfold overflow
  cases dialog.isOpen <;> decide

theorem unsent_of_empty {dialog : Dialog} (empty : dialog.form = {}) : dialog.unsent = 0 := by
  rw [unsent, empty]
  decide +kernel

theorem unsent_le (dialog : Dialog) : dialog.unsent ≤ 1 := by
  unfold unsent
  split <;> omega

theorem submit_cases (dialog : Dialog) (recipient : String) :
    (∃ fault, dialog.form.fault? = some fault ∧ dialog.act (.submit recipient) = (dialog, .submitted (.error fault))) ∨
    ∃ handoff, dialog.form.fault? = none ∧ dialog.act (.submit recipient) = ({}, .submitted (.ok handoff)) := by
  rw [act, submit_eq, ContactForm.submit]
  cases first : dialog.form.fault? with
  | some fault => exact Or.inl ⟨fault, rfl, rfl⟩
  | none => exact Or.inr ⟨_, rfl, rfl⟩

theorem orderly_act (dialog : Dialog) (action : Action) :
    Turn.Orderly ⟨dialog, action, (dialog.act action).2, (dialog.act action).1⟩ := by
  refine ⟨overflow_eq_hidden_iff _, fun value replied => ?_, fun recipient submitted => ?_⟩
  · cases action with
    | present | dismiss | click => cases replied; rfl
    | fill | reset | submit => cases replied
  · cases submitted
    rcases dialog.submit_cases recipient with ⟨fault, first, refused⟩ | ⟨handoff, sound, sent⟩
    · exact Or.inl ⟨fault, by rw [refused], by simp [ContactForm.validate, first], by rw [refused]⟩
    · exact Or.inr ⟨handoff, by rw [sent], by simp [ContactForm.validate, sound], by rw [sent]⟩

/-- Sending uses up what is left to send, and only filling in brings more. -/
theorem unsent_act (dialog : Dialog) (action : Action) :
    [(dialog.act action).2].countP Reply.isSent + (dialog.act action).1.unsent ≤
      dialog.unsent + [action].countP Action.isFill := by
  cases action with
  | present | dismiss => exact Nat.le_of_eq (Nat.zero_add _)
  | click target => cases target <;> exact Nat.le_of_eq (Nat.zero_add _)
  | fill form =>
    have one : (dialog.fill form).unsent ≤ 1 := unsent_le _
    simp only [act, Reply.isSent, Action.isFill, List.countP_singleton, Bool.false_eq_true, if_false, if_true]
    omega
  | reset =>
    have nothing : dialog.reset.unsent = 0 := unsent_of_empty rfl
    simp [act, Reply.isSent, nothing]
  | submit recipient =>
    rcases dialog.submit_cases recipient with ⟨fault, first, refused⟩ | ⟨handoff, sound, sent⟩
    · rw [refused]
      exact Nat.le_of_eq (Nat.zero_add _)
    · have one : dialog.unsent = 1 := if_pos sound
      have nothing : unsent {} = 0 := unsent_of_empty rfl
      simp [sent, Reply.isSent, one, nothing]

theorem unsent_after (dialog : Dialog) (actions : List Action) :
    sent (dialog.turns actions) + (dialog.after actions).unsent ≤ dialog.unsent + actions.countP Action.isFill := by
  induction actions generalizing dialog with
  | nil => simp [turns, after, sent]
  | cons action rest ih =>
    have first := dialog.unsent_act action
    have later := ih (dialog.act action).1
    have turned : sent (dialog.turns (action :: rest)) =
        [(dialog.act action).2].countP Reply.isSent + sent ((dialog.act action).1.turns rest) := by
      simp only [turns, sent, List.countP_cons, List.countP_nil]
      omega
    have filled : (action :: rest).countP Action.isFill = [action].countP Action.isFill + rest.countP Action.isFill := by
      rw [← List.singleton_append, List.countP_append]
    have ended : dialog.after (action :: rest) = (dialog.act action).1.after rest := rfl
    rw [turned, filled, ended]
    omega

theorem of_sent {dialog : Dialog} {recipient : String} (sent : (dialog.act (.submit recipient)).2.isSent = true) :
    dialog.unsent = 1 ∧ (dialog.act (.submit recipient)).1 = {} := by
  rcases dialog.submit_cases recipient with ⟨fault, first, refused⟩ | ⟨handoff, sound, gone⟩
  · rw [refused] at sent
    cases sent
  · exact ⟨if_pos sound, congrArg Prod.fst gone⟩

theorem orderly_turns (dialog : Dialog) (actions : List Action) : ∀ turn ∈ dialog.turns actions, turn.Orderly := by
  induction actions generalizing dialog with
  | nil => simp [turns]
  | cons action rest ih =>
    intro turn member
    rcases List.mem_cons.mp member with rfl | later
    · exact dialog.orderly_act action
    · exact ih _ turn later

theorem after_append (dialog : Dialog) (first second : List Action) :
    dialog.after (first ++ second) = (dialog.after first).after second :=
  List.foldl_append

/-- Whatever is done to a dialog, the page is held still exactly while it is open, a form that is refused
stays as it is, and one that is sent is gone. Between two that are sent something is filled in, so no
more is sent than was filled in and was there at first. -/
theorem nothing_is_sent_twice (dialog : Dialog) (actions : List Action) :
    (∀ turn ∈ dialog.turns actions, turn.Orderly) ∧
    (∀ earlier between later one other, actions = earlier ++ .submit one :: between ++ .submit other :: later →
      ((dialog.after earlier).act (.submit one)).2.isSent = true →
      ((dialog.after (earlier ++ .submit one :: between)).act (.submit other)).2.isSent = true →
      ∃ form, .fill form ∈ between) ∧
    sent (dialog.turns actions) ≤ actions.countP Action.isFill + 1 ∧
    (dialog.form = {} → sent (dialog.turns actions) ≤ actions.countP Action.isFill) := by
  have bound := dialog.unsent_after actions
  refine ⟨dialog.orderly_turns actions, ?_, ?_, fun empty => ?_⟩
  · intro earlier between later one other _ first second
    -- The dialog is empty after the first, so what is sent next has been filled in since.
    have emptied : dialog.after (earlier ++ .submit one :: between) = after {} between := by
      rw [after_append, ← (of_sent first).2]
      rfl
    have bound := unsent_after {} between
    have nothing : unsent {} = 0 := unsent_of_empty rfl
    rw [emptied] at second
    have one := (of_sent second).1
    obtain ⟨action, member, fills⟩ := List.countP_pos_iff.mp (show 0 < between.countP Action.isFill by omega)
    cases action with
    | fill form => exact ⟨form, member⟩
    | _ => cases fills
  · have := unsent_le dialog
    omega
  · have := unsent_of_empty empty
    omega

/-- Pressing send again does nothing, nor does a half address; closing the dialog does not keep the form
from being sent. -/
theorem nothing_is_sent_twice_in_a_row :
    let form : ContactForm := { name := "Ada", email := "ada@home", subject := "Hello", message := "." }
    let between : List Action := [.submit "me@home", .fill { form with email := "ada@" }, .submit "me@home", .fill form, .dismiss]
    let actions : List Action := .submit "me@home" :: between ++ [.submit "me@work"]
    (∀ turn ∈ (showing form).turns actions, turn.Orderly) ∧ sent ((showing form).turns actions) = 2 ∧
      sent ((showing form).turns actions) ≤ actions.countP Action.isFill + 1 ∧ ∃ other, .fill other ∈ between := by
  intro form between actions
  obtain ⟨orderly, filled, bound, _⟩ := nothing_is_sent_twice (showing form) actions
  have twice : sent ((showing form).turns actions) = 2 := by decide +kernel
  exact ⟨orderly, twice, bound, filled [] between [] "me@home" "me@work" rfl (by decide +kernel) (by decide +kernel)⟩

end Vitae.Dialog
