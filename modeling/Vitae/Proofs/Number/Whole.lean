import Mathlib.Data.List.Induction
import Vitae.Number.Decimal
import Vitae.Number.Whole

/-! Which texts are read as whole numbers: digits, as many as one likes, with or without a plus sign
in front. Any other text is given up at one place, at the first character that is no digit or at the
digit that takes the number out of range, whichever stands further to the left. -/

namespace Vitae.Whole
open Decimal (natural)

/-- The text of a number without its plus sign. -/
def unsigned (text : String) : List Char :=
  match text.toList with
  | '+' :: rest => rest
  | cs => cs

structure Writes (text : String) (value : Nat) : Prop where
  written : unsigned text ≠ []
  digits : ∀ c ∈ unsigned text, c.isDigit = true
  value : value = natural (unsigned text)

/-- Where the reading of a number below `bound` stops, and why. -/
inductive Stops (bound : Nat) (cs : List Char) : WholeFault → Prop
  | stray {front c rest} (split : cs = front ++ c :: rest) (digits : ∀ d ∈ front, d.isDigit = true)
      (within : natural front < bound) (other : c.isDigit = false) : Stops bound cs .invalidDigit
  | beyond {front c rest} (split : cs = front ++ c :: rest) (digits : ∀ d ∈ front, d.isDigit = true)
      (within : natural front < bound) (digit : c.isDigit = true) (past : bound ≤ natural (front ++ [c])) :
      Stops bound cs .tooLarge

/-- Why a text is no number below `bound`. -/
inductive Misread (bound : Nat) (text : String) : WholeFault → Prop
  | empty (nothing : text = "") : Misread bound text .empty
  | signOnly (alone : text = "+") : Misread bound text .invalidDigit
  | stops {cause} (stopped : Stops bound (unsigned text) cause) : Misread bound text cause

variable {bound value : Nat} {cs : List Char} {cause : WholeFault}

theorem natural_snoc (front : List Char) (c : Char) :
    natural (front ++ [c]) = 10 * natural front + (c.toNat - 0x30) := by
  simp [natural]

theorem digits_cons (front : List Char) (c : Char) (rest : List Char) :
    digits bound (natural front) (c :: rest) =
      if c.isDigit then
        if natural (front ++ [c]) < bound then digits bound (natural (front ++ [c])) rest else .error .tooLarge
      else .error .invalidDigit := by
  rw [digits, digit?, natural_snoc]
  by_cases digit : c.isDigit = true
  · rw [if_pos digit, if_pos digit]
  · rw [if_neg digit, if_neg digit]

/-- Digits in front that are in range are read, whatever follows them. No part of a number is larger than
the whole, so there is no need to ask at every digit. -/
theorem digits_append {front : List Char} (all : ∀ c ∈ front, c.isDigit = true) (within : natural front < bound)
    (rest : List Char) : digits bound 0 (front ++ rest) = digits bound (natural front) rest := by
  induction front using List.reverseRecOn generalizing rest with
  | nil => rfl
  | append_singleton front c ih =>
    have digit : c.isDigit = true := all c (by simp)
    have before : natural front < bound := by
      rw [natural_snoc] at within
      omega
    rw [← List.append_cons, ih (fun d member => all d (by simp [member])) before, digits_cons, if_pos digit,
      if_pos within]

theorem Stops.digits_eq (stopped : Stops bound cs cause) : digits bound 0 cs = .error cause := by
  cases stopped with
  | stray split all within other =>
    rw [split, digits_append all within, digits_cons, other]
    rfl
  | beyond split all within digit past =>
    rw [split, digits_append all within, digits_cons, if_pos digit, if_neg (Nat.not_lt.mpr past)]

theorem Stops.append (stopped : Stops bound cs cause) (more : List Char) : Stops bound (cs ++ more) cause := by
  cases stopped with
  | stray split all within other => exact .stray (by rw [split, List.append_assoc, List.cons_append]) all within other
  | beyond split all within digit past =>
    exact .beyond (by rw [split, List.append_assoc, List.cons_append]) all within digit past

theorem reads_or_stops (positive : 0 < bound) (cs : List Char) :
    ((∀ c ∈ cs, c.isDigit = true) ∧ natural cs < bound) ∨ ∃ cause, Stops bound cs cause := by
  induction cs using List.reverseRecOn with
  | nil => exact Or.inl ⟨by simp, positive⟩
  | append_singleton front c ih =>
    rcases ih with ⟨all, within⟩ | ⟨cause, stopped⟩
    · cases digit : c.isDigit with
      | false => exact Or.inr ⟨_, .stray rfl all within digit⟩
      | true =>
        rcases Nat.lt_or_ge (natural (front ++ [c])) bound with fits | past
        · refine Or.inl ⟨?_, fits⟩
          intro d member
          rcases List.mem_append.mp member with earlier | last
          · exact all d earlier
          · rw [List.mem_singleton.mp last]
            exact digit
        · exact Or.inr ⟨_, .beyond rfl all within digit past⟩
    · exact Or.inr ⟨cause, stopped.append [c]⟩

theorem digits_eq_ok_iff (positive : 0 < bound) :
    digits bound 0 cs = .ok value ↔ (∀ c ∈ cs, c.isDigit = true) ∧ value = natural cs ∧ value < bound := by
  have read (all : ∀ c ∈ cs, c.isDigit = true) (within : natural cs < bound) :
      digits bound 0 cs = .ok (natural cs) := by
    have whole := digits_append all within []
    rw [List.append_nil] at whole
    rw [whole, digits]
  constructor
  · intro found
    rcases reads_or_stops positive cs with ⟨all, within⟩ | ⟨cause, stopped⟩
    · rw [read all within] at found
      cases found
      exact ⟨all, rfl, within⟩
    · rw [stopped.digits_eq] at found
      cases found
  · intro ⟨all, same, within⟩
    rw [same]
    exact read all (same ▸ within)

theorem digits_eq_error_iff (positive : 0 < bound) : digits bound 0 cs = .error cause ↔ Stops bound cs cause := by
  constructor
  · intro failed
    rcases reads_or_stops positive cs with ⟨all, within⟩ | ⟨other, stopped⟩
    · rw [(digits_eq_ok_iff positive).mpr ⟨all, rfl, within⟩] at failed
      cases failed
    · rw [stopped.digits_eq] at failed
      cases failed
      exact stopped
  · exact Stops.digits_eq

theorem unsigned_eq_nil_iff {text : String} : unsigned text = [] ↔ text = "" ∨ text = "+" := by
  rw [← String.toList_inj, ← @String.toList_inj text "+"]
  unfold unsigned
  cases text.toList with
  | nil => simp
  | cons c rest =>
    by_cases plus : c = '+'
    · subst plus
      simp
    · simp [plus]

/-- A text that says something beside its sign is read by its digits. -/
theorem read_of_written {text : String} (written : unsigned text ≠ []) :
    read bound text = digits bound 0 (unsigned text) := by
  revert written
  unfold read unsigned
  cases text.toList with
  | nil => simp
  | cons c rest =>
    by_cases plus : c = '+'
    · subst plus
      cases rest <;> simp
    · simp [plus]

theorem read_eq_ok_iff (positive : 0 < bound) {text : String} :
    read bound text = .ok value ↔ Writes text value ∧ value < bound := by
  by_cases written : unsigned text = []
  · have nothing : ¬ Writes text value := fun writes => writes.written written
    rcases unsigned_eq_nil_iff.mp written with rfl | rfl <;> simp [read, nothing]
  · rw [read_of_written written, digits_eq_ok_iff positive]
    constructor
    · intro ⟨all, same, within⟩
      exact ⟨⟨written, all, same⟩, within⟩
    · intro ⟨writes, within⟩
      exact ⟨writes.digits, writes.value, within⟩

theorem read_eq_error_iff (positive : 0 < bound) {text : String} :
    read bound text = .error cause ↔ Misread bound text cause := by
  by_cases written : unsigned text = []
  · have unstopped (other : WholeFault) : ¬ Stops bound (unsigned text) other := by
      rw [written]
      rintro (⟨split⟩ | ⟨split⟩) <;> simp at split
    constructor
    · intro failed
      rcases unsigned_eq_nil_iff.mp written with rfl | rfl
      · cases failed
        exact .empty rfl
      · cases failed
        exact .signOnly rfl
    · intro misread
      cases misread with
      | empty nothing => rw [nothing]; rfl
      | signOnly alone => rw [alone]; rfl
      | stops stopped => exact absurd stopped (unstopped cause)
  · rw [read_of_written written, digits_eq_error_iff positive]
    constructor
    · exact .stops
    · intro misread
      cases misread with
      | empty nothing => exact absurd (unsigned_eq_nil_iff.mpr (Or.inl nothing)) written
      | signOnly alone => exact absurd (unsigned_eq_nil_iff.mpr (Or.inr alone)) written
      | stops stopped => exact stopped

end Vitae.Whole
