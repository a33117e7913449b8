import Vitae.Proofs.Text.Pieces
import Vitae.Skill.Bar

/-! What the search for a width finds in a text: the percentage at the first place where `width:`, any
white space and a percentage follow one another, and nothing only if there is no such place. A place
where `width:` goes on in another way is passed over, and the search goes on at the very next character. -/

namespace Vitae.SkillBar

/-- The name that the search goes by. -/
def property : List Char := ['w', 'i', 'd', 't', 'h']

/-- Decimal digits and a percent sign. -/
def IsPercentage (width : List Char) : Prop :=
  ∃ digits, width = digits ++ ['%'] ∧ digits ≠ [] ∧ ∀ d ∈ digits, Text.isDecimalDigit d = true

/-- A width is written out at the beginning of a text. -/
def Begins (cs width : List Char) : Prop :=
  IsPercentage width ∧ ∃ gap, (∀ c ∈ gap, Text.isBlank c = true) ∧ property ++ ':' :: (gap ++ width) <+: cs

def ReadsAt (cs : List Char) (place : Nat) (width : List Char) : Prop :=
  Begins (cs.drop place) width

/-- A width is written out at a position of a text and none at an earlier one. -/
def ReadsFirst (cs width : List Char) : Prop :=
  ∃ place, ReadsAt cs place width ∧ ∀ earlier < place, ∀ other, ¬ ReadsAt cs earlier other

variable {cs width : List Char}

theorem isBlank_of_isDecimalDigit {c : Char} (digit : Text.isDecimalDigit c = true) : Text.isBlank c = false := by
  have apart : ∀ first ∈ Text.zeros, 0x20 < first ∧ (first + 9 < 0x85 ∨ 0xA0 < first) ∧
      (first + 9 < 0x1680 ∨ 0x1680 < first) ∧ (first + 9 < 0x2000 ∨ 0x3000 < first) := by decide
  obtain ⟨first, member, range⟩ := List.any_eq_true.mp digit
  have gaps := apart first member
  simp only [Bool.and_eq_true, decide_eq_true_eq] at range
  apply Bool.eq_false_iff.mpr
  intro blank
  simp only [Text.isBlank, Bool.or_eq_true, Bool.and_eq_true, decide_eq_true_eq, beq_iff_eq] at blank
  omega

theorem IsPercentage.head_not_blank (percentage : IsPercentage width) :
    ∃ first rest, width = first :: rest ∧ Text.isBlank first = false := by
  obtain ⟨digits, rfl, some, decimal⟩ := percentage
  cases digits with
  | nil => exact absurd rfl some
  | cons first rest =>
    exact ⟨first, rest ++ ['%'], rfl, isBlank_of_isDecimalDigit (decimal first List.mem_cons_self)⟩

/-- The percentage that a text begins with. -/
def percentage? (cs : List Char) : Option (List Char) :=
  match cs.dropWhile Text.isDecimalDigit with
  | '%' :: _ =>
    if cs.takeWhile Text.isDecimalDigit = [] then none else some (cs.takeWhile Text.isDecimalDigit ++ ['%'])
  | _ => none

theorem percentage?_eq_some_iff : percentage? cs = some width ↔ IsPercentage width ∧ width <+: cs := by
  constructor
  · intro found
    unfold percentage? at found
    split at found
    next rest sign =>
      split at found
      next => cases found
      next some =>
        cases found
        refine ⟨⟨_, rfl, some, fun d member => List.mem_takeWhile_imp member⟩, rest, ?_⟩
        rw [List.append_assoc, List.singleton_append, ← sign, List.takeWhile_append_dropWhile]
    next => cases found
  · rintro ⟨⟨digits, rfl, some, decimal⟩, rest, rfl⟩
    have percent : Text.isDecimalDigit '%' = false := by decide
    have taken : (digits ++ ['%'] ++ rest).takeWhile Text.isDecimalDigit = digits := by
      rw [List.append_assoc, List.takeWhile_append_of_pos decimal]
      simp [percent]
    have dropped : (digits ++ ['%'] ++ rest).dropWhile Text.isDecimalDigit = '%' :: rest := by
      rw [List.append_assoc, List.dropWhile_append_of_pos decimal]
      simp [percent]
    simp only [percentage?, dropped, taken, if_neg some]

theorem widthHere?_eq (cs : List Char) :
    widthHere? cs = (Text.after? (property ++ [':']) cs).bind fun value => percentage? (value.dropWhile Text.isBlank) := by
  have same : ['w', 'i', 'd', 't', 'h', ':'] = property ++ [':'] := rfl
  unfold widthHere?
  rw [same]
  cases Text.after? (property ++ [':']) cs <;> rfl

theorem widthHere?_eq_some_iff : widthHere? cs = some width ↔ Begins cs width := by
  simp only [widthHere?_eq, Option.bind_eq_some_iff, Text.after?_eq_some_iff, percentage?_eq_some_iff, Begins]
  constructor
  · rintro ⟨value, rfl, percentage, rest, whole⟩
    refine ⟨percentage, value.takeWhile Text.isBlank, fun c member => List.mem_takeWhile_imp member, rest, ?_⟩
    simp only [List.append_assoc, List.cons_append, List.nil_append, whole, List.takeWhile_append_dropWhile]
  · rintro ⟨percentage, gap, blank, rest, rfl⟩
    obtain ⟨first, more, rfl, solid⟩ := percentage.head_not_blank
    refine ⟨gap ++ (first :: more ++ rest), by simp, percentage, rest, ?_⟩
    rw [List.dropWhile_append_of_pos blank]
    simp [solid]

theorem widthHere?_eq_none_iff : widthHere? cs = none ↔ ∀ width, ¬ Begins cs width := by
  simp only [← widthHere?_eq_some_iff, Option.eq_none_iff_forall_ne_some, ne_eq]

theorem not_begins_nil : ¬ Begins [] width := by
  rintro ⟨_, _, _, start⟩
  cases List.prefix_nil.mp start

theorem find?_cons (c : Char) (rest : List Char) : find? (c :: rest) = (widthHere? (c :: rest)).or (find? rest) := by
  rw [find?]
  cases widthHere? (c :: rest) <;> rfl

theorem readsFirst_cons {c : Char} {rest : List Char} :
    ReadsFirst (c :: rest) width ↔
      Begins (c :: rest) width ∨ ((∀ other, ¬ Begins (c :: rest) other) ∧ ReadsFirst rest width) := by
  constructor
  · rintro ⟨place, reads, clean⟩
    cases place with
    | zero => exact Or.inl reads
    | succ place =>
      refine Or.inr ⟨clean 0 (Nat.succ_pos place), place, reads, fun earlier before => ?_⟩
      exact clean (earlier + 1) (Nat.succ_lt_succ before)
  · rintro (begins | ⟨nothing, place, reads, clean⟩)
    · exact ⟨0, begins, by simp⟩
    · refine ⟨place + 1, reads, fun earlier before other => ?_⟩
      cases earlier with
      | zero => exact nothing other
      | succ earlier => exact clean earlier (Nat.lt_of_succ_lt_succ before) other

theorem find?_eq_some_iff : find? cs = some width ↔ ReadsFirst cs width := by
  induction cs with
  | nil =>
    refine ⟨fun found => (by cases found), fun ⟨place, here, _⟩ => ?_⟩
    rw [ReadsAt, List.drop_nil] at here
    exact absurd here not_begins_nil
  | cons c rest ih =>
    rw [find?_cons, Option.or_eq_some_iff, widthHere?_eq_some_iff, widthHere?_eq_none_iff, ih, readsFirst_cons]

theorem find?_eq_none_iff : find? cs = none ↔ ∀ place width, ¬ ReadsAt cs place width := by
  induction cs with
  | nil => simpa [find?, ReadsAt] using fun _ => not_begins_nil
  | cons c rest ih =>
    rw [find?_cons, Option.or_eq_none_iff, widthHere?_eq_none_iff, ih]
    constructor
    · rintro ⟨here, later⟩ place
      cases place with
      | zero => exact here
      | succ place => exact later place
    · intro nothing
      exact ⟨nothing 0, fun place => nothing (place + 1)⟩

theorem width?_eq_some_iff {style found : String} : width? style = some found ↔ find? style.toList = some found.toList := by
  rw [width?, Option.map_eq_some_iff]
  constructor
  · rintro ⟨width, same, rfl⟩
    rw [same, String.toList_ofList]
  · intro same
    exact ⟨found.toList, same, String.ofList_toList⟩

theorem width?_eq_none_iff {style : String} : width? style = none ↔ find? style.toList = none :=
  Option.map_eq_none_iff

/-- The width of a bar is the first one written out in its style, and there is none only if none is
written out anywhere. -/
theorem finds_first_width (style : String) :
    (∀ width, width? style = some width ↔ ReadsFirst style.toList width.toList) ∧
    (width? style = none ↔ ∀ place width, ¬ ReadsAt style.toList place width) := by
  refine ⟨fun width => ?_, ?_⟩
  · rw [width?_eq_some_iff, find?_eq_some_iff]
  · rw [width?_eq_none_iff, find?_eq_none_iff]

/-- The search goes on within a place that it has given up. -/
example : width? "width: 9 width:width:\t٣5%" = some "٣5%" := by decide +kernel

end Vitae.SkillBar
