import Mathlib.Data.List.DropRight
import Vitae.Text.Blank
import Vitae.Text.Split

/-! What trimming leaves of a text, and what the pieces of a text between separators are made of. -/

namespace Vitae.Text

theorem blank_eq_false_iff {text : String} : blank text = false ↔ ∃ c ∈ text.toList, isBlank c = false := by
  simp [blank]

variable {cs : List Char}

/-- What is left of a text without the white space in front has only white space after what trimming leaves. -/
theorem dropWhile_isBlank (cs : List Char) :
    ∃ back, cs.dropWhile isBlank = trim cs ++ back ∧ ∀ c ∈ back, isBlank c = true :=
  ⟨(cs.dropWhile isBlank).rtakeWhile isBlank, List.rdropWhile_append_rtakeWhile.symm,
    fun _ member => List.mem_rtakeWhile_imp member⟩

/-- Trimming takes white space only, and only from the ends. -/
theorem trim_between (cs : List Char) :
    ∃ front back, cs = front ++ trim cs ++ back ∧
      (∀ c ∈ front, isBlank c = true) ∧ ∀ c ∈ back, isBlank c = true := by
  obtain ⟨back, rest, blank⟩ := dropWhile_isBlank cs
  refine ⟨cs.takeWhile isBlank, back, ?_, ?_, blank⟩
  · rw [List.append_assoc, ← rest, List.takeWhile_append_dropWhile]
  · intro c member
    exact List.mem_takeWhile_imp member

theorem mem_of_mem_trim {c : Char} (member : c ∈ trim cs) : c ∈ cs := by
  obtain ⟨front, back, whole, _⟩ := trim_between cs
  rw [whole]
  simp [member]

theorem trim_eq_nil_iff : trim cs = [] ↔ ∀ c ∈ cs, isBlank c = true := by
  refine ⟨fun none => ?_, fun blank => ?_⟩
  · obtain ⟨front, back, whole, before, after⟩ := trim_between cs
    intro c member
    rw [whole, none, List.append_nil] at member
    exact (List.mem_append.mp member).elim (before c) (after c)
  · have gone : cs.dropWhile isBlank = [] := List.dropWhile_eq_nil_iff.mpr blank
    rw [trim, gone]
    rfl

theorem length_trim_le (cs : List Char) : (trim cs).length ≤ cs.length := by
  obtain ⟨front, back, whole, _⟩ := trim_between cs
  have lengths := congrArg List.length whole
  simp only [List.length_append] at lengths
  omega

theorem trim_append_blank {c : Char} (blank : isBlank c = true) (cs : List Char) : trim (cs ++ [c]) = trim cs := by
  rw [trim, trim, List.dropWhile_append]
  cases rest : cs.dropWhile isBlank with
  | nil => simp [blank]
  | cons d more => simp [blank]

/-- White space around a text is all that trimming it takes no notice of. -/
theorem trim_padded {front back : List Char} (before : ∀ c ∈ front, isBlank c = true)
    (after : ∀ c ∈ back, isBlank c = true) (core : List Char) : trim (front ++ core ++ back) = trim core := by
  induction back using List.reverseRecOn with
  | nil => rw [List.append_nil, trim, List.dropWhile_append_of_pos before, trim]
  | append_singleton back c ih =>
    have blank : isBlank c = true := after c (by simp)
    rw [← List.append_assoc, trim_append_blank blank]
    exact ih fun d member => after d (by simp [member])

theorem trim_eq_self (begins : ∀ c ∈ cs.head?, isBlank c = false) (ends : ∀ c ∈ cs.getLast?, isBlank c = false) :
    trim cs = cs := by
  have front : cs.dropWhile isBlank = cs := by
    cases cs with
    | nil => rfl
    | cons c rest => exact List.dropWhile_cons_of_neg (by simp [begins c rfl])
  have back : cs.rdropWhile isBlank = cs := by
    refine List.rdropWhile_eq_self_iff.mpr fun some => ?_
    simp [ends _ (List.getLast?_eq_some_getLast some)]
  rw [trim, front]
  exact back

theorem isBlank_of_head_trim {c : Char} (first : (trim cs).head? = some c) : isBlank c = false := by
  obtain ⟨back, whole⟩ : trim cs <+: cs.dropWhile isBlank := List.rdropWhile_prefix ..
  have same : (cs.dropWhile isBlank).head? = some c := by
    rw [← whole, List.head?_append, first, Option.some_or]
  have stopped := List.head?_dropWhile_not isBlank cs
  rwa [same] at stopped

theorem isBlank_of_getLast_trim {c : Char} (last : (trim cs).getLast? = some c) : isBlank c = false := by
  rw [trim, List.getLast?_reverse] at last
  have stopped := List.head?_dropWhile_not isBlank (cs.dropWhile isBlank).reverse
  rwa [last] at stopped

section Padding

/-! ### White space around a text -/

/-- A text with white space around it, or with none. -/
def Padded (core text : List Char) : Prop :=
  ∃ front back, text = front ++ core ++ back ∧ (∀ c ∈ front, isBlank c = true) ∧ ∀ c ∈ back, isBlank c = true

/-- Two texts that differ in nothing but the white space around them. -/
def Respaced (first second : List Char) : Prop :=
  ∃ core, Padded core first ∧ Padded core second

theorem Padded.trim_eq {core text : List Char} (padded : Padded core text) : trim text = trim core := by
  obtain ⟨front, back, rfl, before, after⟩ := padded
  exact trim_padded before after core

/-- A character that is no white space is in the text itself, or nowhere. -/
theorem Padded.not_mem {core text : List Char} (padded : Padded core text) {c : Char} (solid : isBlank c = false)
    (absent : c ∉ core) : c ∉ text := by
  obtain ⟨front, back, rfl, before, after⟩ := padded
  simp only [List.mem_append, not_or]
  refine ⟨⟨fun member => ?_, absent⟩, fun member => ?_⟩
  · exact Bool.false_ne_true (solid.symm.trans (before c member))
  · exact Bool.false_ne_true (solid.symm.trans (after c member))

theorem padded_nil_of_blank {text : String} (empty : blank text = true) : Padded [] text.toList :=
  ⟨text.toList, [], by simp, List.all_eq_true.mp empty, by simp⟩

theorem Respaced.trim_eq {first second : List Char} (respaced : Respaced first second) : trim first = trim second := by
  obtain ⟨core, one, other⟩ := respaced
  rw [one.trim_eq, other.trim_eq]

/-- Trimming both tells whether two texts differ in white space alone. -/
theorem respaced_iff {first second : List Char} : Respaced first second ↔ trim first = trim second := by
  constructor
  · exact Respaced.trim_eq
  · intro same
    exact ⟨trim first, trim_between first, same ▸ trim_between second⟩

theorem Respaced.blank_eq {first second : String} (respaced : Respaced first.toList second.toList) :
    blank first = blank second := by
  have nothing (text : String) : blank text = true ↔ trim text.toList = [] := by
    rw [blank, List.all_eq_true, trim_eq_nil_iff]
  rw [Bool.eq_iff_iff, nothing, nothing, respaced.trim_eq]

end Padding

theorem splitAt_eq_splitOn (separator : Char) (cs : List Char) : splitAt separator cs = cs.splitOn separator := by
  induction cs with
  | nil => rfl
  | cons c rest ih =>
    rw [splitAt, ih, List.splitOn_cons_eq_if_modifyHead]
    by_cases cut : c = separator
    · simp [cut]
    · cases pieces : rest.splitOn separator with
      | nil => exact absurd pieces (List.splitOn_ne_nil _ _)
      | cons piece later => simp [cut]

theorem not_mem_of_mem_splitOn {separator : Char} {piece : List Char} (member : piece ∈ cs.splitOn separator) :
    separator ∉ piece := by
  induction cs generalizing piece with
  | nil => simp_all
  | cons c rest ih =>
    rw [List.splitOn_cons_eq_if_modifyHead] at member
    by_cases cut : c = separator
    · simp only [cut, beq_self_eq_true, if_true, List.mem_cons] at member
      rcases member with rfl | later
      · simp
      · exact ih later
    · cases pieces : rest.splitOn separator with
      | nil => exact absurd pieces (List.splitOn_ne_nil _ _)
      | cons first later =>
        simp only [beq_iff_eq, cut, if_false, pieces, List.modifyHead_cons, List.mem_cons] at member
        rcases member with rfl | among
        · have := ih (pieces ▸ List.mem_cons_self)
          simp [this, Ne.symm cut]
        · exact ih (pieces ▸ List.mem_cons_of_mem _ among)

/-- What comes before the first separator has none in it. -/
theorem splitOnce_eq_some_iff {separator : Char} {before after : List Char} :
    splitOnce separator cs = some (before, after) ↔ cs = before ++ separator :: after ∧ separator ∉ before := by
  induction cs generalizing before after with
  | nil => simp [splitOnce]
  | cons c rest ih =>
    rw [splitOnce]
    by_cases cut : c = separator
    · subst cut
      cases before with
      | nil => simp
      | cons d more =>
        simp only [if_true, Option.some.injEq, Prod.mk.injEq, reduceCtorEq, false_and, List.cons_append, List.cons.injEq,
          List.mem_cons, not_or, false_iff]
        rintro ⟨⟨same, _⟩, other, _⟩
        exact other same
    · rw [if_neg cut]
      cases before with
      | nil => simp [cut]
      | cons d more =>
        simp only [Option.map_eq_some_iff, Prod.exists, ih, Prod.mk.injEq, List.cons.injEq, List.cons_append, List.mem_cons,
          not_or]
        constructor
        · rintro ⟨front, back, ⟨rfl, plain⟩, ⟨rfl, rfl⟩, rfl⟩
          exact ⟨⟨rfl, rfl⟩, Ne.symm cut, plain⟩
        · rintro ⟨⟨rfl, rfl⟩, _, plain⟩
          exact ⟨more, after, ⟨rfl, plain⟩, ⟨rfl, rfl⟩, rfl⟩

theorem splitOnce_eq_none_iff {separator : Char} : splitOnce separator cs = none ↔ separator ∉ cs := by
  induction cs with
  | nil => simp [splitOnce]
  | cons c rest ih =>
    rw [splitOnce]
    by_cases cut : c = separator
    · simp [cut]
    · simp [cut, ih, Ne.symm cut]

end Vitae.Text
