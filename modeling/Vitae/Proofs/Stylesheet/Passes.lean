import Vitae.Stylesheet

/-! What each pass over a stylesheet does to any text at all, whichever passes went before. The passes
over white space lose nothing that is not white space, and no pass makes a text longer. Where the pass
over semicolons finds none to take out it changes nothing. -/

namespace Vitae.Stylesheet

theorem isMark_of_isBlank {c : Char} (blank : Text.isBlank c = true) : isMark c = false := by
  cases mark : isMark c with
  | false => rfl
  | true =>
    simp only [isMark, Bool.or_eq_true, beq_iff_eq] at mark
    rcases mark with ((rfl | rfl) | rfl) | rfl <;> simp [Text.isBlank] at blank

theorem isBlank_of_isMark {c : Char} (mark : isMark c = true) : Text.isBlank c = false :=
  Bool.eq_false_iff.mpr fun blank => Bool.eq_false_iff.mp (isMark_of_isBlank blank) mark

theorem isBlank_of_lineBreak {c : Char} (line : c = '\n' ∨ c = '\r') : Text.isBlank c = true := by
  rcases line with rfl | rfl <;> rfl

theorem dropLastSemicolons_cons {c : Char} {rest : List Char} (stays : c = ';' → rest.head? ≠ some '}') :
    dropLastSemicolons (c :: rest) = c :: dropLastSemicolons rest := by
  rw [dropLastSemicolons]
  rintro more semicolon rfl
  exact stays semicolon rfl

theorem dropLastSemicolons_of_ne {c : Char} {rest : List Char} (other : c ≠ ';') :
    dropLastSemicolons (c :: rest) = c :: dropLastSemicolons rest :=
  dropLastSemicolons_cons fun semicolon => absurd semicolon other

section Kept

/-! A choice of characters without white space reads the same before and after. -/

variable {keep : Char → Bool} (solid : ∀ c, Text.isBlank c = true → keep c = false)
include solid

theorem filter_cons_blank {c : Char} (blank : Text.isBlank c = true) (cs : List Char) : (c :: cs).filter keep = cs.filter keep :=
  List.filter_cons_of_neg (by simp [solid c blank])

theorem filter_tightenBefore (cs : List Char) : (tightenBefore cs).filter keep = cs.filter keep := by
  induction cs with
  | nil => rfl
  | cons c rest ih =>
    rw [tightenBefore]
    split
    next loose => rw [ih, filter_cons_blank solid (Bool.and_eq_true_iff.mp loose).1]
    next => rw [List.filter_cons, List.filter_cons, ih]

theorem filter_tightenAfter (marked : Bool) (cs : List Char) : (tightenAfter marked cs).filter keep = cs.filter keep := by
  induction cs generalizing marked with
  | nil => rfl
  | cons c rest ih =>
    rw [tightenAfter]
    split
    next loose => rw [ih, filter_cons_blank solid (Bool.and_eq_true_iff.mp loose).2]
    next => rw [List.filter_cons, List.filter_cons, ih]

theorem filter_tighten (cs : List Char) : (tighten cs).filter keep = cs.filter keep :=
  (filter_tightenAfter solid false _).trans (filter_tightenBefore solid cs)

theorem filter_dropLineBreaks (cs : List Char) : (dropLineBreaks cs).filter keep = cs.filter keep := by
  rw [dropLineBreaks, List.filter_filter]
  apply List.filter_congr
  intro c _
  by_cases line : c = '\n' ∨ c = '\r'
  · simp [solid c (isBlank_of_lineBreak line)]
  · simp_all

theorem filter_collapse (spaced : Bool) (cs : List Char) : (collapse spaced cs).filter keep = cs.filter keep := by
  induction cs generalizing spaced with
  | nil => rfl
  | cons c rest ih =>
    rw [collapse]
    split
    next blank =>
      rw [filter_cons_blank solid blank]
      split
      next => exact ih true
      next => rw [filter_cons_blank solid rfl, ih]
    next => rw [List.filter_cons, List.filter_cons, ih]

end Kept

theorem tightenBefore_sublist (cs : List Char) : (tightenBefore cs).Sublist cs := by
  induction cs with
  | nil => exact .slnil
  | cons c rest ih =>
    rw [tightenBefore]
    split
    next => exact ih.cons c
    next => exact ih.cons_cons c

theorem tightenAfter_sublist (marked : Bool) (cs : List Char) : (tightenAfter marked cs).Sublist cs := by
  induction cs generalizing marked with
  | nil => exact .slnil
  | cons c rest ih =>
    rw [tightenAfter]
    split
    next => exact (ih marked).cons c
    next => exact (ih _).cons_cons c

theorem tighten_sublist (cs : List Char) : (tighten cs).Sublist cs :=
  (tightenAfter_sublist false _).trans (tightenBefore_sublist cs)

theorem length_collapse_le (spaced : Bool) (cs : List Char) : (collapse spaced cs).length ≤ cs.length := by
  induction cs generalizing spaced with
  | nil => exact Nat.le_refl _
  | cons c rest ih =>
    rw [collapse]
    split
    next =>
      split
      next => exact Nat.le_succ_of_le (ih true)
      next => exact Nat.succ_le_succ (ih true)
    next => exact Nat.succ_le_succ (ih false)

theorem dropLastSemicolons_sublist (cs : List Char) : (dropLastSemicolons cs).Sublist cs := by
  fun_induction dropLastSemicolons cs with
  | case1 rest ih => exact (ih.cons_cons '}').cons ';'
  | case2 c rest other ih => exact ih.cons_cons c
  | case3 => exact .slnil

theorem dropLastSemicolons_eq_self_iff {cs : List Char} : dropLastSemicolons cs = cs ↔ ¬ [';', '}'] <:+: cs := by
  fun_induction dropLastSemicolons cs with
  | case1 rest ih =>
    have changed : '}' :: dropLastSemicolons rest ≠ ';' :: '}' :: rest := by simp
    simp [changed, List.infix_cons_iff]
  | case2 c rest other ih =>
    have goes : ¬ [';', '}'] <+: c :: rest := by
      rintro ⟨more, same⟩
      cases same
      exact other more rfl rfl
    rw [List.infix_cons_iff, not_or, and_iff_right goes, ← ih]
    simp
  | case3 => simp

end Vitae.Stylesheet
