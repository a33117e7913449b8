import Mathlib.Data.List.Infix
import Vitae.Stylesheet

/-! What taking out the comments comes to. A comment begins at the first opening that there is and
ends at the first closing behind that opening, whatever stands between them; the search goes on behind
it. So what is left is determined, and may itself contain a comment that was not one before. -/

namespace Vitae.Stylesheet

/-- A text with a whole comment in it somewhere. -/
def Commented (cs : List Char) : Prop :=
  ∃ before inside after, cs = before ++ '/' :: '*' :: (inside ++ '*' :: '/' :: after)

/-- A text and what is left of it without its comments, taken from the left. -/
inductive Uncommented : List Char → List Char → Prop
  | whole {cs} (none : ¬ Commented cs) : Uncommented cs cs
  | comment {before inside after text} (first : ¬ ['/', '*'] <:+: before) (closes : ¬ ['*', '/'] <:+: inside)
      (rest : Uncommented after text) :
      Uncommented (before ++ '/' :: '*' :: (inside ++ '*' :: '/' :: after)) (before ++ text)

theorem Uncommented.sublist {cs text : List Char} (left : Uncommented cs text) : text.Sublist cs := by
  induction left with
  | whole none => exact List.Sublist.refl _
  | @comment before inside after text first closes rest ih =>
    have behind : after.Sublist ('/' :: '*' :: (inside ++ '*' :: '/' :: after)) :=
      (List.suffix_append (['/', '*'] ++ inside ++ ['*', '/']) after).sublist.trans (by simp)
    exact (ih.trans behind).append_left before

theorem pair_infix_cons_iff {a b c : Char} {cs : List Char} :
    [a, b] <:+: c :: cs ↔ (a = c ∧ cs.head? = some b) ∨ [a, b] <:+: cs := by
  rw [List.infix_cons_iff, List.cons_prefix_cons, List.singleton_prefix_iff_head?_eq_some]

theorem head?_of_append_cons {before rest : List Char} {mark c : Char} (other : mark ≠ c)
    (head : (before ++ mark :: rest).head? = some c) : before.head? = some c := by
  cases before with
  | nil => exact absurd (Option.some.inj head) other
  | cons d more => exact head

theorem afterComment?_cons {c : Char} {rest : List Char} (goes : c = '*' → rest.head? ≠ some '/') :
    afterComment? (c :: rest) = afterComment? rest := by
  rw [afterComment?]
  rintro more star rfl
  exact goes star rfl

theorem afterComment?_eq_some_iff {cs after : List Char} :
    afterComment? cs = some after ↔ ∃ inside, ¬ ['*', '/'] <:+: inside ∧ cs = inside ++ '*' :: '/' :: after := by
  constructor
  · intro closed
    fun_induction afterComment? cs with
    | case1 rest =>
      cases closed
      exact ⟨[], by simp, rfl⟩
    | case2 c rest goes ih =>
      obtain ⟨inside, closes, rfl⟩ := ih closed
      refine ⟨c :: inside, ?_, rfl⟩
      rw [pair_infix_cons_iff]
      rintro (⟨star, slash⟩ | within)
      · obtain ⟨more, rfl⟩ := List.head?_eq_some_iff.mp slash
        exact goes _ star.symm rfl
      · exact closes within
    | case3 => cases closed
  · rintro ⟨inside, closes, rfl⟩
    induction inside with
    | nil => rfl
    | cons c inside ih =>
      rw [pair_infix_cons_iff, not_or] at closes
      rw [List.cons_append, afterComment?_cons, ih closes.2]
      exact fun star slash => closes.1 ⟨star.symm, head?_of_append_cons (by decide) slash⟩

theorem afterComment?_eq_none_iff {cs : List Char} : afterComment? cs = none ↔ ¬ ['*', '/'] <:+: cs := by
  fun_induction afterComment? cs with
  | case1 rest => simp [pair_infix_cons_iff]
  | case2 c rest goes ih =>
    rw [ih, pair_infix_cons_iff, not_or]
    refine (and_iff_right ?_).symm
    rintro ⟨star, slash⟩
    obtain ⟨more, rfl⟩ := List.head?_eq_some_iff.mp slash
    exact goes _ star.symm rfl
  | case3 => simp

theorem commented_cons_iff {c : Char} {rest : List Char} :
    Commented (c :: rest) ↔ (c = '/' ∧ ∃ more, rest = '*' :: more ∧ ['*', '/'] <:+: more) ∨ Commented rest := by
  constructor
  · rintro ⟨before, inside, after, same⟩
    cases before with
    | nil =>
      cases same
      exact Or.inl ⟨rfl, _, rfl, inside, after, by simp⟩
    | cons d before =>
      cases same
      exact Or.inr ⟨before, inside, after, rfl⟩
  · rintro (⟨rfl, more, rfl, inside, after, rfl⟩ | ⟨before, inside, after, rfl⟩)
    · exact ⟨[], inside, after, by simp⟩
    · exact ⟨c :: before, inside, after, rfl⟩

theorem Commented.closing {cs : List Char} (commented : Commented cs) : ['*', '/'] <:+: cs := by
  obtain ⟨before, inside, after, rfl⟩ := commented
  exact ⟨before ++ '/' :: '*' :: inside, after, by simp⟩

theorem stripComments_cons {c : Char} {rest : List Char} (stays : c = '/' → rest.head? ≠ some '*') :
    stripComments (c :: rest) = c :: stripComments rest := by
  rw [stripComments]
  rintro more slash rfl
  exact stays slash rfl

theorem stripComments_comment {rest after : List Char} (closed : afterComment? rest = some after) :
    stripComments ('/' :: '*' :: rest) = stripComments after := by
  rw [stripComments]
  split <;> simp_all

theorem uncommented_stripComments (cs : List Char) : Uncommented cs (stripComments cs) := by
  fun_induction stripComments cs with
  | case1 rest after closed ih =>
    obtain ⟨inside, closes, rfl⟩ := afterComment?_eq_some_iff.mp closed
    exact @Uncommented.comment [] inside after _ (by simp) closes ih
  | case2 rest closed =>
    have unclosed := afterComment?_eq_none_iff.mp closed
    refine .whole fun commented => ?_
    rcases commented_cons_iff.mp commented with ⟨_, more, same, closing⟩ | later
    · cases same
      exact unclosed closing
    · rcases commented_cons_iff.mp later with ⟨slash, _⟩ | within
      · exact absurd slash (by decide)
      · exact unclosed within.closing
  | case3 c rest stays ih =>
    have goes : ¬ (c = '/' ∧ ∃ more, rest = '*' :: more) := fun ⟨slash, more, same⟩ => stays more slash same
    generalize stripComments rest = text at ih
    cases ih with
    | whole none =>
      refine .whole fun commented => ?_
      rcases commented_cons_iff.mp commented with ⟨slash, more, same, _⟩ | within
      · exact goes ⟨slash, more, same⟩
      · exact none within
    | @comment before inside after text first closes rest =>
      refine @Uncommented.comment (c :: before) inside after text ?_ closes rest
      rw [pair_infix_cons_iff]
      rintro (⟨slash, star⟩ | within)
      · obtain ⟨more, rfl⟩ := List.head?_eq_some_iff.mp star
        exact goes ⟨slash.symm, _, rfl⟩
      · exact first within
  | case4 => exact .whole (by simp [Commented])

theorem stripComments_of_not_commented {cs : List Char} (none : ¬ Commented cs) : stripComments cs = cs := by
  fun_induction stripComments cs with
  | case1 rest after closed ih =>
    obtain ⟨inside, _, rfl⟩ := afterComment?_eq_some_iff.mp closed
    exact absurd ⟨[], inside, after, rfl⟩ none
  | case2 rest closed => rfl
  | case3 c rest stays ih =>
    rw [commented_cons_iff, not_or] at none
    rw [ih none.2]
  | case4 => rfl

/-- The rule leaves no choice. -/
theorem uncommented_iff {cs text : List Char} : Uncommented cs text ↔ text = stripComments cs := by
  refine ⟨fun left => ?_, fun same => same ▸ uncommented_stripComments cs⟩
  induction left with
  | whole none => exact (stripComments_of_not_commented none).symm
  | @comment before inside after text first closes rest ih =>
    rw [ih]
    clear ih rest
    induction before with
    | nil =>
      rw [List.nil_append, List.nil_append, stripComments_comment (afterComment?_eq_some_iff.mpr ⟨inside, closes, rfl⟩)]
    | cons c before ih =>
      rw [pair_infix_cons_iff, not_or] at first
      rw [List.cons_append, List.cons_append, ih first.2, stripComments_cons]
      exact fun slash star => first.1 ⟨slash.symm, head?_of_append_cons (by decide) star⟩

theorem stripComments_sublist (cs : List Char) : (stripComments cs).Sublist cs :=
  (uncommented_stripComments cs).sublist

theorem Uncommented.length_lt {cs text : List Char} (left : Uncommented cs text) (commented : Commented cs) :
    text.length < cs.length := by
  cases left with
  | whole none => exact absurd commented none
  | comment first closes rest =>
    have shorter := rest.sublist.length_le
    simp only [List.length_append, List.length_cons]
    omega

end Vitae.Stylesheet
