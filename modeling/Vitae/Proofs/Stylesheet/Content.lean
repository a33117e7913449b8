import Vitae.Proofs.Stylesheet.Spacing

/-! What a stylesheet that has been made smaller still says. Apart from its white space nothing is lost
but comments and the last semicolons before closing braces, and nothing changes its place. The pass over
semicolons can be thought of as working on the text without its white space, since by then there is none
beside a semicolon or a brace. -/

namespace Vitae.Stylesheet

/-- A text without its white space. -/
def solid (cs : List Char) : List Char :=
  cs.filter fun c => !Text.isBlank c

/-- Two texts that are the same but for one semicolon of every run that stands before a closing brace. -/
inductive OneSemicolonFewer : List Char → List Char → Prop
  | ends (n : Nat) : OneSemicolonFewer (List.replicate n ';') (List.replicate n ';')
  | run (n : Nat) {c : Char} {rest text : List Char} (other : c ≠ ';') (later : OneSemicolonFewer rest text) :
      OneSemicolonFewer (List.replicate n ';' ++ c :: rest) (List.replicate (if c = '}' then n - 1 else n) ';' ++ c :: text)

theorem dropLastSemicolons_replicate (n : Nat) : dropLastSemicolons (List.replicate n ';') = List.replicate n ';' := by
  induction n with
  | zero => rfl
  | succ n ih =>
    rw [List.replicate_succ, dropLastSemicolons_cons, ih]
    intro _
    cases n <;> simp [List.replicate_succ]

theorem dropLastSemicolons_run (n : Nat) {c : Char} (other : c ≠ ';') (rest : List Char) :
    dropLastSemicolons (List.replicate n ';' ++ c :: rest) =
      List.replicate (if c = '}' then n - 1 else n) ';' ++ c :: dropLastSemicolons rest := by
  induction n with
  | zero => simp [dropLastSemicolons_of_ne other]
  | succ n ih =>
    rw [List.replicate_succ, List.cons_append]
    cases n with
    | zero =>
      by_cases brace : c = '}'
      · simp [brace, dropLastSemicolons]
      · rw [dropLastSemicolons_cons (by simpa using brace)]
        simp [brace, dropLastSemicolons_of_ne other]
    | succ n =>
      rw [dropLastSemicolons_cons (by simp [List.replicate_succ]), ih, ← List.cons_append, ← List.replicate_succ]
      split <;> rfl

theorem oneSemicolonFewer_dropLastSemicolons (n : Nat) (cs : List Char) :
    OneSemicolonFewer (List.replicate n ';' ++ cs) (dropLastSemicolons (List.replicate n ';' ++ cs)) := by
  -- On what follows the run of semicolons that has been counted so far.
  induction cs generalizing n with
  | nil =>
    rw [List.append_nil, dropLastSemicolons_replicate]
    exact .ends n
  | cons c rest ih =>
    by_cases semicolon : c = ';'
    · rw [semicolon, List.append_cons, ← List.replicate_succ']
      exact ih (n + 1)
    · rw [dropLastSemicolons_run n semicolon]
      exact .run n semicolon (ih 0)

theorem oneSemicolonFewer_iff {cs text : List Char} : OneSemicolonFewer cs text ↔ text = dropLastSemicolons cs := by
  constructor
  · intro fewer
    induction fewer with
    | ends n => exact (dropLastSemicolons_replicate n).symm
    | run n other later ih => rw [dropLastSemicolons_run n other, ih]
  · rintro rfl
    exact oneSemicolonFewer_dropLastSemicolons 0 cs

theorem solid_cons_blank {c : Char} (blank : Text.isBlank c = true) (cs : List Char) : solid (c :: cs) = solid cs :=
  List.filter_cons_of_neg (by simp [blank])

theorem solid_cons {c : Char} (solid : Text.isBlank c = false) (cs : List Char) :
    Stylesheet.solid (c :: cs) = c :: Stylesheet.solid cs :=
  List.filter_cons_of_pos (by simp [solid])

theorem solid_dropLastSemicolons {cs : List Char} (fit : cs.IsChain Fit) :
    solid (dropLastSemicolons cs) = dropLastSemicolons (solid cs) := by
  fun_induction dropLastSemicolons cs with
  | case1 rest ih =>
    rw [solid_cons rfl, solid_cons rfl, solid_cons rfl, ih fit.tail.tail, dropLastSemicolons]
  | case2 c rest other ih =>
    obtain ⟨next, later⟩ := List.isChain_cons.mp fit
    cases blank : Text.isBlank c with
    | true => rw [solid_cons_blank blank, solid_cons_blank blank, ih later]
    | false =>
      rw [solid_cons blank, solid_cons blank, dropLastSemicolons_cons, ih later]
      intro semicolon brace
      cases rest with
      | nil => cases brace
      | cons d more =>
        have close : Text.isBlank d = false := (next d rfl).1.2 (semicolon ▸ rfl)
        rw [solid_cons close] at brace
        cases brace
        exact other more semicolon rfl
  | case3 => rfl

theorem solid_tidy (cs : List Char) : solid (tidy cs) = dropLastSemicolons (solid cs) := by
  have blanks : ∀ c, Text.isBlank c = true → (!Text.isBlank c) = false := fun c blank => by simp [blank]
  have letter : IsLetter 'a' := ⟨rfl, rfl⟩
  have fit : (collapse false (dropLineBreaks (tighten cs))).IsChain Fit := (isChain_collapsed letter cs).tail
  have kept : solid (collapse false (dropLineBreaks (tighten cs))) = solid cs :=
    ((filter_collapse blanks false _).trans (filter_dropLineBreaks blanks _)).trans (filter_tighten blanks cs)
  rw [tidy, solid_dropLastSemicolons fit, kept]

/-- Making a stylesheet smaller loses its comments, its white space and the last semicolon of each run
before a closing brace. Every other character is there once, and in its place. -/
theorem solid_compact (css : String) :
    ∃ text, (∀ left, Uncommented css.toList left ↔ left = text) ∧
      solid (compact css).toList = dropLastSemicolons (solid text) ∧
      ∀ left, OneSemicolonFewer (solid text) left ↔ left = solid (compact css).toList := by
  have kept : solid (compact css).toList = dropLastSemicolons (solid (stripComments css.toList)) := by
    rw [toList_compact, solid_tidy]
  refine ⟨stripComments css.toList, fun left => uncommented_iff, kept, fun left => ?_⟩
  rw [kept]
  exact oneSemicolonFewer_iff

example : compact "a { b : c ;; ; } /* menu */ d\u0085;" = "a{b:c;;}d;" := by decide +kernel

end Vitae.Stylesheet
