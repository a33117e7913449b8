import Vitae.Proofs.Stylesheet.Passes

/-! What becomes of the white space between two words of a stylesheet. Once the comments are out, no
pass looks past a letter: what it does before one is settled there, and it goes on after it as at the
beginning. So all passes together can be followed through one gap at a time. The pass that takes out
line breaks comes before the one that writes a space for a gap, and so a gap of nothing but line
breaks is gone by then. -/

namespace Vitae.Stylesheet

/-- The passes that follow once the comments are out. -/
def tidy (cs : List Char) : List Char :=
  dropLastSemicolons (collapse false (dropLineBreaks (tighten cs)))

theorem toList_compact (css : String) : (compact css).toList = tidy (stripComments css.toList) :=
  String.toList_ofList

/-- A character of a word: neither white space nor a mark. -/
structure IsLetter (c : Char) : Prop where
  solid : Text.isBlank c = false
  unmarked : isMark c = false

/-- What a stylesheet says, apart from its white space and its semicolons. -/
def content (cs : List Char) : List Char :=
  cs.filter fun c => !Text.isBlank c && c != ';'

/-- A pass that takes out only white space and semicolons, and starts afresh after each letter. -/
structure Local (pass : List Char → List Char) : Prop where
  keeps : ∀ cs, content (pass cs) = content cs
  cuts : ∀ before letter, IsLetter letter → ∃ front, ∀ after,
    pass (before ++ letter :: after) = front ++ letter :: pass after

theorem Local.then {first second : List Char → List Char} (one : Local first) (other : Local second) :
    Local fun cs => second (first cs) := by
  refine ⟨fun cs => (other.keeps _).trans (one.keeps cs), ?_⟩
  intro before letter word
  obtain ⟨front, first⟩ := one.cuts before letter word
  obtain ⟨start, second⟩ := other.cuts front letter word
  refine ⟨start, fun after => ?_⟩
  rw [first, second]

theorem content_append (front back : List Char) : content (front ++ back) = content front ++ content back :=
  List.filter_append ..

theorem content_cons (c : Char) (cs : List Char) : content (c :: cs) = content [c] ++ content cs :=
  content_append [c] cs

/-- White space is no part of the content, so whatever keeps the rest keeps the content. -/
theorem no_content_of_isBlank (c : Char) (blank : Text.isBlank c = true) : (!Text.isBlank c && c != ';') = false := by
  simp [blank]

theorem IsLetter.content {c : Char} (letter : IsLetter c) : Stylesheet.content [c] = [c] := by
  have unmarked := letter.unmarked
  simp only [isMark, Bool.or_eq_false_iff] at unmarked
  simp_all [Stylesheet.content, letter.solid]

theorem tightenBefore_local : Local tightenBefore := by
  refine ⟨filter_tightenBefore no_content_of_isBlank, fun before letter word => ?_⟩
  induction before with
  | nil => exact ⟨[], fun after => by simp [tightenBefore, word.solid]⟩
  | cons c rest ih =>
    obtain ⟨front, same⟩ := ih
    -- The pass looks ahead for a mark, but not past the letter.
    have start (after : List Char) : startsWithMark (front ++ letter :: after) = startsWithMark (front ++ [letter]) := by
      cases front <;> rfl
    refine ⟨if Text.isBlank c && startsWithMark (front ++ [letter]) then front else c :: front, fun after => ?_⟩
    rw [List.cons_append, tightenBefore, same, start]
    split <;> rfl

theorem tightenAfter_cuts (before : List Char) {letter : Char} (word : IsLetter letter) (marked : Bool) :
    ∃ front, ∀ after, tightenAfter marked (before ++ letter :: after) = front ++ letter :: tightenAfter false after := by
  -- Whatever the pass carries along, it has forgotten after a letter.
  induction before generalizing marked with
  | nil => exact ⟨[], fun after => by simp [tightenAfter, word.solid, word.unmarked]⟩
  | cons c rest ih =>
    by_cases loose : (marked && Text.isBlank c) = true
    · obtain ⟨front, same⟩ := ih marked
      refine ⟨front, fun after => ?_⟩
      rw [List.cons_append, tightenAfter, if_pos loose, same]
    · obtain ⟨front, same⟩ := ih (isMark c)
      refine ⟨c :: front, fun after => ?_⟩
      rw [List.cons_append, tightenAfter, if_neg loose, same, List.cons_append]

theorem tighten_local : Local tighten :=
  tightenBefore_local.then
    ⟨filter_tightenAfter no_content_of_isBlank false, fun before _ word => tightenAfter_cuts before word false⟩

def isLineBreak (c : Char) : Bool :=
  c == '\n' || c == '\r'

theorem dropLineBreaks_eq_nil_iff {cs : List Char} : dropLineBreaks cs = [] ↔ cs.all isLineBreak = true := by
  rw [dropLineBreaks, List.filter_eq_nil_iff, List.all_eq_true]
  apply forall₂_congr
  intro c _
  simp [isLineBreak, Decidable.or_iff_not_imp_left]

theorem dropLineBreaks_cuts (before : List Char) {letter : Char} (word : IsLetter letter) (after : List Char) :
    dropLineBreaks (before ++ letter :: after) = dropLineBreaks before ++ letter :: dropLineBreaks after := by
  have feed : letter ≠ '\n' := by
    rintro rfl
    cases word.solid
  have carriage : letter ≠ '\r' := by
    rintro rfl
    cases word.solid
  simp [dropLineBreaks, feed, carriage]

theorem dropLineBreaks_local : Local dropLineBreaks :=
  ⟨filter_dropLineBreaks no_content_of_isBlank, fun before _ word => ⟨dropLineBreaks before, dropLineBreaks_cuts before word⟩⟩

theorem collapse_cuts (before : List Char) {letter : Char} (word : IsLetter letter) (spaced : Bool) :
    ∃ front, ∀ after, collapse spaced (before ++ letter :: after) = front ++ letter :: collapse false after := by
  induction before generalizing spaced with
  | nil => exact ⟨[], fun after => by simp [collapse, word.solid]⟩
  | cons c rest ih =>
    cases blank : Text.isBlank c with
    | false =>
      obtain ⟨front, same⟩ := ih false
      exact ⟨c :: front, fun after => by simp [collapse, blank, same]⟩
    | true =>
      obtain ⟨front, same⟩ := ih true
      exact ⟨if spaced then front else ' ' :: front, fun after => by cases spaced <;> simp [collapse, blank, same]⟩

theorem collapse_local : Local (collapse false) :=
  ⟨filter_collapse no_content_of_isBlank false, fun before _ word => collapse_cuts before word false⟩

theorem IsLetter.not_semicolon {c : Char} (letter : IsLetter c) : c ≠ ';' := by
  rintro rfl
  cases letter.unmarked

theorem dropLastSemicolons_local : Local dropLastSemicolons := by
  refine ⟨fun cs => ?_, fun before letter word => ?_⟩
  · fun_induction dropLastSemicolons cs with
    | case1 rest ih => rw [content_cons, ih, content_cons ';', content_cons '}' rest]; rfl
    | case2 c rest other ih => rw [content_cons, ih, ← content_cons]
    | case3 => rfl
  · fun_induction dropLastSemicolons before with
    | case1 rest ih =>
      obtain ⟨front, same⟩ := ih
      exact ⟨'}' :: front, fun after => by simp [dropLastSemicolons, same]⟩
    | case2 c rest other ih =>
      obtain ⟨front, same⟩ := ih
      refine ⟨c :: front, fun after => ?_⟩
      rw [List.cons_append, dropLastSemicolons_cons, same, List.cons_append]
      intro semicolon
      cases rest with
      | nil =>
        -- Here the letter itself would have to be the brace.
        rintro ⟨⟩
        cases word.unmarked
      | cons d more =>
        rintro ⟨⟩
        exact other _ semicolon rfl
    | case3 => exact ⟨[], fun after => dropLastSemicolons_of_ne word.not_semicolon⟩

theorem tidy_local : Local tidy :=
  ((tighten_local.then dropLineBreaks_local).then collapse_local).then dropLastSemicolons_local

section Gap

variable {gap after : List Char} {letter : Char}

theorem tightenBefore_gap (blank : ∀ c ∈ gap, Text.isBlank c = true) (word : IsLetter letter) :
    tightenBefore (gap ++ letter :: after) = gap ++ letter :: tightenBefore after := by
  induction gap with
  | nil => simp [tightenBefore, word.solid]
  | cons c rest ih =>
    have unmarked : startsWithMark (rest ++ letter :: tightenBefore after) = false := by
      cases rest with
      | nil => exact word.unmarked
      | cons d more => exact isMark_of_isBlank (blank d (by simp))
    rw [List.cons_append, tightenBefore, ih fun d member => blank d (List.mem_cons_of_mem _ member), unmarked]
    simp

theorem tightenAfter_gap (blank : ∀ c ∈ gap, Text.isBlank c = true) (word : IsLetter letter) :
    tightenAfter false (gap ++ letter :: after) = gap ++ letter :: tightenAfter false after := by
  induction gap with
  | nil => simp [tightenAfter, word.unmarked]
  | cons c rest ih =>
    have unmarked := isMark_of_isBlank (blank c List.mem_cons_self)
    simp [tightenAfter, unmarked, ih fun d member => blank d (List.mem_cons_of_mem _ member)]

theorem collapse_gap (blank : ∀ c ∈ gap, Text.isBlank c = true) (word : IsLetter letter) (spaced : Bool) :
    collapse spaced (gap ++ letter :: after) =
      (if spaced = true ∨ gap = [] then [] else [' ']) ++ letter :: collapse false after := by
  induction gap generalizing spaced with
  | nil => simp [collapse, word.solid]
  | cons c rest ih =>
    have later := ih (fun d member => blank d (List.mem_cons_of_mem _ member)) true
    cases spaced with
    | true => simpa [collapse, blank c List.mem_cons_self] using later
    | false => simpa [collapse, blank c List.mem_cons_self] using later

/-- A gap comes out as one space, or as nothing if all of it is line breaks. -/
theorem tidy_gap (blank : ∀ c ∈ gap, Text.isBlank c = true) (word : IsLetter letter) :
    tidy (gap ++ letter :: after) = (if gap.all isLineBreak then [] else [' ']) ++ letter :: tidy after := by
  have spaces : ∀ c ∈ dropLineBreaks gap, Text.isBlank c = true :=
    fun c member => blank c (List.mem_filter.mp member).1
  simp only [tidy, tighten, tightenBefore_gap blank word, tightenAfter_gap blank word, dropLineBreaks_cuts gap word,
    collapse_gap spaces word, dropLineBreaks_eq_nil_iff, Bool.false_eq_true, false_or]
  split
  next => exact dropLastSemicolons_of_ne word.not_semicolon
  next =>
    have space : ' ' ≠ ';' := by decide
    rw [List.singleton_append, dropLastSemicolons_of_ne space, dropLastSemicolons_of_ne word.not_semicolon,
      List.singleton_append]

end Gap

/-- What stands between two letters of a text, if that text says the same as another in front of
them and behind them. -/
def Between (before : List Char) (a b : Char) (after text gap : List Char) : Prop :=
  ∃ front back, content front = content before ∧ content back = content after ∧ text = front ++ a :: (gap ++ b :: back)

/-- A letter is found again by what is in front of it. -/
theorem eq_of_content {front start back rest : List Char} {a b : Char} (first : IsLetter a) (second : IsLetter b)
    (said : content front = content start) (same : front ++ a :: back = start ++ b :: rest) : front = start := by
  rcases List.append_eq_append_iff.mp same with ⟨more, rfl, tail⟩ | ⟨more, rfl, tail⟩
  · cases more with
    | nil => rw [List.append_nil]
    | cons c more =>
      cases tail
      rw [content_append, content_cons, first.content] at said
      simp at said
  · cases more with
    | nil => rw [List.append_nil]
    | cons c more =>
      cases tail
      rw [content_append, content_cons, second.content] at said
      simp at said

variable {before after gap : List Char} {a b : Char}

theorem Between.unique (first : IsLetter a) (second : IsLetter b) {text space other : List Char}
    (one : Between before a b after text space) (two : Between before a b after text other)
    (white : content space = content other) : space = other := by
  obtain ⟨front, back, said, _, rfl⟩ := one
  obtain ⟨start, rest, also, _, same⟩ := two
  obtain rfl := eq_of_content first first (said.trans also.symm) same
  have tails := List.append_cancel_left same
  exact eq_of_content second second white (List.cons.inj tails).2

theorem between_compact {css : String} (first : IsLetter a) (second : IsLetter b)
    (blank : ∀ c ∈ gap, Text.isBlank c = true) (stripped : stripComments css.toList = before ++ a :: (gap ++ b :: after)) :
    Between before a b after (compact css).toList (if gap.all isLineBreak then [] else [' ']) := by
  obtain ⟨front, same⟩ := tidy_local.cuts before a first
  refine ⟨front, tidy after, ?_, tidy_local.keeps after, ?_⟩
  · have said := tidy_local.keeps (before ++ [a])
    rw [same [], content_append, content_append] at said
    exact List.append_cancel_right said
  · rw [toList_compact, stripped, same, tidy_gap blank second]

/-- Once the comments are out, two letters with white space between them come out with one space
between them, unless the white space is nothing but line breaks: then nothing is left between them.
Which two letters those are is known by what comes before and after them. -/
theorem one_space_between_iff {css : String} (first : IsLetter a) (second : IsLetter b)
    (blank : ∀ c ∈ gap, Text.isBlank c = true) (stripped : stripComments css.toList = before ++ a :: (gap ++ b :: after)) :
    (Between before a b after (compact css).toList [' '] ↔ ∃ c ∈ gap, c ≠ '\n' ∧ c ≠ '\r') ∧
    (Between before a b after (compact css).toList [] ↔ ∀ c ∈ gap, c = '\n' ∨ c = '\r') := by
  have between := between_compact first second blank stripped
  have lines : gap.all isLineBreak = true ↔ ∀ c ∈ gap, c = '\n' ∨ c = '\r' := by
    simp only [List.all_eq_true, isLineBreak, Bool.or_eq_true, beq_iff_eq]
  have other : (∃ c ∈ gap, c ≠ '\n' ∧ c ≠ '\r') ↔ ¬ gap.all isLineBreak = true := by
    rw [lines]
    simp
  rw [other, ← lines]
  by_cases all : gap.all isLineBreak = true
  · rw [if_pos all] at between
    refine ⟨⟨fun spaced => ?_, fun some => absurd all some⟩, ⟨fun _ => all, fun _ => between⟩⟩
    cases spaced.unique first second between rfl
  · rw [if_neg all] at between
    refine ⟨⟨fun _ => all, fun _ => between⟩, ⟨fun fused => ?_, fun lines => absurd lines all⟩⟩
    cases fused.unique first second between rfl

theorem one_space_between_selectors :
    let css := "/* menu */.nav \n.link{ color : red ; }"
    let before := ".na".toList
    let after := "link{ color : red ; }".toList
    stripComments css.toList = before ++ 'v' :: ([' ', '\n'] ++ '.' :: after) ∧
      compact css = ".nav .link{color:red}" ∧ Between before 'v' '.' after (compact css).toList [' '] := by
  intro css before after
  have stripped : stripComments css.toList = before ++ 'v' :: ([' ', '\n'] ++ '.' :: after) := by decide +kernel
  have blank : ∀ c ∈ [' ', '\n'], Text.isBlank c = true := by simp [Text.isBlank]
  exact ⟨stripped, by decide +kernel, (one_space_between_iff ⟨rfl, rfl⟩ ⟨rfl, rfl⟩ blank stripped).1.mpr ⟨' ', by decide⟩⟩

/-- Two selectors with a line break between them become one: white space between letters does not
always come out as a space. -/
theorem selectors_fused_by_line_break :
    ¬ ∀ (css : String) (before gap after : List Char) (a b : Char), IsLetter a → IsLetter b → gap ≠ [] →
      (∀ c ∈ gap, Text.isBlank c = true) → stripComments css.toList = before ++ a :: (gap ++ b :: after) →
      Between before a b after (compact css).toList [' '] := by
  intro claim
  have stripped : stripComments ".a\n.b{}".toList = ['.'] ++ 'a' :: (['\n'] ++ '.' :: ['b', '{', '}']) := by decide +kernel
  have fused : (compact ".a\n.b{}").toList = ".a.b{}".toList := by decide +kernel
  obtain ⟨front, back, _, _, spaced⟩ :=
    claim _ _ _ _ _ _ ⟨rfl, rfl⟩ ⟨rfl, rfl⟩ (List.cons_ne_nil _ _) (by simp [Text.isBlank]) stripped
  have space : ' ' ∈ ".a.b{}".toList := by
    rw [← fused, spaced]
    simp
  exact absurd space (by decide)

end Vitae.Stylesheet
