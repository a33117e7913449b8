import Mathlib.Data.List.Chain
import Vitae.Proofs.Stylesheet.Comments
import Vitae.Proofs.Stylesheet.Words

/-! The white space of a stylesheet that has been made smaller, and which stylesheets cannot be made
smaller. Each pass settles something about neighbouring characters, and the passes after it keep that:
what they take out between two neighbours is white space, so neither neighbour is a mark. The last pass
takes a semicolon out, but from between two marks or from behind a letter. -/

namespace Vitae.Stylesheet

/-- No white space in front of a mark. -/
def SnugBefore (a b : Char) : Prop :=
  isMark b = true → Text.isBlank a = false

/-- No white space beside a mark. -/
def Snug (a b : Char) : Prop :=
  SnugBefore a b ∧ (isMark a = true → Text.isBlank b = false)

/-- No white space beside a mark or beside white space. -/
def Fit (a b : Char) : Prop :=
  Snug a b ∧ (Text.isBlank a = true → Text.isBlank b = false)

/-- White space as it is left when a stylesheet has been made smaller: single spaces, and none beside a mark. -/
structure Spare (cs : List Char) : Prop where
  spaces : ∀ c ∈ cs, Text.isBlank c = true → c = ' '
  apart : cs.IsChain Fit

theorem Snug.unmarked {a c : Char} (snug : Snug a c) (blank : Text.isBlank c = true) : isMark a = false :=
  Bool.eq_false_iff.mpr fun mark => Bool.eq_false_iff.mp (snug.2 mark) blank

/-- White space can go from between two characters: neither of them is a mark. -/
theorem Snug.over {a c b : Char} (before : Snug a c) (after : Snug c b) (blank : Text.isBlank c = true) : Snug a b := by
  constructor
  · intro mark
    exact absurd blank (Bool.eq_false_iff.mp (after.1 mark))
  · intro mark
    exact absurd mark (Bool.eq_false_iff.mp (before.unmarked blank))

theorem isChain_of_blank {a c : Char} {rest : List Char} (snug : (a :: c :: rest).IsChain Snug)
    (blank : Text.isBlank c = true) : (a :: rest).IsChain Snug := by
  obtain ⟨before, later⟩ := List.isChain_cons_cons.mp snug
  obtain ⟨next, rest⟩ := List.isChain_cons.mp later
  exact List.isChain_cons.mpr ⟨fun b head => before.over (next b head) blank, rest⟩

section Passes

/-! Each pass is followed with the character in front of the text, which the pass has dealt with. -/

theorem isChain_tightenBefore (cs : List Char) : (tightenBefore cs).IsChain SnugBefore := by
  induction cs with
  | nil => exact .nil
  | cons c rest ih =>
    rw [tightenBefore]
    split
    next => exact ih
    next tight =>
      refine List.isChain_cons.mpr ⟨fun b head mark => ?_, ih⟩
      obtain ⟨more, same⟩ := List.head?_eq_some_iff.mp head
      simpa [same, startsWithMark, mark] using tight

theorem isChain_tightenAfter {a : Char} {cs : List Char} (snug : (a :: cs).IsChain SnugBefore) :
    (a :: tightenAfter (isMark a) cs).IsChain Snug := by
  induction cs generalizing a with
  | nil => exact .singleton a
  | cons c rest ih =>
    obtain ⟨before, later⟩ := List.isChain_cons_cons.mp snug
    rw [tightenAfter]
    split
    next loose =>
      obtain ⟨mark, _⟩ := Bool.and_eq_true_iff.mp loose
      apply ih
      exact List.isChain_cons.mpr ⟨fun b _ _ => isBlank_of_isMark mark, later.tail⟩
    next tight => exact .cons_cons ⟨before, fun mark => by simpa [mark] using tight⟩ (ih later)

theorem isChain_dropLineBreaks {a : Char} {cs : List Char} (snug : (a :: cs).IsChain Snug) :
    (a :: dropLineBreaks cs).IsChain Snug := by
  induction cs generalizing a with
  | nil => exact .singleton a
  | cons c rest ih =>
    by_cases line : c = '\n' ∨ c = '\r'
    · have gone : dropLineBreaks (c :: rest) = dropLineBreaks rest := by
        rcases line with rfl | rfl <;> rfl
      rw [gone]
      exact ih (isChain_of_blank snug (isBlank_of_lineBreak line))
    · have kept : dropLineBreaks (c :: rest) = c :: dropLineBreaks rest :=
        List.filter_cons_of_pos (by simpa [not_or] using line)
      obtain ⟨before, later⟩ := List.isChain_cons_cons.mp snug
      rw [kept]
      exact .cons_cons before (ih later)

/-- What is written for a character when runs are collapsed. -/
def plain (c : Char) : Char :=
  if Text.isBlank c then ' ' else c

theorem isBlank_plain (c : Char) : Text.isBlank (plain c) = Text.isBlank c := by
  rw [plain]
  split
  next blank => exact blank.symm
  next => rfl

theorem isMark_plain (c : Char) : isMark (plain c) = isMark c := by
  rw [plain]
  split
  next blank => exact (isMark_of_isBlank blank).symm
  next => rfl

theorem fit_plain_iff {a b : Char} : Fit (plain a) (plain b) ↔ Fit a b := by
  simp only [Fit, Snug, SnugBefore, isBlank_plain, isMark_plain]

theorem isChain_collapse {a : Char} {cs : List Char} (snug : (a :: cs).IsChain Snug) :
    (plain a :: collapse (Text.isBlank a) cs).IsChain Fit := by
  induction cs generalizing a with
  | nil => exact .singleton _
  | cons c rest ih =>
    obtain ⟨before, later⟩ := List.isChain_cons_cons.mp snug
    by_cases run : Text.isBlank a = true ∧ Text.isBlank c = true
    · have gone : collapse (Text.isBlank a) (c :: rest) = collapse (Text.isBlank a) rest := by
        simp [collapse, run]
      rw [gone]
      exact ih (isChain_of_blank snug run.2)
    · have kept : collapse (Text.isBlank a) (c :: rest) = plain c :: collapse (Text.isBlank c) rest := by
        cases first : Text.isBlank a <;> cases second : Text.isBlank c <;> simp_all [collapse, plain]
      have apart : Text.isBlank a = true → Text.isBlank c = false := by simpa using run
      rw [kept]
      exact .cons_cons (fit_plain_iff.mpr ⟨before, apart⟩) (ih later)

theorem isChain_dropLastSemicolons {a : Char} {cs : List Char} (fit : (a :: cs).IsChain Fit) :
    (a :: dropLastSemicolons cs).IsChain Fit := by
  fun_induction dropLastSemicolons cs generalizing a with
  | case1 rest ih =>
    obtain ⟨before, later⟩ := List.isChain_cons_cons.mp fit
    have solid : Text.isBlank a = false := before.1.1 rfl
    refine .cons_cons ⟨⟨fun _ => solid, fun _ => rfl⟩, fun _ => rfl⟩ (ih later.tail)
  | case2 c rest other ih =>
    obtain ⟨before, later⟩ := List.isChain_cons_cons.mp fit
    exact .cons_cons before (ih later)
  | case3 => exact .singleton a

theorem eq_space_of_mem_collapse {c : Char} {spaced : Bool} {cs : List Char} (member : c ∈ collapse spaced cs)
    (blank : Text.isBlank c = true) : c = ' ' := by
  induction cs generalizing spaced with
  | nil => cases member
  | cons d rest ih =>
    rw [collapse] at member
    split at member
    next =>
      split at member
      next => exact ih member
      next => exact (List.mem_cons.mp member).elim id ih
    next solid =>
      rcases List.mem_cons.mp member with rfl | later
      · exact absurd blank solid
      · exact ih later

end Passes

theorem IsLetter.fit {a : Char} (letter : IsLetter a) (b : Char) : Fit a b :=
  ⟨⟨fun _ => letter.solid, fun mark => absurd mark (by simp [letter.unmarked])⟩,
    fun blank => absurd blank (by simp [letter.solid])⟩

/-- Before the last pass white space is settled. A letter in front of the text is as good as none. -/
theorem isChain_collapsed {a : Char} (letter : IsLetter a) (cs : List Char) :
    (a :: collapse false (dropLineBreaks (tighten cs))).IsChain Fit := by
  have before : (a :: tightenBefore cs).IsChain SnugBefore :=
    List.isChain_cons.mpr ⟨fun b _ => (letter.fit b).1.1, isChain_tightenBefore cs⟩
  have fit := isChain_collapse (isChain_dropLineBreaks (isChain_tightenAfter before))
  rwa [plain, if_neg (by simp [letter.solid]), letter.solid, letter.unmarked] at fit

theorem spare_tidy (cs : List Char) : Spare (tidy cs) := by
  constructor
  · intro c member
    exact eq_space_of_mem_collapse ((dropLastSemicolons_sublist _).subset member)
  · have letter : IsLetter 'a' := ⟨rfl, rfl⟩
    exact (isChain_dropLastSemicolons (isChain_collapsed letter cs)).tail

section Settled

/-! What the passes over white space leave of a text that they have been over. -/

variable {a : Char} {cs : List Char}

theorem tightenBefore_eq_self (snug : cs.IsChain SnugBefore) : tightenBefore cs = cs := by
  induction cs with
  | nil => rfl
  | cons c rest ih =>
    obtain ⟨next, later⟩ := List.isChain_cons.mp snug
    rw [tightenBefore, ih later]
    refine if_neg fun loose => ?_
    obtain ⟨blank, marked⟩ := Bool.and_eq_true_iff.mp loose
    cases rest with
    | nil => cases marked
    | cons d more => exact Bool.eq_false_iff.mp (next d rfl marked) blank

theorem tightenAfter_eq_self (snug : (a :: cs).IsChain Snug) : tightenAfter (isMark a) cs = cs := by
  induction cs generalizing a with
  | nil => rfl
  | cons c rest ih =>
    obtain ⟨before, later⟩ := List.isChain_cons_cons.mp snug
    rw [tightenAfter, ih later]
    refine if_neg fun loose => ?_
    obtain ⟨mark, blank⟩ := Bool.and_eq_true_iff.mp loose
    exact Bool.eq_false_iff.mp (before.2 mark) blank

theorem dropLineBreaks_eq_self (spaces : ∀ c ∈ cs, Text.isBlank c = true → c = ' ') : dropLineBreaks cs = cs := by
  refine List.filter_eq_self.mpr fun c member => ?_
  have other (line : c = '\n' ∨ c = '\r') : False := by
    have space := spaces c member (isBlank_of_lineBreak line)
    rcases line with rfl | rfl <;> cases space
  simpa [not_or] using other

theorem collapse_eq_self (fit : (a :: cs).IsChain Fit) (spaces : ∀ c ∈ cs, Text.isBlank c = true → c = ' ') :
    collapse (Text.isBlank a) cs = cs := by
  induction cs generalizing a with
  | nil => rfl
  | cons c rest ih =>
    obtain ⟨before, later⟩ := List.isChain_cons_cons.mp fit
    have same := ih later fun d member => spaces d (List.mem_cons_of_mem _ member)
    cases blank : Text.isBlank c with
    | false =>
      rw [blank] at same
      simp [collapse, blank, same]
    | true =>
      have first : Text.isBlank a = false :=
        Bool.eq_false_iff.mpr fun blanks => Bool.eq_false_iff.mp (before.2 blanks) blank
      rw [blank] at same
      obtain rfl := spaces c List.mem_cons_self blank
      simp [collapse, blank, first, same]

theorem Spare.tidy (spare : Spare cs) : Stylesheet.tidy cs = dropLastSemicolons cs := by
  have letter : IsLetter 'a' := ⟨rfl, rfl⟩
  have fit : ('a' :: cs).IsChain Fit := List.isChain_cons.mpr ⟨fun b _ => letter.fit b, spare.apart⟩
  have snug : ('a' :: cs).IsChain Snug := fit.imp fun _ _ fit => fit.1
  have before : cs.IsChain SnugBefore := snug.tail.imp fun _ _ snug => snug.1
  have after : tightenAfter false cs = cs := tightenAfter_eq_self snug
  have single : collapse false cs = cs := collapse_eq_self fit spare.spaces
  rw [Stylesheet.tidy, tighten, tightenBefore_eq_self before, after, dropLineBreaks_eq_self spare.spaces, single]

end Settled

theorem length_tidy_le (cs : List Char) : (tidy cs).length ≤ cs.length :=
  calc (tidy cs).length
    _ ≤ (collapse false (dropLineBreaks (tighten cs))).length := (dropLastSemicolons_sublist _).length_le
    _ ≤ (dropLineBreaks (tighten cs)).length := length_collapse_le false _
    _ ≤ (tighten cs).length := List.filter_sublist.length_le
    _ ≤ cs.length := (tighten_sublist cs).length_le

theorem length_compactChars_lt {cs : List Char} (commented : Commented cs) : (compactChars cs).length < cs.length :=
  Nat.lt_of_le_of_lt (length_tidy_le _) ((uncommented_stripComments cs).length_lt commented)

theorem Spare.compactChars {cs : List Char} (spare : Spare cs) (none : ¬ Commented cs) :
    Stylesheet.compactChars cs = dropLastSemicolons cs := by
  rw [← spare.tidy, Stylesheet.compactChars, stripComments_of_not_commented none]
  rfl

/-- A stylesheet that has been made smaller has no white space but single spaces, none of them beside a
mark, and is no longer than it was. It can be made smaller once more only if taking out comments has left
a new one, or if there is another semicolon in front of a closing brace. -/
theorem compact_spare (css : String) :
    let smaller := compact css
    Spare smaller.toList ∧ smaller.length ≤ css.length ∧
    (compact smaller = smaller ↔ ¬ Commented smaller.toList ∧ ¬ [';', '}'] <:+: smaller.toList) ∧
    (compact smaller ≠ smaller → (compact smaller).length < smaller.length) := by
  intro smaller
  have spare : Spare smaller.toList := by
    rw [toList_compact]
    exact spare_tidy _
  have again (text : String) : (compact text).toList = compactChars text.toList := toList_compact text
  refine ⟨spare, ?_, ?_, ?_⟩
  · rw [← String.length_toList, ← String.length_toList, toList_compact]
    exact Nat.le_trans (length_tidy_le _) (stripComments_sublist _).length_le
  · rw [← String.toList_inj, again]
    constructor
    · intro same
      have none : ¬ Commented smaller.toList := fun commented =>
        absurd (congrArg List.length same) (Nat.ne_of_lt (length_compactChars_lt commented))
      exact ⟨none, dropLastSemicolons_eq_self_iff.mp (spare.compactChars none ▸ same)⟩
    · rintro ⟨none, last⟩
      rw [spare.compactChars none, dropLastSemicolons_eq_self_iff.mpr last]
  · intro changed
    rw [← String.length_toList, ← String.length_toList, again]
    by_cases commented : Commented smaller.toList
    · exact length_compactChars_lt commented
    · have shorter := dropLastSemicolons_sublist smaller.toList
      rw [spare.compactChars commented]
      refine Nat.lt_of_le_of_ne shorter.length_le fun same => changed ?_
      rw [← String.toList_inj, again, spare.compactChars commented]
      exact shorter.eq_of_length same

/-- A comment may be put together by taking another out, and of two semicolons one stays. -/
example : compact "//**/* menu */ a { b : c ; ; }" = "/* menu */ a{b:c;}" := by decide +kernel

end Vitae.Stylesheet
