import Vitae.Proofs.Skill.Width

/-! The width of a bar against the declarations of its style. The search never looks past a semicolon, so
a style is searched one declaration after another; but within a declaration it does not look at the whole
name. Every name that ends in `width` will do, and so will a width that is written out within a value. -/

namespace Vitae.SkillBar

/-- What a style sets one property to. -/
structure Declaration where
  name : List Char
  value : List Char
deriving DecidableEq, Repr

/-- The declaration in a piece of a style, if it has a colon. The name reaches up to the first colon, and
no white space in front of it or around the value belongs to them. -/
def declaration? (piece : List Char) : Option Declaration :=
  (Text.splitOnce ':' piece).map fun (before, after) =>
    { name := before.dropWhile Text.isBlank, value := Text.trim after }

/-- The declarations of a style, which stand between semicolons. -/
def declarations (style : String) : List Declaration :=
  (style.toList.splitOn ';').filterMap declaration?

/-- What the search reads in a declaration: the percentage that the value begins with, if the name ends in
`width`, or else a width that is written out in the value. -/
def Declaration.reading? (declaration : Declaration) : Option (List Char) :=
  (if property <:+ declaration.name then percentage? declaration.value else none).or (find? declaration.value)

variable {cs start front back width value : List Char}

/-- The beginnings of a text put together of two are those of the first part and those that go on
into the second. -/
theorem prefix_append_cases (begins : start <+: front ++ back) :
    start <+: front ∨ ∃ more, more ≠ [] ∧ start = front ++ more ∧ more <+: back := by
  obtain ⟨rest, whole⟩ := begins
  rcases List.append_eq_append_iff.mp whole with ⟨more, rfl, _⟩ | ⟨more, rfl, same⟩
  · exact Or.inl (List.prefix_append _ _)
  · cases more with
    | nil => exact Or.inl (by simp)
    | cons c more => exact Or.inr ⟨c :: more, List.cons_ne_nil _ _, rfl, rest, same.symm⟩

theorem find?_of_no_colon (plain : ':' ∉ cs) : find? cs = none := by
  rw [find?_eq_none_iff]
  rintro place width ⟨_, gap, _, begins⟩
  exact plain (List.mem_of_mem_drop (begins.subset (by simp)))

section Semicolon

theorem IsPercentage.no_semicolon (percentage : IsPercentage width) : ';' ∉ width := by
  obtain ⟨digits, rfl, _, decimal⟩ := percentage
  intro member
  rcases List.mem_append.mp member with among | sign
  · exact absurd (decimal _ among) (by decide)
  · exact absurd sign (by decide)

theorem begins_append_semicolon : Begins (front ++ ';' :: back) width ↔ Begins front width := by
  constructor
  · rintro ⟨percentage, gap, blank, begins⟩
    refine ⟨percentage, gap, blank, ?_⟩
    rcases prefix_append_cases begins with within | ⟨more, some, whole, ⟨_, ahead⟩⟩
    · exact within
    · -- What is read would have the semicolon in it.
      have member : ';' ∈ property ++ ':' :: (gap ++ width) := by
        cases more with
        | nil => exact absurd rfl some
        | cons c more =>
          cases ahead
          simp [whole]
      simp only [List.mem_append, List.mem_cons] at member
      rcases member with name | colon | among | among
      · exact absurd name (by decide)
      · exact absurd colon (by decide)
      · exact absurd (blank _ among) (by decide)
      · exact absurd among percentage.no_semicolon
  · rintro ⟨percentage, gap, blank, begins⟩
    exact ⟨percentage, gap, blank, begins.trans (List.prefix_append _ _)⟩

theorem widthHere?_append_semicolon : widthHere? (front ++ ';' :: back) = widthHere? front := by
  apply Option.ext
  intro width
  simp only [widthHere?_eq_some_iff, begins_append_semicolon]

theorem find?_append_semicolon (front back : List Char) :
    find? (front ++ ';' :: back) = (find? front).or (find? back) := by
  induction front with
  | nil =>
    have first : widthHere? (';' :: back) = widthHere? [] := @widthHere?_append_semicolon [] back
    rw [List.nil_append, find?_cons, first]
    rfl
  | cons c rest ih =>
    rw [List.cons_append, find?_cons, ← List.cons_append, widthHere?_append_semicolon, ih, find?_cons, Option.or_assoc]

theorem find?_intercalate (pieces : List (List Char)) :
    find? ([';'].intercalate pieces) = pieces.findSome? find? := by
  induction pieces with
  | nil => rfl
  | cons piece later ih =>
    cases later with
    | nil => simp
    | cons next later =>
      rw [List.intercalate_cons_cons, List.append_assoc, List.singleton_append, find?_append_semicolon, ih,
        List.findSome?_cons (a := piece)]
      cases find? piece <;> rfl

end Semicolon

section Blank

variable (blank : ∀ c ∈ back, Text.isBlank c = true)
include blank

/-- What ends in a percent sign does not reach into white space. -/
theorem prefix_append_blank : start ++ ['%'] <+: front ++ back ↔ start ++ ['%'] <+: front := by
  refine ⟨fun begins => ?_, fun begins => begins.trans (List.prefix_append _ _)⟩
  rcases prefix_append_cases begins with within | ⟨more, some, whole, ahead⟩
  · exact within
  · have last := congrArg List.getLast? whole
    rw [List.getLast?_append_of_ne_nil _ some, List.getLast?_concat] at last
    exact absurd (blank _ (ahead.subset (List.mem_of_getLast? last.symm))) (by decide)

theorem percentage?_append_blank : percentage? (front ++ back) = percentage? front := by
  apply Option.ext
  intro width
  rw [percentage?_eq_some_iff, percentage?_eq_some_iff]
  apply and_congr_right
  rintro ⟨digits, rfl, _⟩
  exact prefix_append_blank blank

theorem widthHere?_append_blank : widthHere? (front ++ back) = widthHere? front := by
  apply Option.ext
  intro width
  rw [widthHere?_eq_some_iff, widthHere?_eq_some_iff]
  apply and_congr_right
  rintro ⟨digits, rfl, _⟩
  apply exists_congr
  intro gap
  rw [← List.append_assoc gap, ← List.cons_append, ← List.append_assoc, prefix_append_blank blank]

theorem find?_append_blank : find? (front ++ back) = find? front := by
  induction front with
  | nil => exact find?_of_no_colon fun colon => absurd (blank _ colon) (by decide)
  | cons c rest ih =>
    rw [List.cons_append, find?_cons, ← List.cons_append, widthHere?_append_blank blank, ih, find?_cons]

end Blank

theorem find?_dropWhile_blank (cs : List Char) : find? (cs.dropWhile Text.isBlank) = find? cs := by
  induction cs with
  | nil => rfl
  | cons c rest ih =>
    cases blank : Text.isBlank c with
    | false => simp [blank]
    | true =>
      -- White space does not begin a width.
      have elsewhere : widthHere? (c :: rest) = none := by
        rw [widthHere?_eq_none_iff]
        rintro width ⟨_, gap, _, begins⟩
        cases (List.cons_prefix_cons.mp begins).1
        cases blank
      rw [List.dropWhile_cons_of_pos blank, ih, find?_cons, elsewhere, Option.none_or]

theorem find?_trim (cs : List Char) : find? (Text.trim cs) = find? cs := by
  obtain ⟨back, rest, blank⟩ := Text.dropWhile_isBlank cs
  rw [← find?_dropWhile_blank cs, rest, find?_append_blank blank]

theorem percentage?_trim (cs : List Char) : percentage? (Text.trim cs) = percentage? (cs.dropWhile Text.isBlank) := by
  obtain ⟨back, rest, blank⟩ := Text.dropWhile_isBlank cs
  rw [rest, percentage?_append_blank blank]

/-- White space in front of a name does not change how it ends. -/
theorem property_suffix_dropWhile (cs : List Char) : property <:+ cs.dropWhile Text.isBlank ↔ property <:+ cs := by
  refine ⟨fun ends => ends.trans (List.dropWhile_suffix _), fun ends => ?_⟩
  induction cs with
  | nil => exact ends
  | cons c rest ih =>
    cases blank : Text.isBlank c with
    | false => rwa [List.dropWhile_cons_of_neg (by simp [blank])]
    | true =>
      rw [List.dropWhile_cons_of_pos blank]
      apply ih
      rcases List.suffix_cons_iff.mp ends with whole | later
      · cases whole
        cases blank
      · exact later

section Name

variable {name : List Char} (plain : ':' ∉ name)
include plain

theorem widthHere?_name :
    widthHere? (name ++ ':' :: value) = if name = property then percentage? (value.dropWhile Text.isBlank) else none := by
  rw [widthHere?_eq]
  by_cases same : name = property
  · have taken : Text.after? (property ++ [':']) (name ++ ':' :: value) = some value := by
      rw [Text.after?_eq_some_iff, same, List.append_assoc, List.singleton_append]
    rw [taken, if_pos same, Option.bind_some]
  · have other : Text.after? (property ++ [':']) (name ++ ':' :: value) = none := by
      rw [Option.eq_none_iff_forall_ne_some]
      intro rest taken
      rw [Text.after?_eq_some_iff, List.append_assoc, List.singleton_append] at taken
      have split := Text.splitOnce_eq_some_iff.mpr ⟨taken, by decide⟩
      rw [Text.splitOnce_eq_some_iff.mpr ⟨rfl, plain⟩] at split
      cases split
      exact same rfl
    rw [other, if_neg same, Option.bind_none]

/-- In a declaration a width is read at the end of its name, or else within its value. -/
theorem find?_declared :
    find? (name ++ ':' :: value) =
      (if property <:+ name then percentage? (value.dropWhile Text.isBlank) else none).or (find? value) := by
  induction name with
  | nil =>
    have other : ¬ ([] : List Char) = property := by decide
    have short : ¬ property <:+ [] := by decide
    have here : widthHere? ([] ++ ':' :: value) = none := by rw [widthHere?_name plain, if_neg other]
    rw [if_neg short, List.nil_append, find?_cons, ← List.nil_append (':' :: value), here]
  | cons c rest ih =>
    have ih := ih fun member => plain (List.mem_cons_of_mem _ member)
    rw [List.cons_append, find?_cons, ← List.cons_append, widthHere?_name plain, ih]
    by_cases same : c :: rest = property
    · have short : ¬ property <:+ rest := by
        intro ends
        have lengths := ends.length_le
        rw [← same, List.length_cons] at lengths
        omega
      rw [if_pos same, if_neg short, if_pos (same ▸ List.suffix_rfl), Option.none_or]
    · simp only [if_neg same, Option.none_or, List.suffix_cons_iff, Ne.symm same, false_or]

end Name

theorem find?_piece (piece : List Char) : find? piece = (declaration? piece).bind Declaration.reading? := by
  rw [declaration?]
  cases parts : Text.splitOnce ':' piece with
  | none =>
    rw [find?_of_no_colon (Text.splitOnce_eq_none_iff.mp parts)]
    rfl
  | some both =>
    obtain ⟨before, after⟩ := both
    obtain ⟨rfl, plain⟩ := Text.splitOnce_eq_some_iff.mp parts
    simp only [Option.map_some, Option.bind_some, Declaration.reading?, property_suffix_dropWhile, percentage?_trim,
      find?_trim]
    exact find?_declared plain

/-- The width that the search finds is the first one that it reads in a declaration. -/
theorem find?_style (style : String) : find? style.toList = (declarations style).findSome? Declaration.reading? := by
  have pieces := find?_intercalate (style.toList.splitOn ';')
  rw [List.intercalate_splitOn] at pieces
  rw [pieces, declarations]
  induction style.toList.splitOn ';' with
  | nil => rfl
  | cons piece later ih =>
    rw [List.findSome?_cons, ih, find?_piece, List.filterMap_cons]
    cases declaration? piece with
    | none => rfl
    | some declaration => rw [Option.bind_some, List.findSome?_cons]

theorem Declaration.reading?_eq_none_iff {declaration : Declaration} :
    declaration.reading? = none ↔
      (property <:+ declaration.name → ∀ width, IsPercentage width → ¬ width <+: declaration.value) ∧
      ∀ place width, ¬ ReadsAt declaration.value place width := by
  rw [reading?, Option.or_eq_none_iff, find?_eq_none_iff]
  apply and_congr_left'
  by_cases ends : property <:+ declaration.name
  · simp [ends, Option.eq_none_iff_forall_ne_some, percentage?_eq_some_iff]
  · simp [ends]

/-- Of a style in which a declaration sets the width to a percentage, that percentage is found unless the
search reads another one in a declaration before it. Nothing is found if nothing is read in any
declaration: if no percentage is the value of a name that ends in `width`, and no value has a width
written out in it. -/
theorem own_width_iff (style : String) :
    (∀ before own after, declarations style = before ++ own :: after → own.name = property → IsPercentage own.value →
      (width? style = some (String.ofList own.value) ↔
        ∀ width, before.findSome? Declaration.reading? = some width → width = own.value)) ∧
    (width? style = none ↔ ∀ declaration ∈ declarations style,
      (property <:+ declaration.name → ∀ width, IsPercentage width → ¬ width <+: declaration.value) ∧
      ∀ place width, ¬ ReadsAt declaration.value place width) := by
  constructor
  · intro before own after declared named percentage
    have here : own.reading? = some own.value := by
      have begins := percentage?_eq_some_iff.mpr ⟨percentage, List.prefix_rfl⟩
      rw [Declaration.reading?, named, if_pos List.suffix_rfl, begins, Option.some_or]
    rw [width?_eq_some_iff, String.toList_ofList, find?_style, declared, List.findSome?_append, List.findSome?_cons, here]
    cases before.findSome? Declaration.reading? with
    | none => simp
    | some width => simp
  · rw [width?_eq_none_iff, find?_style, List.findSome?_eq_none_iff]
    simp only [Declaration.reading?_eq_none_iff]

theorem own_width_before_other :
    let style := "height: 4px; width: 30% ; max-width: 70%"
    let own : Declaration := { name := property, value := "30%".toList }
    declarations style = [⟨"height".toList, "4px".toList⟩] ++ own :: [⟨"max-width".toList, "70%".toList⟩] ∧
      IsPercentage own.value ∧ width? style = some "30%" := by
  intro style own
  have declared : declarations style =
      [⟨"height".toList, "4px".toList⟩] ++ own :: [⟨"max-width".toList, "70%".toList⟩] := by decide +kernel
  have percentage : IsPercentage own.value := ⟨['3', '0'], by decide, by decide, List.all_eq_true.mp (by decide)⟩
  refine ⟨declared, percentage, ((own_width_iff style).1 _ _ _ declared rfl percentage).mpr ?_⟩
  intro width read
  have unread : [(⟨"height".toList, "4px".toList⟩ : Declaration)].findSome? Declaration.reading? = none := by decide +kernel
  cases unread.symm.trans read

/-- A property whose name only ends in `width` hides the width that comes after it: of a list of
declarations, just one of them named `width` and with a percentage for its value, that percentage is
not always found. -/
theorem own_width_hidden :
    ¬ ∀ style : String, (∀ piece ∈ style.toList.splitOn ';', (declaration? piece).isSome = true) →
      (∀ before own after, declarations style = before ++ own :: after → own.name = property → IsPercentage own.value →
        (∀ other ∈ before ++ after, other.name ≠ property) → width? style = some (String.ofList own.value)) ∧
      ((∀ declaration ∈ declarations style, declaration.name ≠ property) → width? style = none) := by
  intro claim
  have listed : ∀ piece ∈ "max-width: 70%; width: 30%".toList.splitOn ';', (declaration? piece).isSome = true := by
    decide +kernel
  have declared : declarations "max-width: 70%; width: 30%" =
      [⟨"max-width".toList, "70%".toList⟩] ++ ⟨property, "30%".toList⟩ :: [] := by decide +kernel
  have alone : ∀ other ∈ [(⟨"max-width".toList, "70%".toList⟩ : Declaration)] ++ [], other.name ≠ property := by decide +kernel
  have own := (claim _ listed).1 _ _ _ declared rfl ⟨['3', '0'], by decide, by decide, List.all_eq_true.mp (by decide)⟩ alone
  have found : width? "max-width: 70%; width: 30%" = some "70%" := by decide +kernel
  rw [found] at own
  exact absurd own (by decide)

end Vitae.SkillBar
