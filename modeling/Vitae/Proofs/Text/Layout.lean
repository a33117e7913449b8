import Mathlib.Data.List.Chain
import Vitae.Proofs.Text.Wrap

/-! Wrapping takes no more lines than it must. The argument is the usual one for a greedy choice: when
a line is full, no other layout has got further, since its line in progress begins no later and would
have to hold the same words and one more. A first word that is too long leaves an empty line before it,
and that is the only line that no layout needs. -/

namespace Vitae.Text

/-- A word: some characters, none of them white space. -/
structure IsWord (word : String) : Prop where
  some : word ≠ ""
  solid : ∀ c ∈ word.toList, isBlank c = false

theorem isWord_iff {word : String} : IsWord word ↔ word ≠ "" ∧ word.toList.all (fun c => !isBlank c) = true := by
  simp only [List.all_eq_true, Bool.not_eq_true']
  exact ⟨fun ⟨letters, solid⟩ => ⟨letters, solid⟩, fun ⟨letters, solid⟩ => ⟨letters, solid⟩⟩

instance : DecidablePred IsWord := fun _ =>
  decidable_of_iff _ isWord_iff.symm

/-- Words laid out in lines, in their order. A line is within the limit unless it is one word that is
too long by itself. -/
structure Layout (limit : Nat) (words : List String) (lines : List (List String)) : Prop where
  whole : lines.flatten = words
  filled : ∀ line ∈ lines, line ≠ []
  fits : ∀ line ∈ lines, (" ".intercalate line).length ≤ limit ∨ ∃ word, line = [word] ∧ limit < word.length

/-- The next line begins with a word for which there was no room. -/
def Forced (limit : Nat) (line next : List String) : Prop :=
  ∀ word ∈ next.head?, limit < (" ".intercalate line).length + 1 + word.length

section Words

variable {first : String} {rest : List String}

theorem head?_intercalate (some : first ≠ "") :
    (" ".intercalate (first :: rest)).toList.head? = first.toList.head? := by
  have letters : first.toList ≠ [] := by simpa using some
  by_cases last : rest = []
  · rw [last, String.intercalate_singleton]
  · rw [String.intercalate_cons_of_ne_nil last, String.append_assoc, String.toList_append, List.head?_append,
      List.head?_eq_some_head letters, Option.some_or]

theorem getLast?_intercalate {last : String} (line : List String) (some : last ≠ "") :
    (" ".intercalate (line ++ [last])).toList.getLast? = last.toList.getLast? := by
  have letters : last.toList ≠ [] := by simpa using some
  by_cases alone : line = []
  · rw [alone, List.nil_append, String.intercalate_singleton]
  · rw [String.intercalate_append_of_ne_nil alone (List.cons_ne_nil _ _), String.intercalate_singleton, String.toList_append,
      List.getLast?_append, List.getLast?_eq_some_getLast letters, Option.some_or]

theorem intercalate_ne_empty (some : first ≠ "") : " ".intercalate (first :: rest) ≠ "" := by
  by_cases last : rest = []
  · rwa [last, String.intercalate_singleton]
  · simp [String.intercalate_cons_of_ne_nil last]

/-- Nothing is trimmed off a line of words. -/
theorem written_of_words {line : List String} (some : line ≠ []) (words : ∀ word ∈ line, IsWord word) :
    written line = " ".intercalate line := by
  apply String.toList_injective
  rw [toList_written some]
  apply trim_eq_self
  · obtain ⟨first, rest, rfl⟩ := List.exists_cons_of_ne_nil some
    have word := words first List.mem_cons_self
    rw [head?_intercalate word.some]
    exact fun c head => word.solid c (List.mem_of_mem_head? head)
  · rw [← List.dropLast_append_getLast some]
    have word := words _ (List.getLast_mem some)
    rw [getLast?_intercalate _ word.some]
    exact fun c last => word.solid c (List.mem_of_mem_getLast? last)

theorem pieces_intercalate {words : List String} (some : words ≠ []) (solid : ∀ word ∈ words, IsWord word) :
    pieces (" ".intercalate words) = words := by
  have cut : ∀ letters ∈ words.map String.toList, ' ' ∉ letters := by
    intro letters member space
    obtain ⟨word, among, rfl⟩ := List.mem_map.mp member
    exact absurd ((solid word among).solid ' ' space) (by decide)
  have space : " ".toList = [' '] := rfl
  rw [pieces, String.toList_intercalate, space, List.splitOn_intercalate ' ' cut (by simpa using some), List.map_map]
  simp [Function.comp_def]

end Words

section Pack

variable {limit : Nat} {line pieces : List String}

theorem ne_nil_of_mem_pack (some : line ≠ []) : ∀ packed ∈ pack limit line pieces, packed ≠ [] := by
  apply forall_mem_pack
  · exact some
  · exact fun piece => List.cons_ne_nil _ _
  · intro line piece _ _
    simp

theorem length_spaced (some : line ≠ []) : (spaced line).length = (" ".intercalate line).length + 1 := by
  rw [spaced_eq some, List.length_append, String.length_toList, List.length_singleton]

/-- The limit as it is kept while a line grows, and as it reads afterwards. -/
theorem fits_iff (some : line ≠ []) :
    Fits limit line ↔ (" ".intercalate line).length ≤ limit ∨ ∃ word, line = [word] ∧ limit < word.length := by
  rw [Fits, length_spaced some]
  constructor
  · rintro (few | short)
    · have one := List.length_pos_iff.mpr some
      obtain ⟨word, rfl⟩ := List.length_eq_one_iff.mp (by omega : line.length = 1)
      rw [String.intercalate_singleton]
      exact (Nat.lt_or_ge limit word.length).symm.imp id fun long => ⟨word, rfl, long⟩
    · exact Or.inl (by omega)
  · rintro (short | ⟨word, rfl, _⟩)
    · exact Or.inr (by omega)
    · exact Or.inl (by simp)

theorem forced_pack (some : line ≠ []) : (pack limit line pieces).IsChain (Forced limit) := by
  induction pieces generalizing line with
  | nil => exact List.isChain_singleton _
  | cons piece pieces ih =>
    rw [pack]
    split
    next long =>
      refine List.isChain_cons.mpr ⟨?_, ih (List.cons_ne_nil _ _)⟩
      intro next follows word begins
      obtain ⟨more, same⟩ := head?_pack limit [piece] pieces
      rw [same] at follows
      cases follows
      cases begins
      rwa [length_spaced some] at long
    next => exact ih (by simp)

end Pack

/-- A line that is full stays so with more words before it and after it. -/
theorem not_fits_of_full {word : String} (some : line ≠ []) (full : limit < (spaced line).length + word.length)
    (before more : List String) : ¬ Fits limit (before ++ line ++ word :: more) := by
  have words := List.length_pos_iff.mpr some
  rintro (few | short)
  · simp only [List.length_append, List.length_cons] at few
    omega
  · rw [← List.singleton_append] at short
    simp only [spaced_append, spaced_singleton, List.length_append, String.length_toList, List.length_singleton] at short
    omega

namespace Layout

variable {limit : Nat} {words line : List String} {lines other : List (List String)}

theorem tail (layout : Layout limit words (line :: lines)) : Layout limit lines.flatten lines :=
  ⟨rfl, fun line member => layout.filled line (List.mem_cons_of_mem _ member),
    fun line member => layout.fits line (List.mem_cons_of_mem _ member)⟩

theorem fit (layout : Layout limit words lines) (member : line ∈ lines) : Fits limit line :=
  (fits_iff (layout.filled line member)).mpr (layout.fits line member)

/-- A layout stays one when the limit grows, though a word that was too long may fit then. -/
theorem mono {larger : Nat} (layout : Layout limit words lines) (le : limit ≤ larger) : Layout larger words lines := by
  refine ⟨layout.whole, layout.filled, fun line member => (fits_iff (layout.filled line member)).mp ?_⟩
  exact (layout.fit member).imp_right fun short => Nat.le_trans short (Nat.succ_le_succ le)

/-- Whatever line another layout is on where `line` begins, it has no fewer lines from there on. -/
theorem length_pack_le_of_before (before pieces : List String) (some : line ≠ [])
    (layout : Layout limit (before ++ line ++ pieces) other) : (pack limit line pieces).length ≤ other.length := by
  -- On the pieces still to come. The first line of the other layout is followed until ours is full.
  induction pieces generalizing before line other with
  | nil =>
    have lines : other ≠ [] := by
      rintro rfl
      simpa [some] using layout.whole
    exact List.length_pos_iff.mpr lines
  | cons piece pieces ih =>
    rw [pack]
    split
    next full =>
      cases other with
      | nil => simpa using layout.whole
      | cons ahead others =>
        have ended : ∃ more, others.flatten = more ++ [piece] ++ pieces := by
          rcases List.append_eq_append_iff.mp layout.whole with ⟨more, _, rest⟩ | ⟨more, same, rest⟩
          · exact ⟨more, by simp [rest]⟩
          · cases more with
            | nil => exact ⟨[], by simpa using rest.symm⟩
            | cons word more =>
              cases rest
              have fits : Fits limit ahead := layout.fit List.mem_cons_self
              rw [same] at fits
              exact absurd fits (not_fits_of_full some full before more)
        obtain ⟨more, rest⟩ := ended
        have fewer := ih more (List.cons_ne_nil _ _) (rest ▸ layout.tail)
        simpa using fewer
    next => exact ih before (by simp) (by simpa using layout)

theorem length_pack_le {first : String} {rest : List String} (layout : Layout limit (first :: rest) other) :
    (pack limit [first] rest).length ≤ other.length :=
  layout.length_pack_le_of_before [] rest (List.cons_ne_nil _ _)

end Layout

section Lines

variable {first : String} {rest : List String}

theorem layout_pack (limit : Nat) (first : String) (rest : List String) :
    Layout limit (first :: rest) (pack limit [first] rest) := by
  have filled : ∀ line ∈ pack limit [first] rest, line ≠ [] := ne_nil_of_mem_pack (List.cons_ne_nil _ _)
  refine ⟨flatten_pack limit [first] rest, filled, fun line member => ?_⟩
  exact (fits_iff (filled line member)).mp (fits_of_mem_pack (by simp) line member)

theorem wrap_words (solid : ∀ word ∈ first :: rest, IsWord word) (limit : Nat) :
    wrap (" ".intercalate (first :: rest)) limit =
      (if limit < first.length then [""] else []) ++ (pack limit [first] rest).map (" ".intercalate ·) := by
  have lines : (pack limit [first] rest).map written = (pack limit [first] rest).map (" ".intercalate ·) := by
    apply List.map_congr_left
    intro line member
    apply written_of_words ((layout_pack limit first rest).filled line member)
    intro word among
    apply solid
    rw [← (layout_pack limit first rest).whole]
    exact List.mem_flatten_of_mem member among
  have start : (spaced []).length + first.length = first.length := Nat.zero_add _
  rw [wrap_eq_pack, pieces_intercalate (List.cons_ne_nil _ _) solid, pack, start]
  split
  · rw [List.map_cons, lines]
    rfl
  · exact lines

/-- Words with single spaces between them are wrapped into as few lines as any layout of them has.
Every line ends where the next word would not have fitted. A first word that is longer than the limit
has one empty line before it, and a larger limit never makes more lines. -/
theorem wrap_uses_fewest_lines (solid : ∀ word ∈ first :: rest, IsWord word) (limit : Nat) :
    let text := " ".intercalate (first :: rest)
    (∃ lines, wrap text limit = (if limit < first.length then [""] else []) ++ lines.map (" ".intercalate ·) ∧
      Layout limit (first :: rest) lines ∧ lines.IsChain (Forced limit) ∧
      ∀ other, Layout limit (first :: rest) other → lines.length ≤ other.length) ∧
    ((wrap text limit).head? = some "" ↔ limit < first.length) ∧
    ∀ larger, limit ≤ larger → (wrap text larger).length ≤ (wrap text limit).length := by
  intro text
  have layout := layout_pack limit first rest
  refine ⟨⟨_, wrap_words solid limit, layout, forced_pack (List.cons_ne_nil _ _), fun other => Layout.length_pack_le⟩, ?_, ?_⟩
  · rw [wrap_words solid]
    split
    next long => simp [long]
    next short =>
      obtain ⟨more, begins⟩ := head?_pack limit [first] rest
      have written : " ".intercalate (first :: more) ≠ "" := intercalate_ne_empty (solid first List.mem_cons_self).some
      simp [begins, short, written]
  · intro larger le
    have fewer := (layout.mono le).length_pack_le
    have before : (if larger < first.length then [""] else []).length ≤ (if limit < first.length then [""] else []).length := by
      by_cases long : larger < first.length
      · rw [if_pos long, if_pos (Nat.lt_of_le_of_lt le long)]
      · simp [long]
    rw [wrap_words solid, wrap_words solid, List.length_append, List.length_append, List.length_map, List.length_map]
    exact Nat.add_le_add before fewer

theorem wrap_uses_fewest_lines_past_long_word :
    let words := ["Supercalifragilistic", "is", "a", "long", "word"]
    (∀ word ∈ words, IsWord word) ∧
      wrap (" ".intercalate words) 10 = ["", "Supercalifragilistic", "is a long", "word"] ∧
      ∀ other, Layout 10 words other → 3 ≤ other.length := by
  intro words
  have solid : ∀ word ∈ words, IsWord word := by decide +kernel
  have wrapped : wrap (" ".intercalate words) 10 = ["", "Supercalifragilistic", "is a long", "word"] := by decide +kernel
  obtain ⟨⟨lines, same, _, _, fewest⟩, _⟩ := wrap_uses_fewest_lines solid 10
  have count := congrArg List.length (wrapped.symm.trans same)
  rw [if_pos (by decide), List.length_append, List.length_map] at count
  have three : lines.length = 3 := (Nat.add_left_cancel count).symm
  exact ⟨solid, wrapped, fun other layout => three ▸ fewest other layout⟩

end Lines

end Vitae.Text
