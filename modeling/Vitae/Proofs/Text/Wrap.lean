import Vitae.Proofs.Text.Pieces
import Vitae.Text.Wrap

/-! What a wrapped text still says. Wrapping cuts a text at its spaces, deals the pieces out to lines
and writes each line out trimmed. The pieces are dealt out whole and in order, so the words come back
however many spaces there were, and whatever other white space: a piece may hold several words, or
none. Only a piece put beside others is measured, so a line that is too long is one piece. -/

namespace Vitae.Text

/-- The words of a text by characters: what stands between white space. -/
def wordChars (cs : List Char) : List (List Char) :=
  (cs.splitOnP isBlank).filter fun piece => !piece.isEmpty

/-- The words of a text. -/
def words (text : String) : List String :=
  (wordChars text.toList).map String.ofList

section Words

variable {front back : List Char}

theorem wordChars_append_blank {c : Char} (blank : isBlank c = true) (front back : List Char) :
    wordChars (front ++ c :: back) = wordChars front ++ wordChars back := by
  rw [wordChars, List.splitOnP_append_cons front back blank, List.filter_append]
  rfl

theorem wordChars_cons_blank {c : Char} (blank : isBlank c = true) (cs : List Char) : wordChars (c :: cs) = wordChars cs :=
  wordChars_append_blank blank [] cs

theorem wordChars_append_right (blank : ∀ c ∈ front, isBlank c = true) : wordChars (front ++ back) = wordChars back := by
  induction front with
  | nil => rfl
  | cons c rest ih =>
    rw [List.cons_append, wordChars_cons_blank (blank c List.mem_cons_self)]
    exact ih fun d member => blank d (List.mem_cons_of_mem _ member)

theorem wordChars_append_left (blank : ∀ c ∈ back, isBlank c = true) : wordChars (front ++ back) = wordChars front := by
  cases back with
  | nil => rw [List.append_nil]
  | cons c rest =>
    have none : wordChars rest = [] := by
      rw [← List.append_nil rest, wordChars_append_right fun d member => blank d (List.mem_cons_of_mem _ member)]
      rfl
    rw [wordChars_append_blank (blank c List.mem_cons_self), none, List.append_nil]

theorem wordChars_trim (cs : List Char) : wordChars (trim cs) = wordChars cs := by
  obtain ⟨front, back, whole, before, after⟩ := trim_between cs
  conv_rhs => rw [whole, wordChars_append_left after, wordChars_append_right before]

end Words

/-- A line under construction: its pieces, each with the space that follows it. -/
def spaced (line : List String) : List Char :=
  line.flatMap fun piece => piece.toList ++ [' ']

@[simp] theorem spaced_append (line more : List String) : spaced (line ++ more) = spaced line ++ spaced more :=
  List.flatMap_append

@[simp] theorem spaced_singleton (piece : String) : spaced [piece] = piece.toList ++ [' '] := by
  simp [spaced]

/-- A line under construction has one space more than the line that comes of it. -/
theorem spaced_eq {line : List String} (some : line ≠ []) : spaced line = (" ".intercalate line).toList ++ [' '] := by
  induction line with
  | nil => exact absurd rfl some
  | cons piece rest ih =>
    by_cases last : rest = []
    · simp [last]
    · rw [← List.singleton_append, spaced_append, ih last, List.singleton_append, String.intercalate_cons_of_ne_nil last]
      simp

/-- How a line comes out. -/
def written (line : List String) : String :=
  String.ofList (trim (spaced line))

/-- Deals pieces out to lines, the first of which has the pieces of `line` on it already. -/
def pack (limit : Nat) (line : List String) : List String → List (List String)
  | [] => [line]
  | piece :: pieces =>
    if limit < (spaced line).length + piece.length then line :: pack limit [piece] pieces
    else pack limit (line ++ [piece]) pieces

/-- The pieces of a text between its spaces. -/
def pieces (text : String) : List String :=
  (text.toList.splitOn ' ').map String.ofList

theorem fill_spaced (limit : Nat) (line pieces : List String) :
    (fill limit (spaced line) (pieces.map String.toList)).map String.ofList = (pack limit line pieces).map written := by
  induction pieces generalizing line with
  | nil => rfl
  | cons piece pieces ih =>
    have alone := ih [piece]
    have beside := ih (line ++ [piece])
    rw [spaced_singleton] at alone
    rw [spaced_append, spaced_singleton, ← List.append_assoc] at beside
    rw [List.map_cons, fill, pack, String.length_toList]
    split
    · rw [List.map_cons, List.map_cons, alone]
      rfl
    · exact beside

theorem wrap_eq_pack (text : String) (limit : Nat) : wrap text limit = (pack limit [] (pieces text)).map written := by
  rw [← fill_spaced, wrap, splitAt_eq_splitOn, pieces, List.map_map]
  simp [Function.comp_def, spaced]

section Pack

variable {limit : Nat} {line pieces : List String}

theorem flatten_pack (limit : Nat) (line pieces : List String) : (pack limit line pieces).flatten = line ++ pieces := by
  induction pieces generalizing line with
  | nil => simp [pack]
  | cons piece pieces ih =>
    rw [pack]
    split
    · rw [List.flatten_cons, ih, List.singleton_append]
    · rw [ih, List.append_assoc, List.singleton_append]

/-- The line in progress keeps what it holds. -/
theorem head?_pack (limit : Nat) (line pieces : List String) :
    ∃ more, (pack limit line pieces).head? = some (line ++ more) := by
  induction pieces generalizing line with
  | nil => exact ⟨[], by simp [pack]⟩
  | cons piece pieces ih =>
    rw [pack]
    split
    · exact ⟨[], by simp⟩
    · obtain ⟨more, same⟩ := ih (line ++ [piece])
      exact ⟨piece :: more, by simp [same]⟩

theorem pack_ne_nil (limit : Nat) (line pieces : List String) : pack limit line pieces ≠ [] := by
  intro none
  obtain ⟨more, begins⟩ := head?_pack limit line pieces
  rw [none] at begins
  cases begins

/-- What holds of every line with one piece, and of the line in progress, and stays true of it as long
as there is room, holds of every line in the end. -/
theorem forall_mem_pack {P : List String → Prop} (held : P line) (single : ∀ piece, P [piece])
    (grown : ∀ line piece, (spaced line).length + piece.length ≤ limit → P line → P (line ++ [piece])) :
    ∀ packed ∈ pack limit line pieces, P packed := by
  induction pieces generalizing line with
  | nil =>
    intro packed member
    rwa [List.mem_singleton.mp member]
  | cons piece pieces ih =>
    rw [pack]
    split
    next full =>
      intro packed member
      rcases List.mem_cons.mp member with rfl | later
      · exact held
      · exact ih (single piece) packed later
    next room => exact ih (grown line piece (Nat.le_of_not_lt room) held)

/-- The limit holds for a line that more than one piece was put on. The space after it is not counted. -/
def Fits (limit : Nat) (line : List String) : Prop :=
  line.length ≤ 1 ∨ (spaced line).length ≤ limit + 1

theorem fits_of_mem_pack (few : line.length ≤ 1) : ∀ packed ∈ pack limit line pieces, Fits limit packed := by
  apply forall_mem_pack
  · exact Or.inl few
  · exact fun piece => Or.inl (Nat.le_refl 1)
  · intro line piece room _
    refine Or.inr ?_
    rw [spaced_append, spaced_singleton, List.length_append, List.length_append, String.length_toList, List.length_singleton]
    omega

end Pack

theorem flatMap_words_line (line : List String) : line.flatMap words = words (written line) := by
  rw [words, written, String.toList_ofList, wordChars_trim]
  induction line with
  | nil => rfl
  | cons piece line ih =>
    rw [List.flatMap_cons, ih, ← List.singleton_append, spaced_append, spaced_singleton, List.append_assoc,
      List.singleton_append, wordChars_append_blank rfl, List.map_append]
    rfl

theorem flatMap_words_pieces (text : String) : (pieces text).flatMap words = words text := by
  have some : pieces text ≠ [] := by simp [pieces, List.splitOn_ne_nil]
  have whole : (" ".intercalate (pieces text)).toList = text.toList := by
    rw [String.toList_intercalate, pieces, List.map_map]
    simp [Function.comp_def, List.intercalate_splitOn]
  rw [flatMap_words_line, words, written, String.toList_ofList, wordChars_trim, spaced_eq some, whole,
    wordChars_append_left (by simp [isBlank]), words]

theorem toList_written {line : List String} (some : line ≠ []) :
    (written line).toList = trim (" ".intercalate line).toList := by
  rw [written, String.toList_ofList, spaced_eq some, trim_append_blank rfl]

theorem Fits.single {limit : Nat} {line : List String} (fits : Fits limit line) (long : limit < (written line).length) :
    ∃ piece, line = [piece] := by
  have some : line ≠ [] := by
    rintro rfl
    exact absurd long (Nat.not_lt_zero _)
  rcases fits with few | short
  · have one := List.length_pos_iff.mpr some
    exact List.length_eq_one_iff.mp (by omega)
  · have trimmed := length_trim_le (" ".intercalate line).toList
    rw [← toList_written some, String.length_toList] at trimmed
    rw [spaced_eq some, List.length_append, List.length_singleton] at short
    omega

/-- Wrapping loses no word of a text and breaks none, and no line is longer than the limit if there
is a space in it to break it at: a longer one is a single piece of the text between two spaces. No line
has white space at its ends. -/
theorem wrap_keeps_words (text : String) (limit : Nat) :
    wrap text limit ≠ [] ∧ (wrap text limit).flatMap words = words text ∧
    ∀ line ∈ wrap text limit,
      (∀ c ∈ line.toList.head?, isBlank c = false) ∧ (∀ c ∈ line.toList.getLast?, isBlank c = false) ∧
      (limit < line.length → ' ' ∉ line.toList ∧ ∃ piece ∈ pieces text, line.toList = trim piece.toList) := by
  rw [wrap_eq_pack]
  refine ⟨?_, ?_, ?_⟩
  · simp [pack_ne_nil]
  · rw [List.flatMap_map]
    simp only [← flatMap_words_line]
    rw [← List.flatMap_assoc, List.flatMap_id', flatten_pack, List.nil_append, flatMap_words_pieces]
  · intro line member
    obtain ⟨packed, dealt, rfl⟩ := List.mem_map.mp member
    refine ⟨?_, ?_, ?_⟩
    · rw [written, String.toList_ofList]
      exact fun c => isBlank_of_head_trim
    · rw [written, String.toList_ofList]
      exact fun c => isBlank_of_getLast_trim
    · intro long
      obtain ⟨piece, rfl⟩ := (fits_of_mem_pack (by simp) packed dealt).single long
      have among : piece ∈ pieces text := by
        rw [← List.nil_append (pieces text), ← flatten_pack limit]
        exact List.mem_flatten_of_mem dealt List.mem_cons_self
      have trimmed : (written [piece]).toList = trim piece.toList := by
        rw [toList_written (by simp), String.intercalate_singleton]
      refine ⟨?_, piece, among, trimmed⟩
      obtain ⟨cut, part, rfl⟩ := List.mem_map.mp among
      rw [trimmed, String.toList_ofList]
      exact fun space => not_mem_of_mem_splitOn part (mem_of_mem_trim space)

/-- A tab is no place to break a line at, and spaces at the end may leave an empty line. -/
example : wrap "a\tb  c  " 3 = ["a\tb", "c", ""] := by decide +kernel

end Vitae.Text
