import Vitae.Proofs.Settings.Reading

/-! Lists of entries as they can be written. Any number of blank pieces may stand between the entries, and
any white space around them; reading gives the entries back whichever way was chosen, and every text is
a list written in one of these ways. -/

namespace Vitae.Settings

/-- Pieces that write a list out: its entries in their order, padded with white space, and blank pieces
anywhere. -/
inductive Spread : List String → List String → Prop
  | nothing : Spread [] []
  | blank {ids pieces piece} (empty : Text.blank piece = true) (rest : Spread ids pieces) : Spread ids (piece :: pieces)
  | entry {ids pieces id piece} (padded : Text.Padded id.toList piece.toList) (rest : Spread ids pieces) :
      Spread (id :: ids) (piece :: pieces)

/-- What is left of pieces without the blank ones and the white space around the others. -/
def kept (pieces : List String) : List String :=
  (pieces.filter fun piece => !Text.blank piece).map Text.trimmed

theorem kept_cons_blank {piece : String} (empty : Text.blank piece = true) (pieces : List String) :
    kept (piece :: pieces) = kept pieces := by
  simp [kept, empty]

theorem kept_cons {piece : String} (written : Text.blank piece = false) (pieces : List String) :
    kept (piece :: pieces) = Text.trimmed piece :: kept pieces := by
  simp [kept, written]

theorem entries_eq_kept (text : String) : entries text = kept ((text.toList.splitOn ',').map String.ofList) := by
  rw [entries_eq_listed, listed, kept, List.filter_map, List.map_map]
  simp [Function.comp_def, Text.blank, Text.trimmed]

/-- Pieces without a comma are the pieces of the list they are joined to. -/
theorem entries_intercalate {pieces : List String} (whole : ∀ piece ∈ pieces, ',' ∉ piece.toList) :
    entries (",".intercalate pieces) = kept pieces := by
  by_cases none : pieces = []
  · subst none
    rfl
  · have cut : ∀ letters ∈ pieces.map String.toList, ',' ∉ letters := by
      intro letters member
      obtain ⟨piece, among, rfl⟩ := List.mem_map.mp member
      exact whole piece among
    have comma : ",".toList = [','] := rfl
    rw [entries_eq_kept, String.toList_intercalate, comma, List.splitOn_intercalate ',' cut (by simpa using none),
      List.map_map]
    simp [Function.comp_def]

theorem intercalate_pieces (text : String) : ",".intercalate ((text.toList.splitOn ',').map String.ofList) = text := by
  have comma : ",".toList = [','] := rfl
  apply String.toList_injective
  rw [String.toList_intercalate, comma, List.map_map]
  simp [Function.comp_def]

/-- An entry is told by its letters: it has some, it neither begins nor ends with white space, and none is a
comma. -/
theorem isEntry_iff {id : String} :
    IsEntry id ↔ id ≠ "" ∧ (∀ c ∈ id.toList.head?, Text.isBlank c = false) ∧
      (∀ c ∈ id.toList.getLast?, Text.isBlank c = false) ∧ ',' ∉ id.toList := by
  constructor
  · intro entry
    refine ⟨?_, entry.begins, entry.ends, entry.whole⟩
    rintro rfl
    exact absurd entry.named (by decide)
  · rintro ⟨some, begins, ends, whole⟩
    obtain ⟨first, rest, letters⟩ := List.exists_cons_of_ne_nil (show id.toList ≠ [] by simpa using some)
    refine ⟨Text.blank_eq_false_iff.mpr ⟨first, by simp [letters], ?_⟩, begins, ends, whole⟩
    exact begins first (by simp [letters])

namespace Spread
variable {ids pieces : List String}

theorem kept (pieces : List String) : Spread (kept pieces) pieces := by
  induction pieces with
  | nil => exact .nothing
  | cons piece rest ih =>
    cases written : Text.blank piece with
    | true =>
      rw [kept_cons_blank written]
      exact .blank written ih
    | false =>
      rw [kept_cons written]
      refine .entry ?_ ih
      rw [Text.trimmed, String.toList_ofList]
      exact Text.trim_between piece.toList

theorem kept_eq (spread : Spread ids pieces) (fine : ∀ id ∈ ids, IsEntry id) : Settings.kept pieces = ids := by
  induction spread with
  | nothing => rfl
  | blank empty _ ih =>
    rw [kept_cons_blank empty]
    exact ih fine
  | @entry ids pieces id piece padded _ ih =>
    obtain ⟨first, others⟩ := List.forall_mem_cons.mp fine
    have trimmed : Text.trim piece.toList = id.toList :=
      padded.trim_eq.trans (Text.trim_eq_self first.begins first.ends)
    have written : Text.blank piece = false := by
      have respaced : Text.Respaced piece.toList id.toList := Text.respaced_iff.mpr padded.trim_eq
      rw [respaced.blank_eq]
      exact first.named
    rw [kept_cons written, ih others, Text.trimmed, trimmed, String.ofList_toList]

theorem whole (spread : Spread ids pieces) (fine : ∀ id ∈ ids, IsEntry id) :
    ∀ piece ∈ pieces, ',' ∉ piece.toList := by
  have solid : Text.isBlank ',' = false := by decide
  induction spread with
  | nothing => exact fun _ member => absurd member List.not_mem_nil
  | blank empty _ ih =>
    have here := (Text.padded_nil_of_blank empty).not_mem solid List.not_mem_nil
    exact List.forall_mem_cons.mpr ⟨here, ih fine⟩
  | entry padded _ ih =>
    obtain ⟨first, others⟩ := List.forall_mem_cons.mp fine
    exact List.forall_mem_cons.mpr ⟨padded.not_mem solid first.whole, ih others⟩

/-- A list stands for itself. -/
theorem plain (ids : List String) : Spread ids ids := by
  induction ids with
  | nil => exact .nothing
  | cons id rest ih => exact .entry ⟨[], [], by simp⟩ ih

end Spread

theorem entries_of_spread {ids pieces : List String} (spread : Spread ids pieces) (fine : ∀ id ∈ ids, IsEntry id) :
    entries (",".intercalate pieces) = ids := by
  rw [entries_intercalate (spread.whole fine)]
  exact spread.kept_eq fine

theorem isEntry_of_mem_entries {text id : String} (member : id ∈ entries text) : IsEntry id := by
  rw [entries_eq_listed] at member
  exact isEntry_of_mem_listed member

/-- A text is read as some list if and only if it writes that list out: all on it are entries, that is,
they have letters, neither begin nor end with white space and have no comma in them, and the text joins
them by commas in their order, with any white space around them and any number of blank pieces between
them. So what was read reads the same once it is joined by commas alone. -/
theorem entries_eq_iff (text : String) (ids : List String) :
    (entries text = ids ↔
      (∀ id ∈ ids, id ≠ "" ∧ (∀ c ∈ id.toList.head?, Text.isBlank c = false) ∧
        (∀ c ∈ id.toList.getLast?, Text.isBlank c = false) ∧ ',' ∉ id.toList) ∧
      ∃ pieces, Spread ids pieces ∧ text = ",".intercalate pieces) ∧
    entries (",".intercalate (entries text)) = entries text := by
  simp only [← isEntry_iff]
  refine ⟨⟨?_, ?_⟩, ?_⟩
  · rintro rfl
    refine ⟨fun id => isEntry_of_mem_entries, _, ?_, (intercalate_pieces text).symm⟩
    rw [entries_eq_kept]
    exact Spread.kept _
  · rintro ⟨fine, pieces, spread, rfl⟩
    exact entries_of_spread spread fine
  · exact entries_of_spread (Spread.plain _) fun id => isEntry_of_mem_entries

/-- White space of several kinds around the entries; within one of them it stays. -/
example : entries " , overview\t,,\u00a0about\u3000me\u2003\n,\r" = ["overview", "about\u3000me"] := by decide +kernel

end Vitae.Settings
