import Vitae.Proofs.Text.Pieces
import Vitae.Settings.Basic

/-! What the settings say. The entries of a comma-separated list come out whole: none is blank, none
has white space around it, and none has a comma in it. Whatever the other settings are, the sections
are those that the environment names. -/

namespace Vitae

theorem bind_eq_ok_iff {ε α β : Type} {first : Except ε α} {next : α → Except ε β} {result : β} :
    (first >>= next) = .ok result ↔ ∃ value, first = .ok value ∧ next value = .ok result := by
  cases first with
  | error fault => simp [bind, Except.bind]
  | ok value => simp [bind, Except.bind]

theorem bind_eq_error_iff {ε α β : Type} {first : Except ε α} {next : α → Except ε β} {fault : ε} :
    (first >>= next) = .error fault ↔
      first = .error fault ∨ ∃ value, first = .ok value ∧ next value = .error fault := by
  cases first with
  | error other => simp [bind, Except.bind]
  | ok value => simp [bind, Except.bind]

theorem mapError_eq_ok_iff {ε ι α : Type} {first : Except ε α} {wrap : ε → ι} {value : α} :
    first.mapError wrap = .ok value ↔ first = .ok value := by
  cases first with
  | error cause => simp [Except.mapError]
  | ok other => simp [Except.mapError]

theorem mapError_eq_error_iff {ε ι α : Type} {first : Except ε α} {wrap : ε → ι} {fault : ι} :
    first.mapError wrap = .error fault ↔ ∃ cause, first = .error cause ∧ fault = wrap cause := by
  cases first with
  | error cause => simp [Except.mapError, eq_comm]
  | ok value => simp [Except.mapError]

namespace Settings

/-- The pieces of a list between its commas, without the blank ones and the white space around the
others. -/
def listed (text : String) : List String :=
  ((text.toList.splitOn ',').filter fun piece => !piece.all Text.isBlank).map fun piece =>
    String.ofList (Text.trim piece)

theorem entries_eq_listed (text : String) : entries text = listed text := by
  have trimmed (piece : List Char) : (Text.trim piece).isEmpty = piece.all Text.isBlank := by
    rw [Bool.eq_iff_iff, List.isEmpty_iff, Text.trim_eq_nil_iff, List.all_eq_true]
  rw [entries, entryChars, listed, Text.splitAt_eq_splitOn, List.filter_map, List.map_map]
  simp only [Function.comp_def, trimmed]

/-- What is true of every entry of a list. -/
structure IsEntry (id : String) : Prop where
  named : Text.blank id = false
  begins : ∀ c ∈ id.toList.head?, Text.isBlank c = false
  ends : ∀ c ∈ id.toList.getLast?, Text.isBlank c = false
  whole : ',' ∉ id.toList

theorem isEntry_of_mem_listed {text id : String} (member : id ∈ listed text) : IsEntry id := by
  obtain ⟨piece, kept, rfl⟩ := List.mem_map.mp member
  obtain ⟨among, written⟩ := List.mem_filter.mp kept
  refine ⟨?_, ?_, ?_, ?_⟩
  · cases first : Text.trim piece with
    | nil =>
      have blank := List.all_eq_true.mpr (Text.trim_eq_nil_iff.mp first)
      simp [blank] at written
    | cons c rest =>
      have solid : Text.isBlank c = false := Text.isBlank_of_head_trim (congrArg List.head? first)
      exact Text.blank_eq_false_iff.mpr ⟨c, by simp, solid⟩
  · rw [String.toList_ofList]
    exact fun c => Text.isBlank_of_head_trim
  · rw [String.toList_ofList]
    exact fun c => Text.isBlank_of_getLast_trim
  · rw [String.toList_ofList]
    intro comma
    exact Text.not_mem_of_mem_splitOn among (Text.mem_of_mem_trim comma)

/-- White space within an entry stays. -/
example : listed " overview ,,\ttime line, \n,skills" = ["overview", "time line", "skills"] := by decide +kernel

/-- The ordered sections that an environment asks for. -/
def orderAsked (environment : Environment) : List String :=
  listed ((environment "SECTION_ORDER").getD "overview,timeline,skills")

def besideAsked (environment : Environment) : List String :=
  listed ((environment "INFO_SECTIONS").getD "changelog,projects")

variable {environment : Environment}

theorem isEntry_of_asked {id : String} (member : id ∈ orderAsked environment ++ besideAsked environment) :
    IsEntry id :=
  (List.mem_append.mp member).elim isEntry_of_mem_listed isEntry_of_mem_listed

theorem sections_of_read {settings : Settings} (accepted : read environment = .ok settings) :
    settings.sectionOrder = orderAsked environment ∧ settings.infoSections = besideAsked environment ∧
    settings.homeSection = nonBlank environment "DEFAULT_SECTION" := by
  obtain ⟨swipeThreshold, _, rest⟩ := bind_eq_ok_iff.mp accepted
  obtain ⟨port, _, rest⟩ := bind_eq_ok_iff.mp rest
  obtain ⟨contactEmail, _, rest⟩ := bind_eq_ok_iff.mp rest
  obtain ⟨transitionDelay, _, rest⟩ := bind_eq_ok_iff.mp rest
  cases rest
  exact ⟨entries_eq_listed _, entries_eq_listed _, rfl⟩

theorem nonBlank_eq_some_iff {name value : String} :
    nonBlank environment name = some value ↔ environment name = some value ∧ Text.blank value = false := by
  simp [nonBlank]

end Settings

end Vitae
