import Mathlib.Data.List.Forall2
import Vitae.Proofs.Site.Startup

/-! White space in the variables that name sections. Around the entries of the two lists it makes no
difference. The home is taken as it is written, and entries have no white space around them, so of two
ways to write it that differ by white space at most one names a section. -/

namespace Vitae

namespace Settings

/-- Two lists that differ in nothing but the white space around the entries between their commas. -/
def EntriesRespaced (first second : String) : Prop :=
  List.Forall₂ Text.Respaced (first.toList.splitOn ',') (second.toList.splitOn ',')

/-- Two environments that differ in nothing but white space around the entries of the lists or around
a home that is given. -/
structure Respaced (first second : Environment) : Prop where
  order : Option.Rel EntriesRespaced (first "SECTION_ORDER") (second "SECTION_ORDER")
  beside : Option.Rel EntriesRespaced (first "INFO_SECTIONS") (second "INFO_SECTIONS")
  home : first "DEFAULT_SECTION" = second "DEFAULT_SECTION" ∨
    ∃ one other, first "DEFAULT_SECTION" = some one ∧ second "DEFAULT_SECTION" = some other ∧
      Text.blank one = false ∧ Text.Respaced one.toList other.toList
  others : ∀ name, name ∉ ["SECTION_ORDER", "INFO_SECTIONS", "DEFAULT_SECTION"] → first name = second name

theorem entriesRespaced_iff {first second : String} :
    EntriesRespaced first second ↔
      (first.toList.splitOn ',').map Text.trim = (second.toList.splitOn ',').map Text.trim := by
  unfold EntriesRespaced
  generalize first.toList.splitOn ',' = pieces
  generalize second.toList.splitOn ',' = others
  have alike : Text.Respaced = fun piece other => Text.trim piece = Text.trim other :=
    funext₂ fun _ _ => propext Text.respaced_iff
  rw [← List.forall₂_eq_eq_eq, List.forall₂_map_left_iff, List.forall₂_map_right_iff, alike]

theorem EntriesRespaced.entries_eq {first second : String} (respaced : EntriesRespaced first second) :
    entries first = entries second := by
  rw [entries, entries, entryChars, entryChars, Text.splitAt_eq_splitOn, Text.splitAt_eq_splitOn,
    entriesRespaced_iff.mp respaced]

theorem entries_getD_eq {first second : Option String} (respaced : Option.Rel EntriesRespaced first second)
    (standard : String) : entries (first.getD standard) = entries (second.getD standard) := by
  cases respaced with
  | some same => exact same.entries_eq
  | none => rfl

namespace Respaced
variable {first second : Environment}

theorem orderAsked_eq (respaced : Respaced first second) : orderAsked first = orderAsked second := by
  rw [orderAsked, orderAsked, ← entries_eq_listed, ← entries_eq_listed]
  exact entries_getD_eq respaced.order _

theorem besideAsked_eq (respaced : Respaced first second) : besideAsked first = besideAsked second := by
  rw [besideAsked, besideAsked, ← entries_eq_listed, ← entries_eq_listed]
  exact entries_getD_eq respaced.beside _

/-- Both are read alike, but for the home. -/
theorem read_eq (respaced : Respaced first second) :
    read second = (read first).map fun settings =>
      { settings with homeSection := nonBlank second "DEFAULT_SECTION" } := by
  have same (name : String) (other : name ∉ ["SECTION_ORDER", "INFO_SECTIONS", "DEFAULT_SECTION"]) :
      second name = first name := (respaced.others name other).symm
  have threshold : readThreshold second = readThreshold first := by
    rw [readThreshold, readThreshold, same "SWIPE_THRESHOLD_PX" (by decide)]
  have before : readPort second = readPort first := by
    rw [readPort, readPort, same "PORT" (by decide)]
  have contact : readContact second = readContact first := by
    rw [readContact, readContact, nonBlank, nonBlank, same "CONTACT_EMAIL" (by decide)]
  have delay : readDelay second = readDelay first := by
    rw [readDelay, readDelay, same "TRANSITION_DELAY_MS" (by decide)]
  have order := entries_getD_eq respaced.order "overview,timeline,skills"
  have beside := entries_getD_eq respaced.beside "changelog,projects"
  rw [read, read, threshold, before, contact, delay, same "RUST_LOG" (by decide), same "SITE_ROOT" (by decide), order,
    beside]
  cases readThreshold first with
  | error => rfl
  | ok => cases readPort first with
    | error => rfl
    | ok => cases readContact first with
      | error => rfl
      | ok => cases readDelay first <;> rfl

end Respaced

theorem Respaced.accepted {first second : Environment} (respaced : Respaced first second) {settings : Settings}
    (accepted : read first = .ok settings) :
    read second = .ok { settings with homeSection := nonBlank second "DEFAULT_SECTION" } := by
  rw [respaced.read_eq, accepted]
  rfl

/-- An entry has no white space around it, so it cannot be told apart from another by such. -/
theorem IsEntry.eq_of_respaced {one other : String} (first : IsEntry one) (second : IsEntry other)
    (respaced : Text.Respaced one.toList other.toList) : one = other := by
  rw [← String.toList_inj, ← Text.trim_eq_self first.begins first.ends, ← Text.trim_eq_self second.begins second.ends]
  exact respaced.trim_eq

end Settings

namespace Site
open Settings

/-- The lists of sections that a catalog can be built from. -/
def SectionsSound (environment : Environment) : Prop :=
  orderAsked environment ≠ [] ∧ (orderAsked environment ++ besideAsked environment).Nodup

def StartsWith (environment : Environment) (catalog : Catalog) : Prop :=
  ∃ site, start environment = .ok site ∧ site.catalog = catalog

theorem firstFault_asked_eq_none_iff {environment : Environment} :
    Catalog.firstFault [] (orderAsked environment ++ besideAsked environment) = none ↔
      (orderAsked environment ++ besideAsked environment).Nodup := by
  rw [Catalog.firstFault_eq_none_iff]
  constructor
  · intro ⟨_, distinct, _⟩
    exact distinct
  · intro distinct
    exact ⟨fun id member => (isEntry_of_asked member).named, distinct, fun _ _ => List.not_mem_nil⟩

theorem catalogAsked_of_unsound {environment : Environment} (unsound : ¬ SectionsSound environment) :
    ∃ fault, ∀ home, Catalog.build (orderAsked environment) (besideAsked environment) home = .error fault := by
  apply Catalog.build_of_faulty
  by_cases ordered : orderAsked environment = []
  · exact Or.inl ordered
  · refine Or.inr fun clean => unsound ⟨ordered, firstFault_asked_eq_none_iff.mp clean⟩

/-- With good lists the home alone decides. -/
theorem start_of_home {environment : Environment} {settings : Settings} (accepted : read environment = .ok settings)
    (sound : SectionsSound environment) {home : String} (given : environment "DEFAULT_SECTION" = some home)
    (written : Text.blank home = false) :
    start environment =
      if home ∈ orderAsked environment ++ besideAsked environment then
        .ok { settings, catalog := { order := orderAsked environment, informational := besideAsked environment, home } }
      else .error (.catalog (.unknownHome home)) := by
  obtain ⟨ordered, distinct⟩ := sound
  have asked : nonBlank environment "DEFAULT_SECTION" = some home := nonBlank_eq_some_iff.mpr ⟨given, written⟩
  rw [start_of_read accepted, catalogAsked, asked, Catalog.build_some ordered (firstFault_asked_eq_none_iff.mpr distinct)]
  by_cases registered : home ∈ orderAsked environment ++ besideAsked environment
  · simp only [if_pos registered]
  · simp only [if_neg registered]

theorem starts_iff_of_home {environment : Environment} {settings : Settings} (accepted : read environment = .ok settings)
    (sound : SectionsSound environment) {home : String} (given : environment "DEFAULT_SECTION" = some home)
    (written : Text.blank home = false) :
    (∃ catalog, StartsWith environment catalog) ↔ home ∈ orderAsked environment ++ besideAsked environment := by
  simp only [StartsWith, start_of_home accepted sound given written]
  by_cases registered : home ∈ orderAsked environment ++ besideAsked environment
  · rw [if_pos registered]
    exact iff_of_true ⟨_, _, rfl, rfl⟩ registered
  · rw [if_neg registered]
    refine iff_of_false ?_ registered
    intro ⟨_, _, started, _⟩
    cases started

theorem exists_read_of_isOk {environment : Environment} (fine : (read environment).isOk = true) :
    ∃ settings, read environment = .ok settings := by
  cases accepted : read environment with
  | error fault =>
    rw [accepted] at fine
    cases fine
  | ok settings => exact ⟨settings, rfl⟩

section Respaced
variable {first second : Environment}

theorem sectionsSound_of_respaced (respaced : Respaced first second) (sound : SectionsSound first) :
    SectionsSound second := by
  rw [SectionsSound, ← respaced.orderAsked_eq, ← respaced.besideAsked_eq]
  exact sound

theorem start_eq_of_refused (respaced : Respaced first second) {fault : SettingsFault}
    (refused : read first = .error fault) : start first = start second := by
  have also : read second = .error fault := by rw [respaced.read_eq, refused]; rfl
  rw [start_of_refused refused, start_of_refused also]

theorem start_eq_of_unsound (respaced : Respaced first second) (unsound : ¬ SectionsSound first) :
    start first = start second := by
  cases accepted : read first with
  | error fault => exact start_eq_of_refused respaced accepted
  | ok settings =>
    have also := respaced.accepted accepted
    obtain ⟨fault, failed⟩ := catalogAsked_of_unsound unsound
    rw [start_of_read accepted, start_of_read also, catalogAsked, catalogAsked, ← respaced.orderAsked_eq,
      ← respaced.besideAsked_eq, failed, failed]

theorem start_eq_of_same_home (respaced : Respaced first second)
    (same : first "DEFAULT_SECTION" = second "DEFAULT_SECTION") : start first = start second := by
  have home : nonBlank first "DEFAULT_SECTION" = nonBlank second "DEFAULT_SECTION" := by rw [nonBlank, nonBlank, same]
  have read_same : read second = read first := by
    rw [respaced.read_eq]
    cases accepted : read first with
    | error fault => rfl
    | ok settings =>
      rw [← home, ← (sections_of_read accepted).2.2]
      rfl
  have catalog_same : catalogAsked second = catalogAsked first := by
    rw [catalogAsked, catalogAsked, ← respaced.orderAsked_eq, ← respaced.besideAsked_eq, home]
  cases accepted : read first with
  | error fault => exact start_eq_of_refused respaced accepted
  | ok settings => rw [start_of_read accepted, start_of_read (read_same.trans accepted), catalog_same]

/-- Two ways to write the home are not both among the sections. -/
theorem homes_apart (respaced : Respaced first second)
    (different : first "DEFAULT_SECTION" ≠ second "DEFAULT_SECTION") :
    ∃ one other, first "DEFAULT_SECTION" = some one ∧ second "DEFAULT_SECTION" = some other ∧ one ≠ other ∧
      Text.blank one = false ∧ Text.blank other = false ∧
      (one ∈ orderAsked first ++ besideAsked first → other ∉ orderAsked first ++ besideAsked first) := by
  obtain ⟨one, other, here, there, written, respelled⟩ := respaced.home.resolve_left different
  have apart : one ≠ other := by
    intro same
    rw [here, there, same] at different
    exact different rfl
  refine ⟨one, other, here, there, apart, written, respelled.blank_eq ▸ written, fun member also => apart ?_⟩
  exact (isEntry_of_asked member).eq_of_respaced (isEntry_of_asked also) respelled

/-- Where only the home is left to decide, how it is written shows in how the site starts, be it in
nothing but what is reported. -/
theorem start_ne_of_apart (respaced : Respaced first second) {settings : Settings} (accepted : read first = .ok settings)
    (sound : SectionsSound first) (different : first "DEFAULT_SECTION" ≠ second "DEFAULT_SECTION") :
    start first ≠ start second := by
  obtain ⟨one, other, here, there, apart, written, rewritten, alone⟩ := homes_apart respaced different
  intro same
  rw [start_of_home accepted sound here written,
    start_of_home (respaced.accepted accepted) (sectionsSound_of_respaced respaced sound) there rewritten,
    ← respaced.orderAsked_eq, ← respaced.besideAsked_eq] at same
  by_cases registered : one ∈ orderAsked first ++ besideAsked first
  · rw [if_pos registered, if_neg (alone registered)] at same
    cases same
  · rw [if_neg registered] at same
    split at same
    · cases same
    · cases same
      exact apart rfl

theorem starts_of_apart (respaced : Respaced first second) {settings : Settings} (accepted : read first = .ok settings)
    (sound : SectionsSound first) (different : first "DEFAULT_SECTION" ≠ second "DEFAULT_SECTION") :
    ∃ one other, first "DEFAULT_SECTION" = some one ∧ second "DEFAULT_SECTION" = some other ∧
      ((∃ catalog, StartsWith first catalog) ↔ one ∈ orderAsked first ++ besideAsked first) ∧
      ((∃ catalog, StartsWith second catalog) ↔ other ∈ orderAsked first ++ besideAsked first) ∧
      (one ∈ orderAsked first ++ besideAsked first → other ∉ orderAsked first ++ besideAsked first) := by
  obtain ⟨one, other, here, there, _, written, rewritten, alone⟩ := homes_apart respaced different
  refine ⟨one, other, here, there, starts_iff_of_home accepted sound here written, ?_, alone⟩
  rw [respaced.orderAsked_eq, respaced.besideAsked_eq]
  exact starts_iff_of_home (respaced.accepted accepted) (sectionsSound_of_respaced respaced sound) there rewritten

/-- White space in the variables that name sections makes no difference to how the site starts if the
settings are refused, if no catalog can be built from the lists, or if the home is written in the same
way; otherwise it does. Whether the site starts, and with which catalog, is then the same only if
neither way to write the home is one of the sections. In any case, if the site starts both times then
with the same catalog. -/
theorem respaced_start_eq_iff (respaced : Respaced first second) :
    (start first = start second ↔
      (∃ fault, read first = .error fault) ∨ ¬ SectionsSound first ∨
      first "DEFAULT_SECTION" = second "DEFAULT_SECTION") ∧
    ((∀ catalog, StartsWith first catalog ↔ StartsWith second catalog) ↔
      (∃ fault, read first = .error fault) ∨ ¬ SectionsSound first ∨
      first "DEFAULT_SECTION" = second "DEFAULT_SECTION" ∨
      ∀ home, first "DEFAULT_SECTION" = some home ∨ second "DEFAULT_SECTION" = some home →
        home ∉ orderAsked first ++ besideAsked first) ∧
    ∀ one other, StartsWith first one → StartsWith second other → one = other := by
  by_cases alike : (∃ fault, read first = .error fault) ∨ ¬ SectionsSound first ∨
      first "DEFAULT_SECTION" = second "DEFAULT_SECTION"
  · have same : start first = start second := by
      rcases alike with ⟨fault, refused⟩ | unsound | home
      · exact start_eq_of_refused respaced refused
      · exact start_eq_of_unsound respaced unsound
      · exact start_eq_of_same_home respaced home
    refine ⟨iff_of_true same alike, iff_of_true ?_ ?_, ?_⟩
    · intro catalog
      rw [StartsWith, StartsWith, same]
    · exact alike.imp_right fun rest => rest.imp_right Or.inl
    · rintro one other ⟨site, started, rfl⟩ ⟨again, restarted, rfl⟩
      rw [← same, started] at restarted
      cases restarted
      rfl
  · obtain ⟨accepts, sound, different⟩ : (¬ ∃ fault, read first = .error fault) ∧ SectionsSound first ∧
        first "DEFAULT_SECTION" ≠ second "DEFAULT_SECTION" := by
      simpa only [not_or, not_not] using alike
    cases accepted : read first with
    | error fault => exact absurd ⟨fault, accepted⟩ accepts
    | ok settings =>
      obtain ⟨one, other, here, there, withOne, withOther, alone⟩ := starts_of_apart respaced accepted sound different
      have never (catalog : Catalog) (begun : StartsWith first catalog) (again : Catalog) : ¬ StartsWith second again :=
        fun resumed => alone (withOne.mp ⟨_, begun⟩) (withOther.mp ⟨_, resumed⟩)
      have unequal := start_ne_of_apart respaced accepted sound different
      refine ⟨iff_of_false unequal (accepted ▸ alike), ⟨fun agree => ?_, fun outside => ?_⟩, ?_⟩
      · refine Or.inr (Or.inr (Or.inr ?_))
        rintro home (asked | asked) registered
        · obtain rfl := Option.some.inj (here.symm.trans asked)
          obtain ⟨catalog, begun⟩ := withOne.mpr registered
          exact never catalog begun catalog ((agree catalog).mp begun)
        · obtain rfl := Option.some.inj (there.symm.trans asked)
          obtain ⟨catalog, resumed⟩ := withOther.mpr registered
          exact never catalog ((agree catalog).mpr resumed) catalog resumed
      · rcases outside with ⟨fault, refused⟩ | unsound | same | neither
        · cases refused
        · exact absurd sound unsound
        · exact absurd same different
        · intro catalog
          have silent : ¬ StartsWith first catalog := fun begun => neither one (Or.inl here) (withOne.mp ⟨_, begun⟩)
          have mute : ¬ StartsWith second catalog := fun resumed => neither other (Or.inr there) (withOther.mp ⟨_, resumed⟩)
          exact iff_of_false silent mute
      · intro _ again begun resumed
        exact absurd resumed (never _ begun again)

end Respaced

/-- Lists with white space around their entries, blank ones included, beside a home written as an entry. -/
theorem respaced_start_eq_iff_of_lists :
    let first : Environment := fun name =>
      [("CONTACT_EMAIL", "me@example.com"), ("SECTION_ORDER", "skills,,about me"), ("INFO_SECTIONS", "changelog"),
        ("DEFAULT_SECTION", "about me")].lookup name
    let second : Environment := fun name =>
      [("CONTACT_EMAIL", "me@example.com"), ("SECTION_ORDER", "\tskills , ,about me\n"), ("INFO_SECTIONS", " changelog"),
        ("DEFAULT_SECTION", "about me")].lookup name
    Respaced first second ∧ start first = start second ∧ ∃ catalog, StartsWith first catalog := by
  intro first second
  have respaced : Respaced first second := by
    refine ⟨.some (entriesRespaced_iff.mpr (by decide +kernel)), .some (entriesRespaced_iff.mpr (by decide +kernel)),
      Or.inl rfl, fun name other => ?_⟩
    simp only [List.mem_cons, List.not_mem_nil, or_false, not_or] at other
    obtain ⟨order, beside, home⟩ := other
    simp only [first, second, List.lookup_cons, List.lookup_nil, beq_false_of_ne order, beq_false_of_ne beside,
      beq_false_of_ne home]
  have sound : SectionsSound first := by
    rw [SectionsSound]
    decide +kernel
  have same : first "DEFAULT_SECTION" = second "DEFAULT_SECTION" := rfl
  obtain ⟨settings, accepted⟩ := exists_read_of_isOk (show (read first).isOk = true by decide +kernel)
  have started := (@starts_iff_of_home _ _ accepted sound "about me" rfl (by decide +kernel)).mpr (by decide +kernel)
  exact ⟨respaced, (respaced_start_eq_iff respaced).1.mpr (Or.inr (Or.inr same)), started⟩

/-- A home with white space around it is no section, although the same home without it is one. -/
theorem padded_home_is_unknown :
    let plain : Environment := fun name => [("CONTACT_EMAIL", "me@example.com"), ("DEFAULT_SECTION", "skills")].lookup name
    let padded : Environment := fun name =>
      [("CONTACT_EMAIL", "me@example.com"), ("DEFAULT_SECTION", " skills ")].lookup name
    Respaced plain padded ∧ (∃ catalog, StartsWith plain catalog) ∧
      start padded = .error (.catalog (.unknownHome " skills ")) ∧ start plain ≠ start padded := by
  intro plain padded
  have respaced : Respaced plain padded := by
    refine ⟨.none, .none,
      Or.inr ⟨"skills", " skills ", rfl, rfl, by decide +kernel, Text.respaced_iff.mpr (by decide +kernel)⟩,
      fun name other => ?_⟩
    simp only [List.mem_cons, List.not_mem_nil, or_false, not_or] at other
    simp only [plain, padded, List.lookup_cons, List.lookup_nil, beq_false_of_ne other.2.2]
  have sound : SectionsSound plain := by
    rw [SectionsSound]
    decide +kernel
  obtain ⟨settings, accepted⟩ := exists_read_of_isOk (show (read plain).isOk = true by decide +kernel)
  have different : plain "DEFAULT_SECTION" ≠ padded "DEFAULT_SECTION" := by decide +kernel
  have refused := @start_of_home _ _ (respaced.accepted accepted) (sectionsSound_of_respaced respaced sound) " skills " rfl
    (by decide +kernel)
  rw [if_neg (by decide +kernel)] at refused
  have started := (@starts_iff_of_home _ _ accepted sound "skills" rfl (by decide +kernel)).mpr (by decide +kernel)
  exact ⟨respaced, started, refused, start_ne_of_apart respaced accepted sound different⟩

end Site

end Vitae
