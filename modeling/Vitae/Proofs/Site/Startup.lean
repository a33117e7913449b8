import Vitae.Proofs.Section.Construction
import Vitae.Proofs.Settings.Reading
import Vitae.Site.Startup

/-! When the site starts. The settings come first, whatever the catalog would have been; then the
lists of sections decide. The lists cannot name a blank section, so of what can be wrong with a
catalog three things remain: no ordered section, a section named twice, and a home that is not one
of them. -/

namespace Vitae.Site

open Settings

variable {environment : Environment}

/-- The catalog that an environment asks for. -/
def catalogAsked (environment : Environment) : Except CatalogFault Catalog :=
  Catalog.build (orderAsked environment) (besideAsked environment) (nonBlank environment "DEFAULT_SECTION")

theorem start_of_read {settings : Settings} (accepted : read environment = .ok settings) :
    start environment =
      match catalogAsked environment with
      | .error fault => .error (.catalog fault)
      | .ok catalog => .ok { settings, catalog } := by
  obtain ⟨order, beside, home⟩ := sections_of_read accepted
  simp only [start, accepted, catalogAsked, ← order, ← beside, ← home]
  cases built : Catalog.build settings.sectionOrder settings.infoSections settings.homeSection with
  | error fault => simp [Except.mapError, bind, Except.bind, built]
  | ok catalog => simp [Except.mapError, bind, Except.bind, pure, Except.pure, built]

theorem start_of_refused {fault : SettingsFault} (refused : read environment = .error fault) :
    start environment = .error (.settings fault) := by
  simp only [start, refused]
  rfl

theorem start_eq_ok_iff {site : Site} :
    start environment = .ok site ↔
      read environment = .ok site.settings ∧ catalogAsked environment = .ok site.catalog := by
  cases accepted : read environment with
  | error fault => simp [start_of_refused accepted]
  | ok settings =>
    rw [start_of_read accepted]
    cases catalogAsked environment with
    | error fault => simp
    | ok catalog =>
      cases site
      simp

theorem catalogAsked_of_fault {fault : CatalogFault} (failed : start environment = .error (.catalog fault)) :
    catalogAsked environment = .error fault := by
  cases accepted : read environment with
  | error other =>
    rw [start_of_refused accepted] at failed
    cases failed
  | ok settings =>
    rw [start_of_read accepted] at failed
    cases asked : catalogAsked environment with
    | error found =>
      rw [asked] at failed
      cases failed
      rfl
    | ok catalog =>
      rw [asked] at failed
      cases failed

theorem catalogAsked_eq_ok_iff {catalog : Catalog} :
    catalogAsked environment = .ok catalog ↔
      orderAsked environment ≠ [] ∧ (orderAsked environment ++ besideAsked environment).Nodup ∧
      (∀ home, environment "DEFAULT_SECTION" = some home → Text.blank home = false →
        home ∈ orderAsked environment ++ besideAsked environment) ∧
      catalog = { order := orderAsked environment, informational := besideAsked environment,
                  home := (nonBlank environment "DEFAULT_SECTION").getD ((orderAsked environment).headD "") } := by
  have named : ∀ id ∈ orderAsked environment ++ besideAsked environment, Text.blank id = false :=
    fun id member => (isEntry_of_asked member).named
  simp only [catalogAsked, Catalog.build_eq_ok_iff, nonBlank_eq_some_iff, and_imp, eq_true named, true_and]

/-- An environment starts the site if its settings are accepted and its sections make up a catalog:
some section is ordered, none is named twice in the order or beside it, and a home that is given is
one of them. If only the catalog is at fault then for one of these reasons. In a site that has
started, every section is one that the lists name, and so is written without white space around
it or a comma in it. -/
theorem starts_iff (environment : Environment) :
    ((∃ site, start environment = .ok site) ↔
      (∃ settings, read environment = .ok settings) ∧ orderAsked environment ≠ [] ∧
      (orderAsked environment ++ besideAsked environment).Nodup ∧
      ∀ home, environment "DEFAULT_SECTION" = some home → Text.blank home = false →
        home ∈ orderAsked environment ++ besideAsked environment) ∧
    (∀ fault, start environment = .error (.catalog fault) →
      (orderAsked environment = [] ∧ fault = .emptyOrder) ∨
      (∃ id, 2 ≤ (orderAsked environment ++ besideAsked environment).count id ∧ fault = .duplicate id) ∨
      (∃ home, environment "DEFAULT_SECTION" = some home ∧ Text.blank home = false ∧
        home ∉ orderAsked environment ++ besideAsked environment ∧ fault = .unknownHome home)) ∧
    (∀ site, start environment = .ok site →
      site.catalog.order = orderAsked environment ∧ site.catalog.informational = besideAsked environment ∧
      ∀ id ∈ site.catalog.sections, IsEntry id) := by
  refine ⟨⟨fun ⟨site, started⟩ => ?_, fun ⟨⟨settings, accepted⟩, ordered, distinct, home⟩ => ?_⟩, ?_, ?_⟩
  · obtain ⟨accepted, built⟩ := start_eq_ok_iff.mp started
    obtain ⟨ordered, distinct, home, _⟩ := catalogAsked_eq_ok_iff.mp built
    exact ⟨⟨site.settings, accepted⟩, ordered, distinct, home⟩
  · have built := catalogAsked_eq_ok_iff.mpr ⟨ordered, distinct, home, rfl⟩
    exact ⟨⟨settings, _⟩, start_eq_ok_iff.mpr ⟨accepted, built⟩⟩
  · intro fault failed
    have named : ∀ id ∈ orderAsked environment ++ besideAsked environment, Text.blank id = false :=
      fun id member => (isEntry_of_asked member).named
    rcases Catalog.build_eq_error_of_named named (catalogAsked_of_fault failed) with empty | twice | ⟨home, given, missing, unknown⟩
    · exact Or.inl empty
    · exact Or.inr (Or.inl twice)
    · obtain ⟨asked, written⟩ := nonBlank_eq_some_iff.mp given
      exact Or.inr (Or.inr ⟨home, asked, written, missing, unknown⟩)
  · intro site started
    obtain ⟨_, built⟩ := start_eq_ok_iff.mp started
    obtain ⟨_, _, _, catalog⟩ := catalogAsked_eq_ok_iff.mp built
    rw [catalog]
    exact ⟨rfl, rfl, fun id member => isEntry_of_asked member⟩

/-- With these sections it is up to the other settings alone. -/
theorem starts_iff_of_good_sections :
    let environment : Environment := fun name =>
      [("SECTION_ORDER", " skills ,,\tabout me\n"), ("INFO_SECTIONS", " , "), ("DEFAULT_SECTION", "about me")].lookup name
    orderAsked environment = ["skills", "about me"] ∧ besideAsked environment = [] ∧
      ((∃ site, start environment = .ok site) ↔ ∃ settings, read environment = .ok settings) := by
  intro environment
  have order : orderAsked environment = ["skills", "about me"] := by decide +kernel
  have beside : besideAsked environment = [] := by decide +kernel
  have home : ∀ home, environment "DEFAULT_SECTION" = some home → Text.blank home = false →
      home ∈ orderAsked environment ++ besideAsked environment := by
    intro home asked _
    have same : environment "DEFAULT_SECTION" = some "about me" := by decide +kernel
    rw [same] at asked
    cases asked
    rw [order, beside]
    decide
  have good : orderAsked environment ≠ [] ∧ (orderAsked environment ++ besideAsked environment).Nodup := by
    rw [order, beside]
    decide
  exact ⟨order, beside, (starts_iff environment).1.trans (and_iff_left ⟨good.1, good.2, home⟩)⟩

end Vitae.Site
