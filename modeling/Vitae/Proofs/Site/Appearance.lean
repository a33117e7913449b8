import Mathlib.Algebra.Ring.Parity
import Vitae.Proofs.Site.Conversation
import Vitae.Proofs.Site.Posting
import Vitae.Theme

/-! The appearance and the store that remembers it. Where the two are kept side by side, only a value
set by someone else brings them apart, until the next load or toggle. Where a reader keeps the store
and asks the site, sending back what the last answer said to store, nothing is lost between the
requests: all that counts is what was stored at first and how often it was toggled. -/

namespace Vitae

namespace Theme

theorem ofStored_stored (theme : Theme) : ofStored (some theme.stored) = theme := by
  cases theme <;> decide

theorem ofStored_eq_dark_iff {value : Option String} : ofStored value = .dark ↔ value = some "enabled" := by
  change (if value = some "enabled" then dark else light) = dark ↔ _
  by_cases asked : value = some "enabled" <;> simp [asked]

theorem other_involutive : Function.Involutive other := by
  intro theme
  cases theme <;> rfl

theorem iterate_other_eq_dark_iff (theme : Theme) (times : Nat) :
    other^[times] theme = .dark ↔ Xor (theme = .dark) (Odd times) := by
  rcases Nat.even_or_odd times with even | odd
  · rw [other_involutive.iterate_even even]
    simp [xor_def, Nat.not_odd_iff_even.mpr even]
  · rw [other_involutive.iterate_odd odd]
    cases theme <;> simp [xor_def, odd, other]

end Theme

namespace Appearance

/-- The appearance after a sequence of actions. -/
def run (appearance : Appearance) (actions : List Action) : Appearance :=
  actions.foldl (fun appearance action => (appearance.act action).1) appearance

/-- The page looks as the store says. -/
def InStep (appearance : Appearance) : Prop := appearance.theme = Theme.load appearance.store

def Action.isLoadOrToggle : Action → Bool
  | .load | .toggle => true
  | _ => false

/-- Whether an action sets the value that is remembered for the appearance. -/
def Action.overwrites : Action → Bool
  | .set key _ => key = Theme.key
  | _ => false

theorem run_append (appearance : Appearance) (first second : List Action) :
    appearance.run (first ++ second) = (appearance.run first).run second :=
  List.foldl_append

theorem inStep_act_of_isLoadOrToggle (appearance : Appearance) {action : Action} (brings : action.isLoadOrToggle = true) :
    (appearance.act action).1.InStep := by
  cases action with
  | load => rfl
  | toggle =>
    have stored := Preferences.get?_set_self appearance.store Theme.key appearance.theme.other.stored
    simp [act, InStep, Theme.toggle, Theme.load, stored, Theme.ofStored_stored]
  | set | get => cases brings

theorem InStep.act {appearance : Appearance} (inStep : appearance.InStep) {action : Action} (spares : action.overwrites = false) :
    (appearance.act action).1.InStep := by
  cases action with
  | set key value =>
    have other : Theme.key ≠ key := by simpa [Action.overwrites, eq_comm] using spares
    have kept := appearance.store.get?_set_of_ne value other
    simpa [Appearance.act, InStep, Theme.load, kept] using inStep
  | get => exact inStep
  | load | toggle => exact appearance.inStep_act_of_isLoadOrToggle rfl

theorem InStep.run {appearance : Appearance} (inStep : appearance.InStep) {actions : List Action}
    (spare : ∀ action ∈ actions, action.overwrites = false) : (appearance.run actions).InStep := by
  induction actions generalizing appearance with
  | nil => exact inStep
  | cons action rest ih =>
    exact ih (inStep.act (spare action List.mem_cons_self)) fun other member => spare other (List.mem_cons_of_mem _ member)

end Appearance

/-- What a reader is told to store. -/
def Response.stored? (response : Response) : Option String :=
  match response.field? "stored" with
  | some (.text value) => some value
  | _ => none

namespace Site

/-- Theme requests one after the other, from a reader who has something stored or nothing: each says
what the reader has stored by then and whether to toggle. -/
inductive Remembers (site : Site) (folder : Folder) : Option String → List (Request × Bool) → Prop
  | nil {stored} : Remembers site folder stored []
  | cons {stored request toggle rest}
      (posts : request.Posts "/api/v1/page/theme" ThemeRequest.read { stored, toggle })
      (next : Remembers site folder (site.respond folder request).response.stored? rest) :
      Remembers site folder stored ((request, toggle) :: rest)

variable {site : Site} {folder : Folder} {request : Request} {stored : Option String} {toggle : Bool}

theorem respond_of_theme (posts : request.Posts "/api/v1/page/theme" ThemeRequest.read { stored, toggle }) (site : Site)
    (folder : Folder) :
    let theme := Theme.other^[[toggle].countP id] (Theme.ofStored stored)
    site.respond folder request = { response := .json 200 (ThemeReply.toJson { theme, stored := theme.stored }) } := by
  intro theme
  have answered : ThemeRequest.answer { stored, toggle } = { theme, stored := theme.stored } := by
    cases stored <;> cases toggle <;> rfl
  rw [posts.respond .theme rfl rfl, answer, posts.withBody, answered]

/-- Each answer stands for as many toggles as have been asked for by then. -/
theorem Remembers.respond {exchanges : List (Request × Bool)} (remembers : Remembers site folder stored exchanges)
    {number : Nat} (asked : exchanges[number]? = some (request, toggle)) :
    let theme := Theme.other^[(exchanges.take (number + 1)).countP (·.2)] (Theme.ofStored stored)
    site.respond folder request = { response := .json 200 (ThemeReply.toJson { theme, stored := theme.stored }) } := by
  induction remembers generalizing number with
  | nil => cases asked
  | @cons stored first turned rest posts next ih =>
    have responded := respond_of_theme posts site folder
    cases number with
    | zero =>
      cases asked
      simpa using responded
    | succ number =>
      have told : (site.respond folder first).response.stored? =
          some (Theme.other^[[turned].countP id] (Theme.ofStored stored)).stored := by
        rw [responded]
        rfl
      have counted : (((first, turned) :: rest).take (number + 1 + 1)).countP (·.2) =
          (rest.take (number + 1)).countP (·.2) + [turned].countP id := by
        rw [List.take_succ_cons, ← List.singleton_append, List.countP_append, Nat.add_comm, List.countP_singleton,
          List.countP_singleton]
        rfl
      have later := ih asked
      rw [told, Theme.ofStored_stored, ← Function.iterate_add_apply, ← counted] at later
      exact later

end Site

/-- However an appearance and its store are used, from an empty store on, the page looks as the store
says as long as nobody has set that value since it was last loaded or toggled, and toggling leaves
every other value alone. A reader who stores what each answer of the site says gets a dark page
exactly when the value stored at first says so or an odd number of toggles was asked for by then,
but not both. -/
theorem appearance_is_remembered :
    (∀ earlier recent : List Appearance.Action, (∀ action ∈ earlier.getLast?, action.isLoadOrToggle = true) →
      (∀ action ∈ recent, action.overwrites = false) → (Appearance.initial.run (earlier ++ recent)).InStep) ∧
    (∀ (actions : List Appearance.Action) (key : String), key ≠ Theme.key →
      ((Appearance.initial.run (actions ++ [.toggle])).store.get? key = (Appearance.initial.run actions).store.get? key)) ∧
    ∀ (site : Site) (folder : Folder) (stored : Option String) (exchanges : List (Request × Bool)),
      site.Remembers folder stored exchanges → ∀ number (_ : number < exchanges.length),
        let response := (site.respond folder exchanges[number].1).response
        let toggles := (exchanges.take (number + 1)).countP (·.2)
        response.status = 200 ∧
        (response.field? "mode" = some (.text "dark") ∨ response.field? "mode" = some (.text "light")) ∧
        (response.field? "mode" = some (.text "dark") ↔ Xor (stored = some "enabled") (Odd toggles)) := by
  refine ⟨fun earlier recent brought spare => ?_, fun actions key other => ?_, ?_⟩
  · rw [Appearance.run_append]
    refine Appearance.InStep.run ?_ spare
    rcases List.eq_nil_or_concat earlier with rfl | ⟨before, last, rfl⟩
    · rfl
    · rw [List.concat_eq_append, Appearance.run_append]
      exact Appearance.inStep_act_of_isLoadOrToggle _ (brought last (by simp))
  · rw [Appearance.run_append]
    exact Preferences.get?_set_of_ne _ _ other
  · intro site folder stored exchanges remembers number below response toggles
    have asked := List.getElem?_eq_getElem below
    let theme := Theme.other^[toggles] (Theme.ofStored stored)
    have responds : response = .json 200 (ThemeReply.toJson { theme, stored := theme.stored }) :=
      congrArg Answered.response (remembers.respond asked)
    have mode : response.field? "mode" = some (.text theme.name) := by
      rw [responds]
      rfl
    have dark : theme = .dark ↔ Xor (stored = some "enabled") (Odd toggles) := by
      rw [Theme.iterate_other_eq_dark_iff, Theme.ofStored_eq_dark_iff]
    rw [mode, ← dark]
    refine ⟨by rw [responds]; rfl, ?_, ?_⟩
    · cases theme with
      | light => exact Or.inr rfl
      | dark => exact Or.inl rfl
    · cases theme with
      | light => simp [Theme.name]
      | dark => simp [Theme.name]

/-- A store that someone else has written to and that is loaded again; and a reader whose stored word is
not the one for dark, who toggles, asks without toggling, and toggles again. -/
theorem appearance_is_remembered_through_requests :
    let earlier : List Appearance.Action := [.toggle, .set "darkMode" "disabled", .set "darkMode" "enabled", .load]
    let recent : List Appearance.Action := [.set "darkmode" "disabled", .get "darkMode"]
    let folder : Folder := { entries := [] }
    let first := Request.posting "/api/v1/page/theme" "\x7b\"toggle\": true, \"stored\": \"Enabled\"\x7d"
    let second := Request.posting "/api/v1/page/theme" "\x7b\"stored\": \"enabled\"\x7d"
    let third := Request.posting "/api/v1/page/theme" "[\"enabled\", true]"
    let exchanges : List (Request × Bool) := [(first, true), (second, false), (third, true)]
    (∀ action ∈ earlier.getLast?, action.isLoadOrToggle = true) ∧ (∀ action ∈ recent, action.overwrites = false) ∧
      (Appearance.initial.run (earlier ++ recent)).InStep ∧ (Appearance.initial.run (earlier ++ recent)).theme = .dark ∧
      Site.sample.Remembers folder (some "Enabled") exchanges ∧
      ((Site.sample.respond folder second).response.field? "mode" = some (.text "dark") ↔
        Xor (some "Enabled" = some "enabled") (Odd 1)) ∧
      ((Site.sample.respond folder third).response.field? "mode" = some (.text "dark") ↔
        Xor (some "Enabled" = some "enabled") (Odd 2)) := by
  intro earlier recent folder first second third exchanges
  obtain ⟨inStep, _, remembered⟩ := appearance_is_remembered
  have brought : ∀ action ∈ earlier.getLast?, action.isLoadOrToggle = true := by decide
  have spare : ∀ action ∈ recent, action.overwrites = false := by decide
  have remembers : Site.sample.Remembers folder (some "Enabled") exchanges := by
    have one : first.Posts "/api/v1/page/theme" ThemeRequest.read { stored := some "Enabled", toggle := true } :=
      .of_body (by decide) (by decide +kernel) (by decide +kernel)
    have two : second.Posts "/api/v1/page/theme" ThemeRequest.read { stored := some "enabled", toggle := false } :=
      .of_body (by decide) (by decide +kernel) (by decide +kernel)
    refine .cons one ?_
    rw [Site.respond_of_theme one]
    refine .cons two ?_
    rw [Site.respond_of_theme two]
    exact .cons (.of_body (by decide) (by decide +kernel) (by decide +kernel)) .nil
  have answers := remembered Site.sample folder (some "Enabled") exchanges remembers
  refine ⟨brought, spare, inStep earlier recent brought spare, by decide +kernel, remembers, ?_, ?_⟩
  · exact (answers 1 (by decide)).2.2
  · exact (answers 2 (by decide)).2.2

end Vitae
