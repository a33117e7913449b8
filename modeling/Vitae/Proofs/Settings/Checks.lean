import Mathlib.Algebra.Group.Nat.Defs
import Vitae.Proofs.Number.Whole
import Vitae.Proofs.Settings.Reading

/-! The four settings that can be wrong. Each is judged by its own variable alone, and they are judged
in one order: the threshold, the port, the contact, the delay. What is reported is what is wrong with
the first of them that is wrong, whatever the later ones say. -/

namespace Vitae.Settings

section Asked
variable (environment : Environment)

def thresholdText : String := (environment "SWIPE_THRESHOLD_PX").getD "50"
def portText : String := (environment "PORT").getD "8080"
def delayText : String := (environment "TRANSITION_DELAY_MS").getD "50"

/-- The distances that a swipe can be compared with. -/
def IsDistance (pixels : Float) : Prop := pixels.isFinite = true ∧ 0.0 ≤ pixels

structure AsksThreshold (pixels : Float) : Prop where
  number : Decimal.read (thresholdText environment) = .ok pixels
  usable : IsDistance pixels

structure AsksPort (port : Nat) : Prop where
  number : Whole.Writes (portText environment) port
  inside : port ≤ 65535

structure AsksContact (email : String) : Prop where
  given : environment "CONTACT_EMAIL" = some email
  written : Text.blank email = false

structure AsksDelay (ms : Nat) : Prop where
  number : Whole.Writes (delayText environment) ms
  inside : ms < 2 ^ 64

/-- What is wrong with the first setting that is wrong. All before it are good. -/
inductive FirstWrong : SettingsFault → Prop
  | thresholdUnreadable {cause} (unread : Decimal.read (thresholdText environment) = .error cause) :
      FirstWrong (.thresholdUnreadable cause)
  | thresholdOutOfRange {pixels} (number : Decimal.read (thresholdText environment) = .ok pixels)
      (outside : ¬ IsDistance pixels) : FirstWrong (.thresholdOutOfRange pixels)
  | portUnreadable {pixels cause} (threshold : AsksThreshold environment pixels)
      (misread : Whole.Misread 65536 (portText environment) cause) : FirstWrong (.portUnreadable cause)
  | contactMissing {pixels port} (threshold : AsksThreshold environment pixels) (before : AsksPort environment port)
      (silent : ∀ email, ¬ AsksContact environment email) : FirstWrong .contactMissing
  | delayUnreadable {pixels port email cause} (threshold : AsksThreshold environment pixels)
      (before : AsksPort environment port) (contact : AsksContact environment email)
      (misread : Whole.Misread (2 ^ 64) (delayText environment) cause) : FirstWrong (.delayUnreadable cause)

end Asked

variable {environment : Environment}

section Variables

/-! ### One variable at a time -/

theorem readThreshold_of_distance {pixels : Float} (number : Decimal.read (thresholdText environment) = .ok pixels)
    (usable : IsDistance pixels) : readThreshold environment = .ok pixels := by
  have accepted : (pixels.isFinite && decide (0.0 ≤ pixels)) = true :=
    Bool.and_eq_true_iff.mpr ⟨usable.1, decide_eq_true usable.2⟩
  rw [thresholdText] at number
  rw [readThreshold, number]
  exact if_pos accepted

theorem readThreshold_of_outside {pixels : Float} (number : Decimal.read (thresholdText environment) = .ok pixels)
    (outside : ¬ IsDistance pixels) : readThreshold environment = .error (.thresholdOutOfRange pixels) := by
  have refused : ¬ (pixels.isFinite && decide (0.0 ≤ pixels)) = true := by
    intro accepted
    obtain ⟨finite, nonnegative⟩ := Bool.and_eq_true_iff.mp accepted
    exact outside ⟨finite, of_decide_eq_true nonnegative⟩
  rw [thresholdText] at number
  rw [readThreshold, number]
  exact if_neg refused

theorem readThreshold_of_unread {cause : DecimalFault}
    (unread : Decimal.read (thresholdText environment) = .error cause) :
    readThreshold environment = .error (.thresholdUnreadable cause) := by
  rw [thresholdText] at unread
  rw [readThreshold, unread]

theorem readThreshold_eq_ok_iff {pixels : Float} :
    readThreshold environment = .ok pixels ↔ AsksThreshold environment pixels := by
  constructor
  · intro accepted
    cases number : Decimal.read (thresholdText environment) with
    | error cause =>
      rw [readThreshold_of_unread number] at accepted
      cases accepted
    | ok value =>
      by_cases usable : IsDistance value
      · rw [readThreshold_of_distance number usable] at accepted
        cases accepted
        exact ⟨number, usable⟩
      · rw [readThreshold_of_outside number usable] at accepted
        cases accepted
  · intro asks
    exact readThreshold_of_distance asks.number asks.usable

theorem readThreshold_eq_error_iff {fault : SettingsFault} :
    readThreshold environment = .error fault ↔
      (∃ cause, Decimal.read (thresholdText environment) = .error cause ∧ fault = .thresholdUnreadable cause) ∨
      ∃ pixels, Decimal.read (thresholdText environment) = .ok pixels ∧ ¬ IsDistance pixels ∧
        fault = .thresholdOutOfRange pixels := by
  constructor
  · intro failed
    cases number : Decimal.read (thresholdText environment) with
    | error cause =>
      rw [readThreshold_of_unread number] at failed
      cases failed
      exact Or.inl ⟨cause, rfl, rfl⟩
    | ok value =>
      by_cases usable : IsDistance value
      · rw [readThreshold_of_distance number usable] at failed
        cases failed
      · rw [readThreshold_of_outside number usable] at failed
        cases failed
        exact Or.inr ⟨value, rfl, usable, rfl⟩
  · rintro (⟨cause, unread, rfl⟩ | ⟨pixels, number, outside, rfl⟩)
    · exact readThreshold_of_unread unread
    · exact readThreshold_of_outside number outside

theorem readPort_eq (environment : Environment) :
    readPort environment = (Whole.read 65536 (portText environment)).mapError .portUnreadable := by
  unfold readPort portText UInt16.size
  cases Whole.read 65536 ((environment "PORT").getD "8080") <;> rfl

theorem readDelay_eq (environment : Environment) :
    readDelay environment = (Whole.read (2 ^ 64) (delayText environment)).mapError .delayUnreadable := by
  unfold readDelay delayText Word.bound UInt64.size
  cases Whole.read (2 ^ 64) ((environment "TRANSITION_DELAY_MS").getD "50") <;> rfl

theorem readPort_eq_ok_iff {port : Nat} : readPort environment = .ok port ↔ AsksPort environment port := by
  rw [readPort_eq, mapError_eq_ok_iff, Whole.read_eq_ok_iff (by decide)]
  exact ⟨fun ⟨number, inside⟩ => ⟨number, by omega⟩, fun ⟨number, inside⟩ => ⟨number, by omega⟩⟩

theorem readDelay_eq_ok_iff {ms : Nat} : readDelay environment = .ok ms ↔ AsksDelay environment ms := by
  rw [readDelay_eq, mapError_eq_ok_iff, Whole.read_eq_ok_iff (by decide)]
  exact ⟨fun ⟨number, inside⟩ => ⟨number, inside⟩, fun ⟨number, inside⟩ => ⟨number, inside⟩⟩

theorem readContact_eq_ok_iff {email : String} :
    readContact environment = .ok email ↔ AsksContact environment email := by
  have given := @nonBlank_eq_some_iff environment "CONTACT_EMAIL" email
  unfold readContact
  constructor
  · intro accepted
    cases found : nonBlank environment "CONTACT_EMAIL" with
    | none =>
      rw [found] at accepted
      cases accepted
    | some other =>
      rw [found] at accepted
      cases accepted
      obtain ⟨there, written⟩ := given.mp found
      exact ⟨there, written⟩
  · intro ⟨there, written⟩
    rw [given.mpr ⟨there, written⟩]

theorem readContact_eq_error_iff {fault : SettingsFault} :
    readContact environment = .error fault ↔
      (∀ email, ¬ AsksContact environment email) ∧ fault = .contactMissing := by
  constructor
  · intro failed
    refine ⟨fun email asks => ?_, ?_⟩
    · rw [readContact_eq_ok_iff.mpr asks] at failed
      cases failed
    · unfold readContact at failed
      split at failed
      · cases failed
        rfl
      · cases failed
  · intro ⟨silent, same⟩
    cases read : readContact environment with
    | ok email => exact absurd (readContact_eq_ok_iff.mp read) (silent email)
    | error other =>
      unfold readContact at read
      split at read
      · cases read
        rw [same]
      · cases read

end Variables

/-- The settings are read if each of the four can be. -/
theorem read_of_asked {pixels : Float} {port ms : Nat} {email : String} (threshold : AsksThreshold environment pixels)
    (before : AsksPort environment port) (contact : AsksContact environment email) (delay : AsksDelay environment ms) :
    ∃ settings, read environment = .ok settings ∧ settings.swipeThreshold = pixels ∧ settings.port = port ∧
      settings.contactEmail = email ∧ settings.transitionDelay = ms := by
  rw [read, readThreshold_eq_ok_iff.mpr threshold, readPort_eq_ok_iff.mpr before, readContact_eq_ok_iff.mpr contact,
    readDelay_eq_ok_iff.mpr delay]
  exact ⟨_, rfl, rfl, rfl, rfl, rfl⟩

theorem asked_of_read {settings : Settings} (accepted : read environment = .ok settings) :
    AsksThreshold environment settings.swipeThreshold ∧ AsksPort environment settings.port ∧
      AsksContact environment settings.contactEmail ∧ AsksDelay environment settings.transitionDelay := by
  obtain ⟨pixels, threshold, rest⟩ := bind_eq_ok_iff.mp accepted
  obtain ⟨port, before, rest⟩ := bind_eq_ok_iff.mp rest
  obtain ⟨email, contact, rest⟩ := bind_eq_ok_iff.mp rest
  obtain ⟨ms, delay, rest⟩ := bind_eq_ok_iff.mp rest
  cases rest
  exact ⟨readThreshold_eq_ok_iff.mp threshold, readPort_eq_ok_iff.mp before, readContact_eq_ok_iff.mp contact,
    readDelay_eq_ok_iff.mp delay⟩

theorem read_eq_error_iff {fault : SettingsFault} : read environment = .error fault ↔ FirstWrong environment fault := by
  constructor
  · intro failed
    rcases bind_eq_error_iff.mp failed with wrong | ⟨pixels, threshold, failed⟩
    · rcases readThreshold_eq_error_iff.mp wrong with ⟨cause, unread, rfl⟩ | ⟨pixels, number, outside, rfl⟩
      · exact .thresholdUnreadable unread
      · exact .thresholdOutOfRange number outside
    have threshold := readThreshold_eq_ok_iff.mp threshold
    rcases bind_eq_error_iff.mp failed with wrong | ⟨port, before, failed⟩
    · rw [readPort_eq, mapError_eq_error_iff] at wrong
      obtain ⟨cause, misread, rfl⟩ := wrong
      exact .portUnreadable threshold ((Whole.read_eq_error_iff (by decide)).mp misread)
    have before := readPort_eq_ok_iff.mp before
    rcases bind_eq_error_iff.mp failed with wrong | ⟨email, contact, failed⟩
    · obtain ⟨silent, rfl⟩ := readContact_eq_error_iff.mp wrong
      exact .contactMissing threshold before silent
    have contact := readContact_eq_ok_iff.mp contact
    rcases bind_eq_error_iff.mp failed with wrong | ⟨ms, _, failed⟩
    · rw [readDelay_eq, mapError_eq_error_iff] at wrong
      obtain ⟨cause, misread, rfl⟩ := wrong
      exact .delayUnreadable threshold before contact ((Whole.read_eq_error_iff (by decide)).mp misread)
    · cases failed
  · intro wrong
    cases wrong with
    | thresholdUnreadable unread =>
      rw [read, readThreshold_of_unread unread]
      rfl
    | thresholdOutOfRange number outside =>
      rw [read, readThreshold_of_outside number outside]
      rfl
    | portUnreadable threshold misread =>
      rw [read, readThreshold_eq_ok_iff.mpr threshold, readPort_eq, (Whole.read_eq_error_iff (by decide)).mpr misread]
      rfl
    | contactMissing threshold before silent =>
      rw [read, readThreshold_eq_ok_iff.mpr threshold, readPort_eq_ok_iff.mpr before,
        readContact_eq_error_iff.mpr ⟨silent, rfl⟩]
      rfl
    | delayUnreadable threshold before contact misread =>
      rw [read, readThreshold_eq_ok_iff.mpr threshold, readPort_eq_ok_iff.mpr before, readContact_eq_ok_iff.mpr contact,
        readDelay_eq, (Whole.read_eq_error_iff (by decide)).mpr misread]
      rfl

/-- Settings come out of an environment if its threshold is read as a finite distance, its port is written
in digits and at most 65535, its contact says something and its delay is written in digits and below
2 ^ 64; they are then the ones that it asks for. Otherwise what is wrong with the first of these four
is reported, and a variable that no setting is read from makes no difference. -/
theorem settings_are_checked_in_order (environment : Environment) :
    ((∃ settings, read environment = .ok settings) ↔
      (∃ pixels, AsksThreshold environment pixels) ∧ (∃ port, AsksPort environment port) ∧
      (∃ email, AsksContact environment email) ∧ ∃ ms, AsksDelay environment ms) ∧
    (∀ settings, read environment = .ok settings →
      AsksThreshold environment settings.swipeThreshold ∧ AsksPort environment settings.port ∧
      AsksContact environment settings.contactEmail ∧ AsksDelay environment settings.transitionDelay) ∧
    (∀ fault, read environment = .error fault ↔ FirstWrong environment fault) ∧
    ∀ elsewhere : Environment,
      read (fun name => if name ∈ names then environment name else elsewhere name) = read environment := by
  refine ⟨⟨?_, ?_⟩, fun _ => asked_of_read, fun _ => read_eq_error_iff, fun elsewhere => ?_⟩
  · intro ⟨settings, accepted⟩
    obtain ⟨threshold, before, contact, delay⟩ := asked_of_read accepted
    exact ⟨⟨_, threshold⟩, ⟨_, before⟩, ⟨_, contact⟩, _, delay⟩
  · intro ⟨⟨_, threshold⟩, ⟨_, before⟩, ⟨_, contact⟩, _, delay⟩
    obtain ⟨settings, accepted, _⟩ := read_of_asked threshold before contact delay
    exact ⟨settings, accepted⟩
  · simp [read, readThreshold, readPort, readContact, readDelay, nonBlank, names]

/-- The largest port and the longest delay there are, and a port one larger with a stray letter behind
it, which is not looked at any more, nor is the blank contact. -/
theorem settings_are_checked_in_order_at_limits :
    let good : Environment := fun name =>
      [("SWIPE_THRESHOLD_PX", "-0.0"), ("PORT", "+0065535"), ("CONTACT_EMAIL", "me@example.com"),
        ("TRANSITION_DELAY_MS", "18446744073709551615")].lookup name
    let bad : Environment := fun name => [("PORT", "65536x"), ("CONTACT_EMAIL", " ")].lookup name
    (∃ settings, read good = .ok settings) ∧ read bad = .error (.portUnreadable .tooLarge) := by
  intro good bad
  have distance (environment : Environment) (fine : (readThreshold environment).isOk = true) :
      ∃ pixels, AsksThreshold environment pixels := by
    cases accepted : readThreshold environment with
    | error fault =>
      rw [accepted] at fine
      cases fine
    | ok pixels => exact ⟨pixels, readThreshold_eq_ok_iff.mp accepted⟩
  obtain ⟨accepts, _⟩ := settings_are_checked_in_order good
  obtain ⟨_, _, reports, _⟩ := settings_are_checked_in_order bad
  refine ⟨accepts.mpr ⟨distance good (by decide +kernel), ⟨65535, ?_, by decide⟩,
    ⟨"me@example.com", rfl, by decide +kernel⟩, 18446744073709551615, ?_, by decide⟩, (reports _).mpr ?_⟩
  · exact ⟨by decide +kernel, List.all_eq_true.mp (by decide +kernel), by decide +kernel⟩
  · exact ⟨by decide +kernel, List.all_eq_true.mp (by decide +kernel), by decide +kernel⟩
  · obtain ⟨_, threshold⟩ := distance bad (by decide +kernel)
    have stopped : Whole.Stops 65536 (Whole.unsigned (portText bad)) .tooLarge :=
      @Whole.Stops.beyond _ _ ['6', '5', '5', '3'] '6' ['x'] (by decide +kernel)
        (List.all_eq_true.mp (by decide)) (by decide) (by decide) (by decide)
    exact .portUnreadable threshold (.stops stopped)

end Vitae.Settings
