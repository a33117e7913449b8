/-! The light and dark appearance, remembered in a key-value store. Only the exact stored
word for dark makes the page dark; a missing or unknown value means light. -/

namespace Vitae

/-- What a browser remembers: the last value set for each key. -/
structure Preferences where
  entries : List (String × String) := []
deriving DecidableEq, Repr

namespace Preferences

def get? (store : Preferences) (key : String) : Option String :=
  store.entries.lookup key

def set (store : Preferences) (key value : String) : Preferences :=
  { entries := (key, value) :: store.entries }

theorem get?_set_self (store : Preferences) (key value : String) :
    (store.set key value).get? key = some value := by
  simp [get?, set]

theorem get?_set_of_ne (store : Preferences) {key other : String} (value : String)
    (different : other ≠ key) : (store.set key value).get? other = store.get? other := by
  have : (other == key) = false := by simpa using different
  simp [get?, set, List.lookup_cons, this]

end Preferences

inductive Theme
  | light
  | dark
deriving DecidableEq, Repr

namespace Theme

/-- The key under which the appearance is remembered. -/
def key : String := "darkMode"

/-- The word that is stored for an appearance. -/
def stored : Theme → String
  | .light => "disabled"
  | .dark => "enabled"

def name : Theme → String
  | .light => "light"
  | .dark => "dark"

/-- The icon on the button that changes the appearance. -/
def icon : Theme → String
  | .light => "fa-moon"
  | .dark => "fa-sun"

/-- The class that the page body carries. -/
def bodyClass? : Theme → Option String
  | .light => none
  | .dark => some "dark-mode"

def other : Theme → Theme
  | .light => .dark
  | .dark => .light

/-- The appearance that a stored value stands for. -/
def ofStored (value : Option String) : Theme :=
  if value = some dark.stored then .dark else .light

def load (store : Preferences) : Theme :=
  ofStored (store.get? key)

/-- Changes the appearance and remembers the new one. -/
def toggle (theme : Theme) (store : Preferences) : Theme × Preferences :=
  (theme.other, store.set key theme.other.stored)

end Theme

/-- A page's appearance beside the browser's memory. Either can change without the
other. -/
structure Appearance where
  theme : Theme
  store : Preferences
deriving DecidableEq, Repr

namespace Appearance

/-- The appearance in a browser that remembers nothing. -/
def initial : Appearance := { theme := Theme.load {}, store := {} }

inductive Action
  | set (key value : String)
  | get (key : String)
  | load
  | toggle
deriving DecidableEq, Repr

/-- Carries out one action, with the value that was asked for. Setting a value does not
change how the page looks until the appearance is loaded. -/
def act (appearance : Appearance) : Action → Appearance × Option String
  | .set key value => ({ appearance with store := appearance.store.set key value }, none)
  | .get key => (appearance, appearance.store.get? key)
  | .load => ({ appearance with theme := Theme.load appearance.store }, none)
  | .toggle =>
    let (theme, store) := appearance.theme.toggle appearance.store
    ({ theme, store }, none)

end Appearance

end Vitae
