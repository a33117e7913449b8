import Vitae.Site.Fault
import Vitae.Site.Requests
import Vitae.Site.Startup
import Vitae.Skill.Bar
import Vitae.Skill.Chart
import Vitae.Theme
import Vitae.Timeline

/-! The answers to everything on the page but navigation: its appearance, the timeline, the
skills and the contact form. -/

namespace Vitae

structure ThemeReply where
  theme : Theme
  /-- What the browser is to store. -/
  stored : String
deriving DecidableEq, Repr

def ThemeReply.toJson (reply : ThemeReply) : Json :=
  .record
    [("mode", .text reply.theme.name),
     ("stored", .text reply.stored),
     ("icon_class", .text reply.theme.icon),
     ("body_class", .ofText? reply.theme.bodyClass?)]

/-- The appearance for what a browser has stored, changed if it asks for that. -/
def ThemeRequest.answer (request : ThemeRequest) : ThemeReply :=
  let store : Preferences :=
    match request.stored with
    | none => {}
    | some value => Preferences.set {} Theme.key value
  let loaded := Theme.load store
  let theme := if request.toggle then (loaded.toggle store).1 else loaded
  { theme, stored := theme.stored }

def TimelineEntry.toJson (entry : TimelineEntry) : Json :=
  .record
    [("expanded", .bool entry.expanded),
     ("label", .text entry.label),
     ("icon_rotation", .text entry.iconRotation)]

/-- The entry after its button was pressed. -/
def TimelineRequest.answer (request : TimelineRequest) : TimelineEntry :=
  TimelineEntry.toggle { expanded := request.expanded }

structure BarsReply where
  /-- The width of each bar whose style has one. -/
  widths : List (Option String)
deriving DecidableEq, Repr

def BarsReply.toJson (reply : BarsReply) : Json :=
  .record [("widths", .list (reply.widths.map .ofText?))]

/-- The widths of bars with these styles. -/
def BarsRequest.answer (request : BarsRequest) : BarsReply :=
  { widths := request.styles.map SkillBar.width? }

structure ContactReply where
  handoff : Handoff
  overflow : Overflow
deriving DecidableEq, Repr

def ContactReply.toJson (reply : ContactReply) : Json :=
  .record
    [("mailto", .text reply.handoff.link),
     ("notice", .text reply.handoff.notice),
     ("body_overflow", .text reply.overflow.css)]

/-- Sends a form from the dialog that shows it. -/
def Site.contact (site : Site) (form : ContactForm) : Except SiteFault ContactReply :=
  match (Dialog.showing form).submit site.settings.contactEmail with
  | (_, .error fault) => .error (.ofContact fault)
  | (dialog, .ok handoff) => .ok { handoff, overflow := dialog.overflow }

structure DialogReply where
  isOpen : Bool
  overflow : Overflow
deriving DecidableEq, Repr

def DialogReply.toJson (reply : DialogReply) : Json :=
  .record [("open", .bool reply.isOpen), ("body_overflow", .text reply.overflow.css)]

/-- The dialog after a click, if there was one. -/
def DialogRequest.answer (request : DialogRequest) : DialogReply :=
  let dialog : Dialog := if request.isOpen then Dialog.present {} else {}
  let clicked :=
    match request.click with
    | none => dialog
    | some target => dialog.click target
  { isOpen := clicked.isOpen, overflow := clicked.overflow }

end Vitae
