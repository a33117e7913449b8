import Vitae.Json.Shape
import Vitae.Mail.Dialog
import Vitae.Section.Router

/-! The requests that carry a body, and how each is read from it. -/

namespace Vitae

open Json (Reader)
open Json.Shape

/-- The position a reader kept while an informational section was showing. -/
def indexSlot : Slot := .withFallback "index" (optional index) none

def TouchPoint.read : Reader TouchPoint := fun document =>
  (record [.required "x" coordinate, .required "y" coordinate] document).map
    fun (x, y, ()) => { x, y }

structure GestureRequest where
  current : String
  index : Option Nat
  start : TouchPoint
  finish : TouchPoint

def GestureRequest.read : Reader GestureRequest := fun document =>
  (record
    [.required "current" text, indexSlot, .required "start" TouchPoint.read,
     .required "end" TouchPoint.read] document).map
    fun (current, index, start, finish, ()) => { current, index, start, finish }

structure KeyRequest where
  current : String
  index : Option Nat
  key : String
deriving DecidableEq, Repr

def KeyRequest.read : Reader KeyRequest := fun document =>
  (record [.required "current" text, indexSlot, .required "key" text] document).map
    fun (current, index, key, ()) => { current, index, key }

def Source.read : Reader Source :=
  choice
    [("link", .carrying fun document => (text document).map .link),
     ("dropdown", .plain .dropdown)]

structure SelectRequest where
  current : String
  index : Option Nat
  target : String
  source : Option Source
deriving DecidableEq, Repr

def SelectRequest.read : Reader SelectRequest := fun document =>
  (record
    [.required "current" text, indexSlot, .required "target" text,
     .withFallback "source" (optional Source.read) none] document).map
    fun (current, index, target, source, ()) => { current, index, target, source }

structure BarsRequest where
  styles : List String
deriving DecidableEq, Repr

def BarsRequest.read : Reader BarsRequest := fun document =>
  (record [.required "styles" (list text)] document).map fun (styles, ()) => { styles }

structure ThemeRequest where
  /-- What the browser has stored for the appearance. -/
  stored : Option String
  toggle : Bool
deriving DecidableEq, Repr

def ThemeRequest.read : Reader ThemeRequest := fun document =>
  (record
    [.withFallback "stored" (optional text) none, .withFallback "toggle" bool false]
    document).map fun (stored, toggle, ()) => { stored, toggle }

structure TimelineRequest where
  expanded : Bool
deriving DecidableEq, Repr

def TimelineRequest.read : Reader TimelineRequest := fun document =>
  (record [.required "expanded" bool] document).map fun (expanded, ()) => { expanded }

def ContactForm.read : Reader ContactForm := fun document =>
  (record
    [.required "name" text, .required "email" text, .required "subject" text,
     .required "message" text] document).map
    fun (name, email, subject, message, ()) => { name, email, subject, message }

def ClickTarget.read : Reader ClickTarget :=
  choice [("backdrop", .plain .backdrop), ("dialog", .plain .dialog)]

structure DialogRequest where
  isOpen : Bool
  click : Option ClickTarget
deriving DecidableEq, Repr

def DialogRequest.read : Reader DialogRequest := fun document =>
  (record
    [.required "open" bool, .withFallback "click" (optional ClickTarget.read) none]
    document).map fun (isOpen, click, ()) => { isOpen, click }

end Vitae
