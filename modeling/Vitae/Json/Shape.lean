import Vitae.Json.Document

/-! Reading a document against the shape that is expected of it, from the left and up to the
first fault: either the text stops being JSON, or it is JSON of the wrong shape.

A record can be given by its named fields in any order, or as a list of its values in the
order of its slots. Fields that no slot is named for are passed over, once they are known to
be whole. -/

namespace Vitae.Json

inductive BodyFault
  /-- The text is not JSON from here on. -/
  | malformed
  /-- The text is JSON, but not what was asked for. -/
  | mismatch
deriving DecidableEq, Repr

/-- A way to read a document. -/
abbrev Reader (α : Type) := Document → Except BodyFault α

namespace Shape

/-- The fault of a document that is of another kind than expected. A list or a record is
refused unread, a text or a number only once it is known to be one. -/
def refuse : Document → BodyFault
  | .cut => .malformed
  | .text none => .malformed
  | .number value => if value.coordinate?.isSome then .mismatch else .malformed
  | _ => .mismatch

def text : Reader String
  | .text (some content) => .ok content
  | document => .error (refuse document)

def bool : Reader Bool
  | .bool value => .ok value
  | document => .error (refuse document)

def coordinate : Reader Float
  | .number value =>
    match value.coordinate? with
    | some x => .ok x
    | none => .error .malformed
  | document => .error (refuse document)

def index : Reader Nat
  | .number value =>
    match value.index? with
    | some n => .ok n
    | none => .error (refuse (.number value))
  | document => .error (refuse document)

/-- A value or null. -/
def optional {α : Type} (read : Reader α) : Reader (Option α)
  | .null => .ok none
  | document => (read document).map some

/-- A list of values of one shape. -/
def list {α : Type} (read : Reader α) : Reader (List α)
  | .list items => items.mapM read
  | document => .error (refuse document)

/-- One of the names that a choice is made by: a name alone, or one that carries a value. -/
inductive Case (α : Type)
  | plain (value : α)
  | carrying (read : Reader α)

/-- A choice among named cases: the name of a plain one, or a record of one field with the
name of any case. A plain case carries null there. -/
def choice {α : Type} (cases : List (String × Case α)) : Reader α
  | .text (some name) =>
    match cases.lookup name with
    | some (.plain value) => .ok value
    | _ => .error .mismatch
  | .record ((.text (some name), payload) :: others) =>
    match cases.lookup name with
    | none => .error .mismatch
    | some case_ => do
      let value ← match case_, payload with
        | .plain value, .null => .ok value
        | .plain _, payload => .error (refuse payload)
        | .carrying read, payload => read payload
      if others.isEmpty then .ok value else .error .malformed
  | .record ((name, _) :: _) => .error (refuse name)
  | _ => .error .malformed

/-- A field of a record: its name, how its value is read, and the value that stands for it
when it is left out, if it may be. -/
structure Slot where
  name : String
  Content : Type
  read : Reader Content
  fallback : Option Content

/-- A field that has to be there. -/
def Slot.required {α : Type} (name : String) (read : Reader α) : Slot :=
  ⟨name, α, read, none⟩

/-- A field that stands for `fallback` when it is left out. -/
def Slot.withFallback {α : Type} (name : String) (read : Reader α) (fallback : α) : Slot :=
  ⟨name, α, read, some fallback⟩

/-- The contents of all slots of a record. -/
def Filled : List Slot → Type
  | [] => Unit
  | slot :: slots => slot.Content × Filled slots

/-- The contents of the slots met so far. -/
def Partly : List Slot → Type
  | [] => Unit
  | slot :: slots => Option slot.Content × Partly slots

def nothing : (slots : List Slot) → Partly slots
  | [] => ()
  | _ :: slots => (none, nothing slots)

/-- Puts a value into the slot of its name. A slot is filled once only, and a value without
a slot has to be whole. -/
def place (name : String) (value : Document) :
    (slots : List Slot) → Partly slots → Except BodyFault (Partly slots)
  | [], () => if value.whole then .ok () else .error .malformed
  | slot :: slots, (content, rest) =>
    if slot.name = name then
      match content with
      | some _ => .error .mismatch
      | none => (slot.read value).map fun read => (some read, rest)
    else (place name value slots rest).map fun rest => (content, rest)

/-- Puts named fields into their slots, one after the other. -/
def placeAll (slots : List Slot) :
    List (Document × Document) → Partly slots → Except BodyFault (Partly slots)
  | [], met => .ok met
  | (.text (some name), value) :: fields, met => do
    let met ← place name value slots met
    placeAll slots fields met
  | _ :: _, _ => .error .malformed

/-- Fills the slots that were not met. -/
def complete : (slots : List Slot) → Partly slots → Except BodyFault (Filled slots)
  | [], () => .ok ()
  | slot :: slots, (content, rest) =>
    match content.or slot.fallback with
    | none => .error .mismatch
    | some value => (complete slots rest).map fun rest => (value, rest)

/-- Fills the slots from values in their order. -/
def inOrder : (slots : List Slot) → List Document → Except BodyFault (Filled slots)
  | [], [] => .ok ()
  | [], _ :: _ => .error .malformed
  | slot :: slots, [] =>
    match slot.fallback with
    | none => .error .mismatch
    | some value => (inOrder slots []).map fun rest => (value, rest)
  | slot :: slots, item :: items => do
    let value ← slot.read item
    let rest ← inOrder slots items
    .ok (value, rest)

/-- A record with these slots. -/
def record (slots : List Slot) : Reader (Filled slots)
  | .record fields => do
    let met ← placeAll slots fields (nothing slots)
    complete slots met
  | .list items => inOrder slots items
  | document => .error (refuse document)

end Shape

end Vitae.Json
