import Vitae.Json.Token

/-! The value at the front of a JSON text, as a tree that is cut off where the text stops
being JSON. A reader that walks the tree from the left meets the cut exactly when it would
have met the fault in the text, so it can tell which of two faults comes first. Whatever
follows the value is not looked at.

The tree is built by recursion on the tokens. What is still open is a stack of frames, the
innermost first, and a cut closes all of them. -/

namespace Vitae.Json

inductive Document
  | null
  | bool (value : Bool)
  | number (value : Numeral)
  /-- A text; one with half a surrogate pair in it has no content. -/
  | text (content : Option String)
  | list (items : List Document)
  /-- The fields as they come, each with the document in the place of its name. -/
  | record (fields : List (Document × Document))
  | cut

namespace Document

/-- A list or a record that has not ended yet. -/
inductive Frame
  /-- The items so far, the latest first. -/
  | list (items : List Document)
  /-- The fields so far, the latest first, and the name of the next. -/
  | record (fields : List (Document × Document)) (name : Document)

/-- Closes every open frame over a value that is the last of each. -/
def closeAll : List Frame → Document → Document
  | [], value => value
  | .list items :: frames, value => closeAll frames (.list (value :: items).reverse)
  | .record fields name :: frames, value =>
    closeAll frames (.record ((name, value) :: fields).reverse)

/-- The value that a token is by itself. Opening brackets count as empty values, which is
what there is to know about one in the place of a name. -/
def ofToken : Token → Document
  | .null => .null
  | .bool value => .bool value
  | .number value => .number value
  | .text content => .text content
  | .openList => .list []
  | .openRecord => .record []
  | _ => .cut

/-- Cuts the text off where a field should begin with `token`. -/
def cutName (fields : List (Document × Document)) (frames : List Frame) (token : Token) :
    Document :=
  closeAll (.record fields (ofToken token) :: frames) .cut

mutual

/-- Reads a value inside the open frames. -/
def value (frames : List Frame) : List Token → Document
  | .null :: rest => afterValue .null frames rest
  | .bool b :: rest => afterValue (.bool b) frames rest
  | .number n :: rest => afterValue (.number n) frames rest
  | .text content :: rest => afterValue (.text content) frames rest
  | .openList :: .closeList :: rest => afterValue (.list []) frames rest
  | .openList :: rest => value (.list [] :: frames) rest
  | .openRecord :: .closeRecord :: rest => afterValue (.record []) frames rest
  | .openRecord :: .text name :: .colon :: rest =>
    value (.record [] (.text name) :: frames) rest
  | .openRecord :: rest => cutName [] frames (rest.headD .broken)
  | _ => closeAll frames .cut

/-- Goes on after a value inside the open frames. -/
def afterValue (done : Document) : List Frame → List Token → Document
  | [], _ => done
  | .list items :: frames, .comma :: rest => value (.list (done :: items) :: frames) rest
  | .list items :: frames, .closeList :: rest =>
    afterValue (.list (done :: items).reverse) frames rest
  | .list items :: frames, _ => closeAll (.list (done :: items) :: frames) .cut
  | .record fields name :: frames, .comma :: .text next :: .colon :: rest =>
    value (.record ((name, done) :: fields) (.text next) :: frames) rest
  | .record fields name :: frames, .comma :: rest =>
    cutName ((name, done) :: fields) frames (rest.headD .broken)
  | .record fields name :: frames, .closeRecord :: rest =>
    afterValue (.record ((name, done) :: fields).reverse) frames rest
  | .record fields name :: frames, _ => cutName ((name, done) :: fields) frames .broken

end

/-- The document at the front of a text. -/
def ofText (text : String) : Document :=
  value [] (Token.ofText text)

mutual

/-- Whether a document is not cut off anywhere. -/
def whole : Document → Bool
  | .cut => false
  | .list items => wholeItems items
  | .record fields => wholeFields fields
  | _ => true

def wholeItems : List Document → Bool
  | [] => true
  | item :: rest => item.whole && wholeItems rest

def wholeFields : List (Document × Document) → Bool
  | [] => true
  | (name, value) :: rest => name.whole && value.whole && wholeFields rest

end

end Document

end Vitae.Json
