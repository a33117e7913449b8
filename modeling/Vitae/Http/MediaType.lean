/-! Media types as a request names them. A type, a slash and a subtype, in which a suffix
may follow a plus sign, and then parameters. Case does not matter. A name that is not
written as one, down to its parameters, names nothing. -/

namespace Vitae.MediaType

/-- The characters that names are made of. -/
def isToken (c : Char) : Bool :=
  c.isAlphanum || ['!', '#', '$', '%', '&', '\'', '*', '+', '-', '.', '^', '_', '\x60', '|', '~'].contains c

/-- The characters that a quoted value may hold. -/
def isQuotable (c : Char) : Bool :=
  0x20 ≤ c.toNat && c.toNat < 0x7F

/-- Where in a list of parameters a reader is. -/
inductive Position
  /-- Before a parameter. Spaces are passed over, and the list may end. -/
  | before
  /-- Inside a parameter's name. -/
  | name
  /-- Right after the equals sign. -/
  | valueStart
  | value
  | quoted (isEmpty : Bool)
  /-- After a quoted value. -/
  | afterQuoted

/-- Whether a list of parameters, after its first semicolon, is well written. -/
def parameters : Position → List Char → Bool
  | .before, [] => true
  | .before, c :: rest =>
    if c = ' ' then parameters .before rest
    else isToken c && parameters .name rest
  | .name, [] => false
  | .name, c :: rest =>
    if c = '=' then parameters .valueStart rest
    else isToken c && parameters .name rest
  | .valueStart, [] => true
  | .valueStart, c :: rest =>
    if c = '"' then parameters (.quoted true) rest
    else isToken c && parameters .value rest
  | .value, [] => true
  | .value, c :: rest =>
    if c = ';' then parameters .before rest
    else isToken c && parameters .value rest
  | .quoted _, [] => false
  | .quoted isEmpty, c :: rest =>
    if c = '"' ∧ isEmpty = false then parameters .afterQuoted rest
    else isQuotable c && parameters (.quoted false) rest
  | .afterQuoted, [] => true
  | .afterQuoted, c :: rest =>
    if c = ' ' then parameters .afterQuoted rest
    else c = ';' && parameters .before rest

/-- The subtype up to its last plus sign, unless it begins there, and what follows it. -/
def splitSuffix (subtype : List Char) : List Char × List Char :=
  let suffix := (subtype.reverse.takeWhile (· ≠ '+')).reverse
  let front := subtype.take (subtype.length - suffix.length - 1)
  if suffix.length < subtype.length ∧ front ≠ [] then (front, suffix) else (subtype, [])

/-- Whether a media type announces JSON. -/
def isJson (text : String) : Bool :=
  let lower := text.toList.map Char.toLower
  let kind := lower.takeWhile isToken
  match lower.dropWhile isToken with
  | '/' :: rest =>
    let subtype := rest.takeWhile isToken
    let (front, suffix) := splitSuffix subtype
    let json := ['j', 's', 'o', 'n']
    let wellWritten :=
      match rest.dropWhile isToken with
      | [] => true
      | ';' :: rest => parameters .before rest
      | _ => false
    String.ofList kind = "application" && (front = json || suffix = json) && wellWritten
  | _ => false

end Vitae.MediaType
