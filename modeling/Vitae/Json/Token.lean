import Vitae.Json.Numeral
import Vitae.Text.Front
import Vitae.Text.Hex

/-! The tokens of a JSON text. Where the text stops being JSON the tokens stop as well, with
one that says so; whatever was read before it can still be used.

A text with half a surrogate pair in it is well formed but stands for no string, so such a
token has no content. -/

namespace Vitae.Json

inductive Token
  | openList
  | closeList
  | openRecord
  | closeRecord
  | comma
  | colon
  | null
  | bool (value : Bool)
  | number (value : Numeral)
  | text (content : Option String)
  | broken
deriving DecidableEq, Repr

namespace Token

/-- The white space that may stand between tokens. -/
def isGap (c : Char) : Bool :=
  c == ' ' || c == '\n' || c == '\t' || c == '\r'

/-- A piece of a quoted text: a character, or a 16-bit unit that an escape spells out. -/
inductive Piece
  | char (c : Char)
  | unit (value : Nat)

/-- The character that a one-letter escape stands for. -/
def escaped? : Char → Option Char
  | '"' => some '"'
  | '\\' => some '\\'
  | '/' => some '/'
  | 'b' => some '\x08'
  | 'f' => some '\x0c'
  | 'n' => some '\n'
  | 'r' => some '\r'
  | 't' => some '\t'
  | _ => none

/-- The quoted text up to its closing quote, and what follows. Control characters have no
place in it. -/
def span? : List Char → Option (List Char × List Char)
  | '"' :: rest => some ([], rest)
  | '\\' :: c :: rest => (span? rest).map fun (quoted, after) => ('\\' :: c :: quoted, after)
  | c :: rest =>
    if c.toNat < 0x20 then none
    else (span? rest).map fun (quoted, after) => (c :: quoted, after)
  | [] => none

/-- Takes the escapes of a quoted text apart, if all of them are good. -/
def pieces? : List Char → Option (List Piece)
  | '\\' :: 'u' :: a :: b :: c :: d :: rest => do
    let a ← Text.hexValue? a
    let b ← Text.hexValue? b
    let c ← Text.hexValue? c
    let d ← Text.hexValue? d
    let rest ← pieces? rest
    some (.unit (0x1000 * a + 0x100 * b + 0x10 * c + d) :: rest)
  | '\\' :: c :: rest => do
    let c ← escaped? c
    let rest ← pieces? rest
    some (.char c :: rest)
  | c :: rest =>
    if c = '\\' then none else (pieces? rest).map (.char c :: ·)
  | [] => some []

def isHigh (unit : Nat) : Bool := 0xD800 ≤ unit && unit < 0xDC00

def isLow (unit : Nat) : Bool := 0xDC00 ≤ unit && unit < 0xE000

/-- The characters of a quoted text. Two halves of a surrogate pair make one character, and
a half alone makes none. -/
def join? : List Piece → Option (List Char)
  | [] => some []
  | .char c :: rest => (join? rest).map (c :: ·)
  | .unit high :: .unit low :: rest =>
    if isHigh high then
      if isLow low then
        (join? rest).map
          (Char.ofNat (0x10000 + 0x400 * (high - 0xD800) + (low - 0xDC00)) :: ·)
      else none
    else if isLow high then none
    else (join? (.unit low :: rest)).map (Char.ofNat high :: ·)
  | .unit value :: rest =>
    if isHigh value || isLow value then none
    else (join? rest).map (Char.ofNat value :: ·)

/-- The token that a quoted text makes. -/
def ofQuoted (quoted : List Char) : Token :=
  match pieces? quoted with
  | none => .broken
  | some pieces => .text ((join? pieces).map String.ofList)

theorem length_span? {cs quoted after : List Char} (found : span? cs = some (quoted, after)) :
    after.length ≤ cs.length := by
  fun_induction span? cs generalizing quoted with
  | case1 => simp_all
  | case2 c rest ih =>
    obtain ⟨⟨q, a⟩, inner, same⟩ := Option.map_eq_some_iff.mp found
    cases same
    have := ih inner
    simp only [List.length_cons]
    omega
  | case3 => simp at found
  | case4 c rest _ _ _ ih =>
    obtain ⟨⟨q, a⟩, inner, same⟩ := Option.map_eq_some_iff.mp found
    cases same
    have := ih inner
    simp only [List.length_cons]
    omega
  | case5 => simp at found

/-- The letters of a word after its first, and the token that the word makes. -/
def word (letters : List Char) (token : Token) (rest : List Char) : Token × List Char :=
  match Text.after? letters rest with
  | some after => (token, after)
  | none => (.broken, [])

theorem length_word (letters : List Char) (token : Token) (rest : List Char) :
    (word letters token rest).2.length ≤ rest.length := by
  unfold word
  split
  · next found => exact Text.length_after? found
  · simp

/-- The token at the front of a text that begins with no gap, and what follows it. -/
def first (c : Char) (rest : List Char) : Token × List Char :=
  match c with
  | '[' => (.openList, rest)
  | ']' => (.closeList, rest)
  | '{' => (.openRecord, rest)
  | '}' => (.closeRecord, rest)
  | ',' => (.comma, rest)
  | ':' => (.colon, rest)
  | 'n' => word ['u', 'l', 'l'] .null rest
  | 't' => word ['r', 'u', 'e'] (.bool true) rest
  | 'f' => word ['a', 'l', 's', 'e'] (.bool false) rest
  | '"' =>
    match span? rest with
    | some (quoted, after) => (ofQuoted quoted, after)
    | none => (.broken, [])
  | c =>
    match Numeral.read? (c :: rest) with
    | some (value, after) => (.number value, after)
    | none => (.broken, [])

theorem length_first (c : Char) (rest : List Char) : (first c rest).2.length ≤ rest.length := by
  unfold first
  split
  case h_7 | h_8 | h_9 => exact length_word ..
  case h_10 =>
    split
    · next found => exact length_span? found
    · simp
  case h_11 =>
    split
    · next found => exact Numeral.length_read? found
    · simp
  all_goals exact Nat.le_refl _

/-- Reads the tokens of a text. -/
def scan : List Char → List Token
  | [] => []
  | c :: rest =>
    if isGap c then scan rest
    else
      let found := first c rest
      if found.1 = .broken then [.broken] else found.1 :: scan found.2
termination_by cs => cs.length
decreasing_by
  · simp
  · have := length_first c rest
    simp only [List.length_cons]
    omega

/-- The tokens of a text. -/
def ofText (text : String) : List Token :=
  scan text.toList

end Token

end Vitae.Json
