import Retry.Json.Basic
import Retry.Text.Digits

/-! Reading a document. A fault names what was expected where the text went wrong.
`Json.read` accepts one document; `Document.of` also keeps what an array or object
at the top holds before its first fault, for decoders that judge members as they
arrive. Both take no more steps than the text has characters. -/
namespace Retry.Json

/-- The reasons for which a text is not a document. -/
inductive Fault where
  | endInValue
  | endInList
  | endInObject
  | endInString
  | expectedValue
  | expectedIdentifier
  | expectedColon
  | expectedListEnd
  | expectedObjectEnd
  | trailingComma
  | trailingCharacters
  | keyNotString
  | invalidNumber
  | numberOutOfRange
  | invalidEscape
  | controlCharacter
  | loneSurrogate
  | unfinishedEscape
  | tooDeep
deriving DecidableEq

def Fault.message : Fault → String
  | .endInValue => "EOF while parsing a value"
  | .endInList => "EOF while parsing a list"
  | .endInObject => "EOF while parsing an object"
  | .endInString => "EOF while parsing a string"
  | .expectedValue => "expected value"
  | .expectedIdentifier => "expected ident"
  | .expectedColon => "expected `:`"
  | .expectedListEnd => "expected `,` or `]`"
  | .expectedObjectEnd => "expected `,` or `\x7d`"
  | .trailingComma => "trailing comma"
  | .trailingCharacters => "trailing characters"
  | .keyNotString => "key must be a string"
  | .invalidNumber => "invalid number"
  | .numberOutOfRange => "number out of range"
  | .invalidEscape => "invalid escape"
  | .controlCharacter => "control character (\\u0000-\\u001F) found while parsing a string"
  | .loneSurrogate => "lone leading surrogate in hex escape"
  | .unfinishedEscape => "unexpected end of hex escape"
  | .tooDeep => "recursion limit exceeded"

/-- What is read off the front of a text, and the rest. -/
abbrev Step (α : Type) := Except Fault (α × List Char)

def isBlank (c : Char) : Bool := c == ' ' || c == '\n' || c == '\t' || c == '\r'

def skipBlank (cs : List Char) : List Char := cs.dropWhile isBlank

def literal (value : Json) : List Char → List Char → Step Json
  | [], cs => .ok (value, cs)
  | _ :: _, [] => .error .endInValue
  | e :: es, c :: cs => if c = e then literal value es cs else .error .expectedIdentifier

/-- One digit or more, after a point or an exponent mark. -/
def someDigits (cs : List Char) : Step (List Char) :=
  match cs.takeWhile Char.isDigit, cs.dropWhile Char.isDigit with
  | [], [] => .error .endInValue
  | [], _ :: _ => .error .invalidNumber
  | ds, rest => .ok (ds, rest)

/-- The digits before the point: no zero leads another digit. -/
def wholeDigits : List Char → Step (List Char)
  | [] => .error .endInValue
  | '0' :: rest =>
    if rest.head?.any Char.isDigit then .error .invalidNumber else .ok (['0'], rest)
  | c :: rest =>
    if c.isDigit then .ok ((c :: rest).takeWhile Char.isDigit, (c :: rest).dropWhile Char.isDigit)
    else .error .invalidNumber

def fraction : List Char → Step (Option (List Char))
  | '.' :: rest => (someDigits rest).map fun (ds, rest) => (some ds, rest)
  | cs => .ok (none, cs)

def exponent : List Char → Step (Option Int)
  | c :: rest =>
    if c = 'e' ∨ c = 'E' then
      let (negative, rest) : Bool × List Char := match rest with
        | '-' :: r => (true, r)
        | '+' :: r => (false, r)
        | r => (false, r)
      (someDigits rest).map fun (ds, rest) =>
        (some (if negative then -(Text.digitsValue ds : Int) else Text.digitsValue ds), rest)
    else .ok (none, c :: rest)
  | [] => .ok (none, [])

def ofDecimal (negative : Bool) (d : Decimal) : Except Fault Json :=
  match d.toBinary64 negative with
  | .infinite _ => .error .numberOutOfRange
  | x => .ok (.float x)

/-- A numeral without point and exponent is a whole number where it fits;
negative zero is not one. -/
def ofNumeral (negative : Bool) (n : Nat) : Except Fault Json :=
  if negative then
    if n ≠ 0 ∧ n ≤ 2 ^ 63 then .ok (.integer (-n)) else ofDecimal true ⟨n, 0⟩
  else if n < 2 ^ 64 then .ok (.integer n)
  else ofDecimal false ⟨n, 0⟩

def unsigned (negative : Bool) (cs : List Char) : Except Fault (Json × List Char) := do
  let (whole, cs) ← wholeDigits cs
  let (frac, cs) ← fraction cs
  let (power, cs) ← exponent cs
  let value ← match frac, power with
    | none, none => ofNumeral negative (Text.digitsValue whole)
    | frac, power =>
      let frac := frac.getD []
      ofDecimal negative ⟨Text.digitsValue (whole ++ frac), power.getD 0 - frac.length⟩
  pure (value, cs)

/-- Four hexadecimal digits. -/
def codeUnit : List Char → Step Nat
  | a :: b :: c :: d :: rest =>
    match Text.hexValue? a, Text.hexValue? b, Text.hexValue? c, Text.hexValue? d with
    | some a, some b, some c, some d => .ok (((a * 16 + b) * 16 + c) * 16 + d, rest)
    | _, _, _, _ => .error .invalidEscape
  | _ => .error .endInString

/-- The character of one or, for a surrogate pair, two code units. -/
def unicodeEscape (cs : List Char) : Except Fault (Char × List Char) := do
  let (unit, cs) ← codeUnit cs
  if 0xDC00 ≤ unit ∧ unit < 0xE000 then .error .loneSurrogate
  else if 0xD800 ≤ unit ∧ unit < 0xDC00 then
    match cs with
    | [] => .error .endInString
    | '\\' :: [] => .error .endInString
    | '\\' :: 'u' :: cs =>
      let (low, cs) ← codeUnit cs
      if 0xDC00 ≤ low ∧ low < 0xE000 then
        pure (Char.ofNat (0x10000 + (unit - 0xD800) * 0x400 + (low - 0xDC00)), cs)
      else .error .loneSurrogate
    | _ => .error .unfinishedEscape
  else pure (Char.ofNat unit, cs)

/-- The characters up to the closing quote, each step shortening the text. -/
def stringBody : Nat → List Char → List Char → Step String
  | 0, _, _ => .error .endInString
  | _ + 1, _, [] => .error .endInString
  | _ + 1, acc, '"' :: cs => .ok (String.ofList acc.reverse, cs)
  | _ + 1, _, '\\' :: [] => .error .endInString
  | fuel + 1, acc, '\\' :: 'u' :: cs =>
    match unicodeEscape cs with
    | .ok (c, cs) => stringBody fuel (c :: acc) cs
    | .error fault => .error fault
  | fuel + 1, acc, '\\' :: c :: cs =>
    match c with
    | '"' => stringBody fuel ('"' :: acc) cs
    | '\\' => stringBody fuel ('\\' :: acc) cs
    | '/' => stringBody fuel ('/' :: acc) cs
    | 'b' => stringBody fuel ('\x08' :: acc) cs
    | 'f' => stringBody fuel ('\x0c' :: acc) cs
    | 'n' => stringBody fuel ('\n' :: acc) cs
    | 'r' => stringBody fuel ('\r' :: acc) cs
    | 't' => stringBody fuel ('\t' :: acc) cs
    | _ => .error .invalidEscape
  | fuel + 1, acc, c :: cs =>
    if c.toNat < 32 then .error .controlCharacter else stringBody fuel (c :: acc) cs

/-- Where a list of items or members stops before its end: the fault, and in an
object the key whose value was being read and the character the value opens with. -/
structure Cut where
  fault : Fault
  key : Option String
  opening : Option Char

/-- What a list holds before its end or its first fault. -/
structure Body (α : Type) where
  contents : List α
  rest : Except Cut (List Char)

def Body.stop {α : Type} (fault : Fault) : Body α := ⟨[], .error ⟨fault, none, none⟩⟩

def Body.cons {α : Type} (a : α) (b : Body α) : Body α := ⟨a :: b.contents, b.rest⟩

def Body.step {α : Type} (f : List α → Json) (b : Body α) : Step Json :=
  match b.rest with
  | .ok rest => .ok (f b.contents, rest)
  | .error cut => .error cut.fault

/-- Past the comma that must precede every element but the first. -/
def element (first : Bool) (close : Char) (expected : Fault) (cs : List Char) :
    Except Fault (Option (List Char)) :=
  match skipBlank cs with
  | [] => .error .endInValue
  | c :: rest =>
    if c = close then .ok none
    else if first then .ok (some (c :: rest))
    else if c ≠ ',' then .error expected
    else match skipBlank rest with
      | [] => .error .endInValue
      | c :: rest => if c = close then .error .trailingComma else .ok (some (c :: rest))

def key (fuel : Nat) : List Char → Step String
  | '"' :: cs =>
    match stringBody fuel [] cs with
    | .error fault => .error fault
    | .ok (name, cs) =>
      match skipBlank cs with
      | ':' :: cs => .ok (name, cs)
      | [] => .error .endInObject
      | _ => .error .expectedColon
  | _ => .error .keyNotString

mutual

/-- One value. `depth` bounds how many arrays and objects may still open. -/
def value (depth : Nat) : Nat → List Char → Step Json
  | 0, _ => .error .endInValue
  | fuel + 1, cs =>
    match skipBlank cs with
    | [] => .error .endInValue
    | 'n' :: cs => literal .null ['u', 'l', 'l'] cs
    | 't' :: cs => literal (.bool true) ['r', 'u', 'e'] cs
    | 'f' :: cs => literal (.bool false) ['a', 'l', 's', 'e'] cs
    | '-' :: cs => unsigned true cs
    | '"' :: cs => (stringBody fuel [] cs).map fun (s, rest) => (.string s, rest)
    | '[' :: cs => if depth ≤ 1 then .error .tooDeep else (items (depth - 1) true fuel cs).step .array
    | '\x7b' :: cs => if depth ≤ 1 then .error .tooDeep else (members (depth - 1) true fuel cs).step .object
    | c :: cs => if c.isDigit then unsigned false (c :: cs) else .error .expectedValue

def items (depth : Nat) (first : Bool) : Nat → List Char → Body Json
  | 0, _ => .stop .endInList
  | fuel + 1, cs =>
    if (skipBlank cs).isEmpty then .stop .endInList
    else match element first ']' .expectedListEnd cs with
      | .error fault => .stop fault
      | .ok none => ⟨[], .ok ((skipBlank cs).drop 1)⟩
      | .ok (some cs) =>
        match value depth fuel cs with
        | .error fault => ⟨[], .error ⟨fault, none, cs.head?⟩⟩
        | .ok (item, cs) => (items depth false fuel cs).cons item

def members (depth : Nat) (first : Bool) : Nat → List Char → Body (String × Json)
  | 0, _ => .stop .endInObject
  | fuel + 1, cs =>
    if (skipBlank cs).isEmpty then .stop .endInObject
    else match element first '\x7d' .expectedObjectEnd cs with
      | .error fault => .stop fault
      | .ok none => ⟨[], .ok ((skipBlank cs).drop 1)⟩
      | .ok (some cs) =>
        match key fuel cs with
        | .error fault => .stop fault
        | .ok (name, cs) =>
          match value depth fuel cs with
          | .error fault => ⟨[], .error ⟨fault, some name, (skipBlank cs).head?⟩⟩
          | .ok (item, cs) => (members depth false fuel cs).cons (name, item)

end

/-- Nested arrays and objects up to this many, less one, are read. -/
def depthLimit : Nat := 128

/-- A text as far as it can be read: a document and what is wrong after it, or a
top array or object cut short, or nothing. -/
inductive Document where
  | whole (value : Json) (trailing : Option Fault)
  | cutArray (items : List Json) (cut : Cut)
  | cutObject (members : List (String × Json)) (cut : Cut)
  | nothing (fault : Fault)

def Document.ended (value : Json) (rest : List Char) : Document :=
  .whole value (if (skipBlank rest).isEmpty then none else some .trailingCharacters)

def Document.of (text : String) : Document :=
  let cs := text.toList
  let fuel := cs.length + 1
  match skipBlank cs with
  | '[' :: cs =>
    let body := items (depthLimit - 1) true fuel cs
    match body.rest with
    | .ok rest => .ended (.array body.contents) rest
    | .error cut => .cutArray body.contents cut
  | '\x7b' :: cs =>
    let body := members (depthLimit - 1) true fuel cs
    match body.rest with
    | .ok rest => .ended (.object body.contents) rest
    | .error cut => .cutObject body.contents cut
  | cs =>
    match value depthLimit fuel cs with
    | .ok (v, rest) => .ended v rest
    | .error fault => .nothing fault

/-- The document that a whole text holds. -/
def read (text : String) : Except Fault Json :=
  match Document.of text with
  | .whole value none => .ok value
  | .whole _ (some fault) => .error fault
  | .cutArray _ cut => .error cut.fault
  | .cutObject _ cut => .error cut.fault
  | .nothing fault => .error fault

end Retry.Json
