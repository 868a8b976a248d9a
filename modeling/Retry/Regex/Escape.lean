import Retry.Regex.Tree
import Retry.Text.Blank
import Retry.Text.Digits

/-! The pieces of a pattern that start with a backslash, and counts. In an extended
pattern blanks and comments may stand between most characters; `x` says whether the
pattern is extended. -/
namespace Retry.Regex

/-- What is read off the front of a pattern, and the rest. -/
abbrev Step (α : Type) := Except Fault (α × List Char)

/-- Past blanks and comments, starting inside a comment or not. -/
def skipFrom (comment : Bool) : List Char → List Char
  | [] => []
  | c :: cs =>
    if comment then skipFrom (c != '\n') cs
    else if Text.isBlank c then skipFrom false cs
    else if c = '#' then skipFrom true cs
    else c :: cs

def skip (x : Bool) (cs : List Char) : List Char := if x then skipFrom false cs else cs

theorem length_skipFrom_le (comment : Bool) (cs : List Char) :
    (skipFrom comment cs).length ≤ cs.length := by
  induction cs generalizing comment with
  | nil => simp [skipFrom]
  | cons c cs ih =>
    simp only [skipFrom, List.length_cons]
    split
    · exact Nat.le_succ_of_le (ih _)
    · split
      · exact Nat.le_succ_of_le (ih _)
      · split
        · exact Nat.le_succ_of_le (ih _)
        · simp

theorem length_skip_le (x : Bool) (cs : List Char) : (skip x cs).length ≤ cs.length := by
  unfold skip
  split
  · exact length_skipFrom_le ..
  · exact Nat.le_refl _

/-- The character with a code, if there is one. -/
def scalar (n : Nat) (cs : List Char) : Step Char :=
  if n < 0xD800 ∨ (0xE000 ≤ n ∧ n ≤ 0x10FFFF) then .ok (Char.ofNat n, cs) else .error .hexInvalid

/-- A fixed number of hexadecimal digits. -/
def hexDigits (x : Bool) : Nat → Nat → List Char → Step Nat
  | 0, value, cs => .ok (value, cs)
  | _ + 1, _, [] => .error .escapeUnfinished
  | more + 1, value, c :: cs =>
    match Text.hexValue? c with
    | none => .error .hexDigit
    | some d => hexDigits x more (16 * value + d) (skip x cs)

/-- Hexadecimal digits up to a closing brace. -/
def hexBraced (x : Bool) (value : Option Nat) (cs : List Char) : Step Nat :=
  match cs with
  | [] => .error .escapeUnfinished
  | '\x7d' :: cs =>
    match value with
    | none => .error .hexEmpty
    | some n => .ok (n, skip x cs)
  | c :: cs =>
    match Text.hexValue? c with
    | none => .error .hexDigit
    | some d => hexBraced x (some (16 * value.getD 0 + d)) (skip x cs)
termination_by cs.length
decreasing_by
  have := length_skip_le x cs
  simp only [List.length_cons]
  omega

/-- A character by its code; `cs` starts after the letter that announces `count`
digits. -/
def hexEscape (x : Bool) (count : Nat) (cs : List Char) : Except Fault (Literal × List Char) := do
  match skip x cs with
  | [] => .error .escapeUnfinished
  | '\x7b' :: cs =>
    let (n, cs) ← hexBraced x none (skip x cs)
    let (c, cs) ← scalar n cs
    pure (⟨c, false⟩, cs)
  | cs =>
    let (n, cs) ← hexDigits x count 0 cs
    let (c, cs) ← scalar n cs
    pure (⟨c, count == 2⟩, cs)

/-- The characters up to a closing brace. -/
def braced (x : Bool) (cs : List Char) : Step (List Char) :=
  match cs with
  | [] => .error .escapeUnfinished
  | '\x7d' :: cs => .ok ([], cs)
  | c :: cs =>
    match braced x (skip x cs) with
    | .ok (name, rest) => .ok (c :: name, rest)
    | .error fault => .error fault
termination_by cs.length
decreasing_by
  have := length_skip_le x cs
  simp only [List.length_cons]
  omega

/-- A text before and after the first occurrence of a separator. -/
def splitFirst (separator : List Char) : List Char → Option (List Char × List Char)
  | [] => none
  | c :: cs =>
    if separator.isPrefixOf (c :: cs) then some ([], (c :: cs).drop separator.length)
    else (splitFirst separator cs).map fun (before, after) => (c :: before, after)

def propertyName (name : List Char) : PropertyName :=
  match (splitFirst ['!', '='] name).or ((splitFirst [':'] name).or (splitFirst ['='] name)) with
  | some (property, value) => .value (String.ofList property) (String.ofList value)
  | none => .single (String.ofList name)

/-- The name of a property: one letter, or any text in braces. -/
def property (x : Bool) (cs : List Char) : Step PropertyName :=
  match skip x cs with
  | [] => .error .escapeUnfinished
  | '\x7b' :: cs => (braced x (skip x cs)).map fun (name, cs) => (propertyName name, cs)
  | '\\' :: _ => .error .classNameInvalid
  | c :: cs => .ok (.single (String.singleton c), cs)

def isBoundaryLetter (c : Char) : Bool := c.isAlpha || c == '-'

def boundaryName (x : Bool) (cs : List Char) : List Char × List Char :=
  match cs with
  | [] => ([], [])
  | c :: cs =>
    if isBoundaryLetter c then
      let (name, rest) := boundaryName x (skip x cs)
      (c :: name, rest)
    else ([], c :: cs)
termination_by cs.length
decreasing_by
  have := length_skip_le x cs
  simp only [List.length_cons]
  omega

/-- A word boundary, with its name in braces if one follows. Braces that do not
start a name are left to be read as a count. -/
def boundary (x : Bool) (cs : List Char) : Step Assertion :=
  match cs with
  | '\x7b' :: after =>
    match skip x after with
    | [] => .error .boundaryOrCountUnclosed
    | c :: rest =>
      if !isBoundaryLetter c then .ok (.wordBoundary, cs)
      else match boundaryName x (c :: rest) with
        | (name, '\x7d' :: rest) =>
          match String.ofList name with
          | "start" => .ok (.wordStart, rest)
          | "end" => .ok (.wordEnd, rest)
          | "start-half" => .ok (.wordStartHalf, rest)
          | "end-half" => .ok (.wordEndHalf, rest)
          | _ => .error .boundaryUnknown
        | _ => .error .boundaryUnclosed
  | _ => .ok (.wordBoundary, cs)

/-- What a backslash and the characters after it stand for. -/
inductive Primitive where
  | literal (l : Literal)
  | dot
  | assertion (a : Assertion)
  | shorthand (negated : Bool) (c : Shorthand)
  | property (negated : Bool) (name : PropertyName)

def Primitive.tree : Primitive → Tree
  | .literal l => .literal l
  | .dot => .dot
  | .assertion a => .assertion a
  | .shorthand negated c => .shorthand negated c
  | .property negated name => .property negated name

/-- ASCII characters other than letters, digits and angle brackets stand for
themselves after a backslash. -/
def isEscapable (c : Char) : Bool :=
  c.toNat < 128 && !c.isAlphanum && c != '<' && c != '>'

/-- The piece after a backslash. -/
def escape (x : Bool) : List Char → Step Primitive
  | [] => .error .escapeUnfinished
  | c :: cs =>
    let literal (c : Char) : Step Primitive := .ok (.literal ⟨c, false⟩, cs)
    let assertion (a : Assertion) : Step Primitive := .ok (.assertion a, cs)
    let shorthand (negated : Bool) (p : Shorthand) : Step Primitive := .ok (.shorthand negated p, cs)
    let code (count : Nat) : Step Primitive :=
      (hexEscape x count cs).map fun (l, cs) => (.literal l, cs)
    let named (negated : Bool) : Step Primitive :=
      (property x cs).map fun (name, cs) => (.property negated name, cs)
    if c.isDigit then .error .backreference
    else if isEscapable c then literal c
    else match c with
      | 'x' => code 2
      | 'u' => code 4
      | 'U' => code 8
      | 'p' => named false
      | 'P' => named true
      | 'd' => shorthand false .digit
      | 's' => shorthand false .space
      | 'w' => shorthand false .word
      | 'D' => shorthand true .digit
      | 'S' => shorthand true .space
      | 'W' => shorthand true .word
      | 'a' => literal '\x07'
      | 'f' => literal '\x0c'
      | 't' => literal '\t'
      | 'n' => literal '\n'
      | 'r' => literal '\r'
      | 'v' => literal '\x0b'
      | 'A' => assertion .textStart
      | 'z' => assertion .textEnd
      | 'B' => assertion .notWordBoundary
      | '<' => assertion .wordStart
      | '>' => assertion .wordEnd
      | 'b' => (boundary x cs).map fun (a, cs) => (.assertion a, cs)
      | _ => .error .escapeUnknown

/-- Digits, with what may stand between them in an extended pattern. -/
def countDigits (x : Bool) (cs : List Char) : List Char × List Char :=
  match cs with
  | [] => ([], [])
  | c :: cs =>
    if c.isDigit then
      let (digits, rest) := countDigits x (skip x cs)
      (c :: digits, rest)
    else ([], c :: cs)
termination_by cs.length
decreasing_by
  have := length_skip_le x cs
  simp only [List.length_cons]
  omega

/-- A count below 2^32 with blanks around it; its fault may be reported later. -/
def count (x : Bool) (cs : List Char) : Except Fault Nat × List Char :=
  let (digits, rest) := countDigits x (cs.dropWhile Text.isBlank)
  let value := digits.foldl (fun n d => 10 * n + (d.toNat - 48)) 0
  let result : Except Fault Nat :=
    if digits.isEmpty then .error .countEmpty
    else if value < 2 ^ 32 then .ok value
    else .error .decimalInvalid
  (result, skip x (rest.dropWhile Text.isBlank))

/-- The bounds of a counted repetition; `cs` starts after the opening brace. -/
def bounds (x : Bool) (cs : List Char) : Except Fault ((Nat × Option Nat) × List Char) := do
  match skip x cs with
  | [] => .error .countUnclosed
  | cs =>
    match count x cs with
    | (_, []) => .error .countUnclosed
    | (low, ',' :: cs) =>
      match skip x cs with
      | [] => .error .countUnclosed
      | '\x7d' :: cs => do
        let low ← low
        pure ((low, none), skip x cs)
      | cs => do
        let low ← low
        match count x cs with
        | (high, rest) => do
          let high ← high
          match rest with
          | '\x7d' :: cs => pure ((low, some high), skip x cs)
          | _ => .error .countUnclosed
    | (low, '\x7d' :: cs) => do
      let low ← low
      pure ((low, some low), skip x cs)
    | (low, _) => do
      let _ ← low
      .error .countUnclosed

end Retry.Regex
