import Retry.Regex.Tree
import Retry.Unicode.Word
import Retry.Unicode.Script
import Retry.Unicode.Age
import Retry.Unicode.Folding

/-! Patterns by meaning: sets of characters, conditions on a position, sequence,
choice and repetition. Flags, named properties and letter case are resolved here, and
what has no meaning on text is refused. -/
namespace Retry.Regex

open Unicode (CharSet)

/-- A condition on a position, for the words or lines that the flags ask for. -/
inductive Look where
  | textStart
  | textEnd
  | lineStart (crlf : Bool)
  | lineEnd (crlf : Bool)
  | boundary (unicode negated : Bool)
  | wordStart (unicode : Bool)
  | wordEnd (unicode : Bool)
  | wordStartHalf (unicode : Bool)
  | wordEndHalf (unicode : Bool)
deriving DecidableEq

inductive Expr where
  | empty
  | chars (s : CharSet)
  | look (l : Look)
  | sequence (first second : Expr)
  | choice (first second : Expr)
  | repetition (min : Nat) (max : Option Nat) (body : Expr)
  | capture (body : Expr)

/-- The flags in force. Greed is not among them: it decides where a match lies, not
whether there is one. -/
structure Flags where
  caseInsensitive : Bool := false
  multiLine : Bool := false
  dotMatchesNewLine : Bool := false
  unicode : Bool := true
  crlf : Bool := false

def Flags.apply (f : Flags) (change : FlagChange) : Flags where
  caseInsensitive := (change.state? .caseInsensitive).getD f.caseInsensitive
  multiLine := (change.state? .multiLine).getD f.multiLine
  dotMatchesNewLine := (change.state? .dotMatchesNewLine).getD f.dotMatchesNewLine
  unicode := (change.state? .unicode).getD f.unicode
  crlf := (change.state? .crlf).getD f.crlf

/-- The set with its case variants, if case is to be ignored: all of them, or without
the flag `u` those of ASCII letters. -/
def Flags.fold (f : Flags) (s : CharSet) : CharSet :=
  if !f.caseInsensitive then s
  else if f.unicode then s.fold
  else
    let shift (low high offset : Nat) (up : Bool) : List (Nat × Nat) :=
      (s.inter ⟨[(low, high)]⟩).ranges.map fun (a, b) =>
        if up then (a + offset, b + offset) else (a - offset, b - offset)
    .ofList (s.ranges ++ shift 0x41 0x5A 32 true ++ shift 0x61 0x7A 32 false)

/-- The set or its complement. Without the flag `u` a complement holds bytes that are
no characters. -/
def Flags.negate (f : Flags) (negated : Bool) (s : CharSet) : Except Fault CharSet :=
  if !negated then .ok s
  else if f.unicode then .ok s.compl
  else .error .invalidUtf8

/-- A name without case, blanks, hyphens, underscores, and a leading `is`. -/
def looseName (name : String) : String :=
  let cs := name.toList
  let (hasIs, cs) : Bool × List Char := match cs with
    | i :: s :: rest => if i.toLower = 'i' ∧ s.toLower = 's' then (true, rest) else (false, cs)
    | cs => (false, cs)
  let loose := (cs.filter fun c => c.toNat < 128 && c != ' ' && c != '_' && c != '-').map Char.toLower
  if hasIs ∧ loose = ['c'] then "isc" else String.ofList loose

def category? (name : String) : Option CharSet :=
  match name with
  | "any" => some ⟨[(0, CharSet.last)]⟩
  | "ascii" => some ⟨[(0, 0x7F)]⟩
  | "assigned" => (Unicode.category? "unassigned").map CharSet.compl
  | name => Unicode.category? name

/-- The characters with a property. A name alone is a binary property, a category or a
script, in this order; three abbreviations of categories are not properties. -/
def PropertyName.chars : PropertyName → Except Fault CharSet
  | .single name =>
    let name := looseName name
    let property := if name = "cf" ∨ name = "sc" ∨ name = "lc" then none else Unicode.property? name
    match property.or ((category? name).or (Unicode.script? name)) with
    | some s => .ok s
    | none => .error .propertyUnknown
  | .value owner choice =>
    let choice := looseName choice
    let pick (s : Option CharSet) : Except Fault CharSet :=
      match s with
      | some s => .ok s
      | none => .error .propertyValueUnknown
    match looseName owner with
    | "gc" | "generalcategory" => pick (category? choice)
    | "sc" | "script" => pick (Unicode.script? choice)
    | "scx" | "scriptextensions" => pick (Unicode.scriptExtension? choice)
    | "age" => pick (Unicode.age? choice)
    | name =>
      if Unicode.isProperty name then .error .propertyValueUnknown else .error .propertyUnknown

def Shorthand.chars (c : Shorthand) (unicode : Bool) : CharSet :=
  match c, unicode with
  | .digit, true => Unicode.digits
  | .space, true => Unicode.blanks
  | .word, true => Unicode.wordCharacters
  | .digit, false => Unicode.asciiDigits
  | .space, false => Unicode.asciiBlanks
  | .word, false => Unicode.asciiWordCharacters

/-- The code of a literal; without the flag `u` a literal of two digits is a byte. -/
def Literal.code (f : Flags) (l : Literal) : Except Fault Nat :=
  if !f.unicode && l.isByte && 128 ≤ l.char.toNat then .error .invalidUtf8 else .ok l.char.toNat

/-- The code of a literal in a class, where without the flag `u` only ASCII may
stand. -/
def Literal.classCode (f : Flags) (l : Literal) : Except Fault Nat :=
  match l.code f with
  | .error fault => .error fault
  | .ok n => if !f.unicode && 128 ≤ n then .error .unicodeNotAllowed else .ok n

def propertyChars (f : Flags) (negated : Bool) (name : PropertyName) : Except Fault CharSet :=
  if !f.unicode then .error .unicodeNotAllowed
  else match name.chars with
    | .error fault => .error fault
    | .ok s => f.negate negated (f.fold s)

def shorthandChars (f : Flags) (negated : Bool) (c : Shorthand) : Except Fault CharSet :=
  f.negate negated (c.chars f.unicode)

mutual

/-- The characters of a class. Case variants are added to brackets and to both sides
of an operator, before any complement. -/
def ClassTree.chars (f : Flags) : ClassTree → Except Fault CharSet
  | .literal l => match l.classCode f with
    | .error fault => .error fault
    | .ok n => .ok (.singleton n)
  | .range low high => match low.classCode f, high.classCode f with
    | .ok a, .ok b => .ok ⟨[(a, b)]⟩
    | .error fault, _ => .error fault
    | _, .error fault => .error fault
  | .ascii negated ranges => f.negate negated (f.fold (.ofList ranges))
  | .shorthand negated c => shorthandChars f negated c
  | .property negated name => propertyChars f negated name
  | .bracket negated body => match body.chars f with
    | .error fault => .error fault
    | .ok s => f.negate negated (f.fold s)
  | .union parts => ClassTree.unions f parts
  | .operator op left right => match left.chars f, right.chars f with
    | .ok a, .ok b =>
      let a := f.fold a
      let b := f.fold b
      .ok (match op with
        | .inter => a.inter b
        | .diff => a.diff b
        | .symmetricDifference => a.symmetricDifference b)
    | .error fault, _ => .error fault
    | _, .error fault => .error fault

def ClassTree.unions (f : Flags) : List ClassTree → Except Fault CharSet
  | [] => .ok .empty
  | part :: parts => match part.chars f, ClassTree.unions f parts with
    | .ok a, .ok b => .ok (a.union b)
    | .error fault, _ => .error fault
    | _, .error fault => .error fault

end

def Assertion.look (f : Flags) : Assertion → Look
  | .lineStart => if f.multiLine then .lineStart f.crlf else .textStart
  | .lineEnd => if f.multiLine then .lineEnd f.crlf else .textEnd
  | .textStart => .textStart
  | .textEnd => .textEnd
  | .wordBoundary => .boundary f.unicode false
  | .notWordBoundary => .boundary f.unicode true
  | .wordStart => .wordStart f.unicode
  | .wordEnd => .wordEnd f.unicode
  | .wordStartHalf => .wordStartHalf f.unicode
  | .wordEndHalf => .wordEndHalf f.unicode

/-- The characters that a dot stands for. -/
def dotChars (f : Flags) : Except Fault CharSet :=
  if !f.unicode then .error .invalidUtf8
  else if f.dotMatchesNewLine then .ok .scalars
  else if f.crlf then .ok (CharSet.compl ⟨[(10, 10), (13, 13)]⟩)
  else .ok (CharSet.compl ⟨[(10, 10)]⟩)

/-- A result with the flags that stay in force after it. -/
abbrev Resolved := Except Fault (Expr × Flags)

def Resolved.ofChars (f : Flags) (s : Except Fault CharSet) : Resolved :=
  s.map fun s => (.chars s, f)

mutual

def Tree.expr (f : Flags) : Tree → Resolved
  | .empty => .ok (.empty, f)
  | .flags change => .ok (.empty, f.apply change)
  | .literal l => .ofChars f ((l.code f).map fun n => f.fold (.singleton n))
  | .dot => .ofChars f (dotChars f)
  | .assertion a => .ok (.look (a.look f), f)
  | .shorthand negated c => .ofChars f (shorthandChars f negated c)
  | .property negated name => .ofChars f (propertyChars f negated name)
  | .bracket negated body => .ofChars f ((ClassTree.bracket negated body).chars f)
  | .repetition min max body => match body.expr f with
    | .error fault => .error fault
    | .ok (e, f) => .ok (.repetition min max e, f)
  | .group kind body =>
    let inner := match kind with
      | .plain change => f.apply change
      | .capture => f
    match body.expr inner with
    | .error fault => .error fault
    | .ok (e, _) => .ok (match kind with
      | .capture => .capture e
      | .plain _ => e, f)
  | .alternation branches => Tree.choices f branches
  | .sequence parts => Tree.sequences f parts

def Tree.sequences (f : Flags) : List Tree → Resolved
  | [] => .ok (.empty, f)
  | part :: parts => match part.expr f with
    | .error fault => .error fault
    | .ok (first, f) => match Tree.sequences f parts with
      | .error fault => .error fault
      | .ok (second, f) => .ok (.sequence first second, f)

/-- Flags set in one branch stay in force in the branches after it. -/
def Tree.choices (f : Flags) : List Tree → Resolved
  | [] => .ok (.empty, f)
  | [branch] => branch.expr f
  | branch :: branches => match branch.expr f with
    | .error fault => .error fault
    | .ok (first, f) => match Tree.choices f branches with
      | .error fault => .error fault
      | .ok (second, f) => .ok (.choice first second, f)

end

end Retry.Regex
