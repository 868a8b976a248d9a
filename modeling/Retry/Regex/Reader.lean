import Retry.Regex.Class
import Retry.Unicode.Category
import Retry.Unicode.Property

/-! Reading a pattern. The text is read once from left to right with the open groups
on a stack, so the first fault of a text is the one reported; the limit on nesting is
checked on the finished tree. -/
namespace Retry.Regex

/-- An open group: what stands before it in its surroundings, and whether the
surroundings are extended. -/
structure GroupFrame where
  kind : GroupKind
  branches : List Tree
  parts : List Tree
  extended : Bool

/-- A pattern half read. `branches` and `parts` are those of the innermost open
group, latest first. -/
structure Cursor where
  frames : List GroupFrame
  branches : List Tree
  parts : List Tree
  extended : Bool
  names : List (List Char)
  rest : List Char

namespace Cursor

def start (text : List Char) : Cursor := ⟨[], [], [], false, [], text⟩

def add (c : Cursor) (t : Tree) (rest : List Char) : Cursor :=
  { c with parts := t :: c.parts, rest := rest }

/-- The innermost group as a tree. -/
def body (c : Cursor) : Tree := .ofBranches ((Tree.ofParts c.parts.reverse :: c.branches).reverse)

def enter (c : Cursor) (kind : GroupKind) (extended : Bool) (rest : List Char) : Cursor :=
  { c with
    frames := ⟨kind, c.branches, c.parts, c.extended⟩ :: c.frames
    branches := []
    parts := []
    extended := extended
    rest := rest }

def leave (c : Cursor) (rest : List Char) : Except Fault Cursor :=
  match c.frames with
  | [] => .error .groupUnopened
  | frame :: frames => .ok
    { c with
      frames := frames
      branches := frame.branches
      parts := .group frame.kind c.body :: frame.parts
      extended := frame.extended
      rest := rest }

end Cursor

def flag? : Char → Option Flag
  | 'i' => some .caseInsensitive
  | 'm' => some .multiLine
  | 's' => some .dotMatchesNewLine
  | 'U' => some .swapGreed
  | 'u' => some .unicode
  | 'R' => some .crlf
  | 'x' => some .extended
  | _ => none

/-- Flags up to a colon or closing parenthesis, which is not taken. -/
def flagChange (f : FlagChange) (negated dangling : Bool) : List Char → Step FlagChange
  | [] => .error .flagUnfinished
  | c :: cs =>
    if c = ':' ∨ c = ')' then
      if dangling then .error .flagDangling else .ok (f, c :: cs)
    else if c = '-' then
      if negated then .error .flagNegatedTwice else flagChange f true true cs
    else match flag? c with
      | none => .error .flagUnknown
      | some flag =>
        if (f.state? flag).isSome then .error .flagRepeated
        else if negated then flagChange { f with off := flag :: f.off } true false cs
        else flagChange { f with on := flag :: f.on } false false cs

def alphabetic : Unicode.CharSet := (Unicode.property? "alphabetic").getD .empty

def numeric : Unicode.CharSet := (Unicode.category? "number").getD .empty

def isNameChar (first : Bool) (c : Char) : Bool :=
  c == '_' || alphabetic.contains c.toNat ||
    (!first && (c == '.' || c == '[' || c == ']' || numeric.contains c.toNat))

/-- The name of a group up to the closing angle bracket. -/
def groupName (acc : List Char) : List Char → Step (List Char)
  | [] => .error .groupNameUnclosed
  | '>' :: cs => if acc.isEmpty then .error .groupNameEmpty else .ok (acc.reverse, cs)
  | c :: cs => if isNameChar acc.isEmpty c then groupName (c :: acc) cs else .error .groupNameInvalid

/-- After an opening parenthesis: a group of some kind, or a setting of flags. -/
def openGroup (c : Cursor) (cs : List Char) : Except Fault Cursor :=
  let named (cs : List Char) : Except Fault Cursor :=
    match groupName [] cs with
    | .error fault => .error fault
    | .ok (name, cs) =>
      if name ∈ c.names then .error .groupNameRepeated
      else .ok ({ c with names := name :: c.names }.enter .capture c.extended cs)
  match skip c.extended cs with
  | '?' :: '=' :: _ | '?' :: '!' :: _ | '?' :: '<' :: '=' :: _ | '?' :: '<' :: '!' :: _ =>
    .error .lookAround
  | '?' :: 'P' :: '<' :: cs => named cs
  | '?' :: '<' :: cs => named cs
  | '?' :: [] => .error .groupUnclosed
  | '?' :: cs =>
    match flagChange ⟨[], []⟩ false false cs with
    | .error fault => .error fault
    | .ok (change, ')' :: rest) =>
      if change = ⟨[], []⟩ then .error .repetitionMissing
      else .ok
        { c with
          parts := .flags change :: c.parts
          extended := (change.state? .extended).getD c.extended
          rest := rest }
    | .ok (change, rest) =>
      .ok (c.enter (.plain change) ((change.state? .extended).getD c.extended) (rest.drop 1))
  | cs => .ok (c.enter .capture c.extended cs)

/-- The piece before a repetition operator, and the pieces before that. -/
def repeatable (parts : List Tree) : Except Fault (Tree × List Tree) :=
  match parts with
  | [] | .empty :: _ | .flags _ :: _ => .error .repetitionMissing
  | part :: parts => .ok (part, parts)

/-- A question mark after an operator makes it lazy, which no match depends on. -/
def dropLazy : List Char → List Char
  | '?' :: cs => cs
  | cs => cs

def repetition (c : Cursor) (min : Nat) (max : Option Nat) (rest : List Char) : Except Fault Cursor :=
  (repeatable c.parts).map fun (part, parts) =>
    { c with parts := .repetition min max part :: parts, rest := dropLazy rest }

def counted (c : Cursor) (cs : List Char) : Except Fault Cursor := do
  let _ ← repeatable c.parts
  let ((min, max), rest) ← bounds c.extended cs
  if max.all (min ≤ ·) then repetition c min max rest else .error .countInvalid

/-- One piece of the pattern. -/
def step (c : Cursor) (first : Char) (cs : List Char) : Except Fault Cursor :=
  match first with
  | '(' => openGroup c cs
  | ')' => c.leave cs
  | '|' => .ok { c with branches := Tree.ofParts c.parts.reverse :: c.branches, parts := [], rest := cs }
  | '[' => (bracketClass c.extended ('[' :: cs)).map fun (item, rest) => c.add (.ofClass item) rest
  | '?' => repetition c 0 (some 1) cs
  | '*' => repetition c 0 none cs
  | '+' => repetition c 1 none cs
  | '\x7b' => counted c cs
  | '\\' => (escape c.extended cs).map fun (p, rest) => c.add p.tree rest
  | '.' => .ok (c.add .dot cs)
  | '^' => .ok (c.add (.assertion .lineStart) cs)
  | '$' => .ok (c.add (.assertion .lineEnd) cs)
  | first => .ok (c.add (.literal ⟨first, false⟩) cs)

/-- Every round takes a character at least. -/
def readLoop : Nat → Cursor → Except Fault Tree
  | 0, _ => .error .groupUnclosed
  | fuel + 1, c =>
    match skip c.extended c.rest with
    | [] => if c.frames.isEmpty then .ok c.body else .error .groupUnclosed
    | first :: cs =>
      match step c first cs with
      | .error fault => .error fault
      | .ok c => readLoop fuel c

def Tree.read (text : String) : Except Fault Tree :=
  match readLoop (text.length + 1) (.start text.toList) with
  | .error fault => .error fault
  | .ok tree => if depthLimit < tree.depth then .error .tooDeep else .ok tree

end Retry.Regex
