import Retry.Regex.Fault

/-! Patterns as they are written. Flags, groups, repetitions and character classes are
kept as the text has them; nothing is resolved against a character table. -/
namespace Retry.Regex

/-- A character, and whether it was written as two hexadecimal digits: without the
flag `u` such a character is a byte. -/
structure Literal where
  char : Char
  isByte : Bool
deriving DecidableEq

inductive Flag where
  | caseInsensitive
  | multiLine
  | dotMatchesNewLine
  | swapGreed
  | unicode
  | crlf
  | extended
deriving DecidableEq

/-- The flags that a group or a flag setting turns on and off. -/
structure FlagChange where
  on : List Flag
  off : List Flag
deriving DecidableEq

/-- What a change says of one flag, if it names it. -/
def FlagChange.state? (f : FlagChange) (flag : Flag) : Option Bool :=
  if flag ∈ f.on then some true else if flag ∈ f.off then some false else none

/-- A condition on a position. -/
inductive Assertion where
  | lineStart
  | lineEnd
  | textStart
  | textEnd
  | wordBoundary
  | notWordBoundary
  | wordStart
  | wordEnd
  | wordStartHalf
  | wordEndHalf
deriving DecidableEq

inductive Shorthand where
  | digit
  | space
  | word
deriving DecidableEq

/-- The name of a property, or a property and one of its values. -/
inductive PropertyName where
  | single (name : String)
  | value (property value : String)
deriving DecidableEq

inductive SetOperator where
  | inter
  | diff
  | symmetricDifference
deriving DecidableEq

inductive ClassTree where
  | literal (l : Literal)
  | range (low high : Literal)
  | ascii (negated : Bool) (ranges : List (Nat × Nat))
  | shorthand (negated : Bool) (c : Shorthand)
  | property (negated : Bool) (name : PropertyName)
  | bracket (negated : Bool) (body : ClassTree)
  | union (parts : List ClassTree)
  | operator (op : SetOperator) (left right : ClassTree)

inductive GroupKind where
  | capture
  | plain (flags : FlagChange)
deriving DecidableEq

inductive Tree where
  | empty
  | flags (change : FlagChange)
  | literal (l : Literal)
  | dot
  | assertion (a : Assertion)
  | shorthand (negated : Bool) (c : Shorthand)
  | property (negated : Bool) (name : PropertyName)
  | bracket (negated : Bool) (body : ClassTree)
  | repetition (min : Nat) (max : Option Nat) (body : Tree)
  | group (kind : GroupKind) (body : Tree)
  | alternation (branches : List Tree)
  | sequence (parts : List Tree)

/-- Parts in sequence; one part stands for itself. -/
def Tree.ofParts : List Tree → Tree
  | [] => .empty
  | [part] => part
  | parts => .sequence parts

def Tree.ofBranches : List Tree → Tree
  | [branch] => branch
  | branches => .alternation branches

/-- A class as a piece of a pattern. -/
def Tree.ofClass : ClassTree → Tree
  | .bracket negated body => .bracket negated body
  | item => .bracket false item

def ClassTree.ofParts : List ClassTree → ClassTree
  | [part] => part
  | parts => .union parts

mutual

/-- How deep brackets, unions and operators nest. -/
def ClassTree.depth : ClassTree → Nat
  | .bracket _ body => body.depth + 1
  | .union [] => 0
  | .union (part :: parts) => max part.depth (ClassTree.depths parts) + 1
  | .operator _ left right => max left.depth right.depth + 1
  | _ => 0

def ClassTree.depths : List ClassTree → Nat
  | [] => 0
  | part :: parts => max part.depth (ClassTree.depths parts)

end

mutual

/-- How deep groups, repetitions, classes, alternations and sequences nest. -/
def Tree.depth : Tree → Nat
  | .bracket _ body => body.depth + 1
  | .repetition _ _ body => body.depth + 1
  | .group _ body => body.depth + 1
  | .alternation branches => Tree.depths branches + 1
  | .sequence parts => Tree.depths parts + 1
  | _ => 0

def Tree.depths : List Tree → Nat
  | [] => 0
  | part :: parts => max part.depth (Tree.depths parts)

end

end Retry.Regex
