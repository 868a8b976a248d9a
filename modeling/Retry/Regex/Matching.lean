import Retry.Regex.Expr

/-! Whether a pattern matches somewhere in a text. A set of positions is a natural
number with one bit for each position between characters. An expression maps the
positions where it may start to those where it may end; repetition stops when the set
of positions no longer grows, so no pattern takes more than polynomial time. -/
namespace Retry.Regex

/-- The positions before the characters in a set. -/
def maskOf (holds : Char → Bool) : List Char → Nat
  | [] => 0
  | c :: cs => 2 * maskOf holds cs + if holds c then 1 else 0

/-- The positions that satisfy a condition on the character before and those after. -/
def maskAt (holds : Option Char → List Char → Bool) (before : Option Char) (cs : List Char) : Nat :=
  (if holds before cs then 1 else 0) +
    match cs with
    | [] => 0
    | c :: rest => 2 * maskAt holds (some c) rest

def isWord (unicode : Bool) (c : Option Char) : Bool :=
  c.any fun c => (Shorthand.word.chars unicode).contains c.toNat

def Look.holds (l : Look) (before : Option Char) (rest : List Char) : Bool :=
  let after := rest.head?
  match l with
  | .textStart => before.isNone
  | .textEnd => after.isNone
  | .lineStart false => before.all (· == '\n')
  | .lineEnd false => after.all (· == '\n')
  | .lineStart true => before.all (· == '\n') || (before == some '\r' && after != some '\n')
  | .lineEnd true => after.all (· == '\r') || (after == some '\n' && before != some '\r')
  | .boundary u negated => (isWord u before != isWord u after) != negated
  | .wordStart u => !isWord u before && isWord u after
  | .wordEnd u => isWord u before && !isWord u after
  | .wordStartHalf u => !isWord u before
  | .wordEndHalf u => !isWord u after

/-- An expression with its sets and conditions evaluated on one text. -/
inductive Matcher where
  | empty
  | chars (mask : Nat)
  | look (mask : Nat)
  | sequence (first second : Matcher)
  | choice (first second : Matcher)
  | repetition (min : Nat) (max : Option Nat) (body : Matcher)

def Expr.matcher (text : List Char) : Expr → Matcher
  | .empty => .empty
  | .chars s => .chars (maskOf (fun c => s.contains c.toNat) text)
  | .look l => .look (maskAt l.holds none text)
  | .sequence first second => .sequence (first.matcher text) (second.matcher text)
  | .choice first second => .choice (first.matcher text) (second.matcher text)
  | .repetition min max body => .repetition min max (body.matcher text)
  | .capture body => body.matcher text

/-- Exactly `n` rounds; an empty set stays empty, and a fixed one stays fixed. -/
def rounds (f : Nat → Nat) : Nat → Nat → Nat
  | 0, positions => positions
  | n + 1, positions =>
    let next := f positions
    if next = positions then positions else rounds f n next

/-- At most `n` rounds. -/
def upTo (f : Nat → Nat) : Nat → Nat → Nat
  | 0, positions => positions
  | n + 1, positions =>
    let next := positions ||| f positions
    if next = positions then positions else upTo f n next

/-- The end positions of a matcher on a text of `size` characters, from the given
start positions. -/
def Matcher.ends (size : Nat) : Matcher → Nat → Nat
  | .empty, positions => positions
  | .chars mask, positions => (positions &&& mask) <<< 1
  | .look mask, positions => positions &&& mask
  | .sequence first second, positions => second.ends size (first.ends size positions)
  | .choice first second, positions => first.ends size positions ||| second.ends size positions
  | .repetition min max body, positions =>
    let further := match max with
      | some max => max - min
      | none => size + 1
    upTo (body.ends size) further (rounds (body.ends size) min positions)

/-- Whether the expression matches from some position of the text. -/
def Expr.isMatch (e : Expr) (text : String) : Bool :=
  let cs := text.toList
  (e.matcher cs).ends cs.length (2 ^ (cs.length + 1) - 1) != 0

end Retry.Regex
