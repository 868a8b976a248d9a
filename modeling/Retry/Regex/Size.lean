import Retry.Regex.Expr

/-! How much memory a compiled pattern takes: an automaton over the bytes of UTF-8
that reads the text forwards and notes captures, and one that reads it backwards.
Each state costs a fixed amount and each of its branches a little more; a counted
repetition is written out. A pattern is refused when either automaton is too large. -/
namespace Retry.Regex

open Unicode (CharSet)

namespace Size

def state : Nat := 32

/-- One transition of a state that looks at ranges of bytes. -/
def edge : Nat := 8

/-- One alternative of a state that branches freely. -/
def branch : Nat := 4

/-- The bytes of a character in UTF-8. -/
def bytes (c : Nat) : List Nat :=
  let tail (n : Nat) : Nat := 0x80 + n % 64
  if c < 0x80 then [c]
  else if c < 0x800 then [0xC0 + c / 64, tail c]
  else if c < 0x10000 then [0xE0 + c / 4096, tail (c / 64), tail c]
  else [0xF0 + c / 262144, tail (c / 4096), tail (c / 64), tail c]

/-- Splits a range where its ends stop sharing all bytes but the last ones. -/
def split : Nat → Nat × Nat → List (Nat × Nat)
  | 0, r => [r]
  | fuel + 1, (low, high) =>
    if high < low then []
    else
      let lengths := [0x7F, 0x7FF, 0xFFFF].filter fun limit => low ≤ limit && limit < high
      let tails := [64, 4096, 262144].filterMap fun m =>
        if 0x80 ≤ low ∧ m ≤ high ∧ low / m ≠ high / m then
          if low % m ≠ 0 then some (low / m * m + m - 1)
          else if high % m ≠ m - 1 then some (high / m * m - 1)
          else none
        else none
      match lengths ++ tails with
      | [] => [(low, high)]
      | limit :: _ => split fuel (low, limit) ++ split fuel (limit + 1, high)

/-- The sequences of byte ranges that spell the members of a set. -/
def spellings (s : CharSet) : List (List (Nat × Nat)) :=
  (s.ranges.flatMap (split 64)).map fun (low, high) => (bytes low).zip (bytes high)

def commonLength {α : Type} [DecidableEq α] : List α → List α → Nat
  | a :: as, b :: bs => if a = b then commonLength as bs + 1 else 0
  | _, _ => 0

/-- The steps of all spellings, those shared with the spelling before counted once. -/
def distinctSteps : List (Nat × Nat) → List (List (Nat × Nat)) → Nat
  | _, [] => 0
  | before, word :: words =>
    word.length - commonLength before word + distinctSteps word words

abbrev Node := List (Nat × Nat × Nat)

/-- Spellings with one first step are grouped. -/
def group : List (List (Nat × Nat)) → List ((Nat × Nat) × List (List (Nat × Nat)))
  | [] => []
  | [] :: words => group words
  | (step :: rest) :: words =>
    match group words with
    | (next, rests) :: groups =>
      if step = next then (step, rest :: rests) :: groups
      else (step, [rest]) :: (next, rests) :: groups
    | [] => [(step, [rest])]

/-- Adds the node for a set of spellings to the nodes made so far, sharing equal
nodes; the answer is its number, and zero is the node after the last byte. -/
def addNode : Nat → List (List (Nat × Nat)) → Array Node → Nat × Array Node
  | 0, _, nodes => (0, nodes)
  | depth + 1, words, nodes =>
    if words.all List.isEmpty then (0, nodes)
    else
      let (node, nodes) := (group words).foldl (fun (node, nodes) ((low, high), rests) =>
        let (target, nodes) := addNode depth rests nodes
        (node ++ [(low, high, target)], nodes)) (([] : Node), nodes)
      match nodes.findIdx? (· == node) with
      | some i => (i + 1, nodes)
      | none => (nodes.size + 1, nodes.push node)

/-- A set that is one character costs a state for each byte. -/
def chars (forward : Bool) (s : CharSet) : Nat :=
  match s.ranges with
  | [(low, high)] => if low = high then state * (bytes low).length else sets
  | _ => sets
where
  sets : Nat :=
    if s.isAscii then 2 * state + edge * s.ranges.length
    else if forward then
      state + ((addNode 5 (spellings s) #[]).2.foldl (fun n node => n + state + edge * node.length) 0)
    else
      2 * state + branch * (spellings s).length + state * distinctSteps [] (spellings s)

end Size

/-- Whether every match of an expression is empty. -/
def Expr.isEmpty : Expr → Bool
  | .empty => true
  | .chars _ => false
  | .look _ => true
  | .sequence first second => first.isEmpty && second.isEmpty
  | .choice first second => first.isEmpty && second.isEmpty
  | .repetition _ max body => max == some 0 || body.isEmpty
  | .capture body => body.isEmpty

/-- Whether some match of an expression is empty. -/
def Expr.canBeEmpty : Expr → Bool
  | .empty => true
  | .chars _ => false
  | .look _ => true
  | .sequence first second => first.canBeEmpty && second.canBeEmpty
  | .choice first second => first.canBeEmpty || second.canBeEmpty
  | .repetition min _ body => min == 0 || body.canBeEmpty
  | .capture body => body.canBeEmpty

/-- The bytes of the automaton of an expression. -/
def Expr.size (forward : Bool) : Expr → Nat
  | .empty => Size.state
  | .chars s => Size.chars forward s
  | .look _ => Size.state
  | .sequence .empty second => second.size forward
  | .sequence first .empty => first.size forward
  | .sequence first second => first.size forward + second.size forward
  | .choice first second => first.size forward + second.size forward + 2 * Size.branch + Size.state
  | .capture body => body.size forward + if forward then 2 * Size.state else 0
  | .repetition min max body =>
    let one := body.size forward
    let fork := Size.state + 2 * Size.branch
    let min := if body.isEmpty then Nat.min min 1 else min
    let max := if body.isEmpty then some (Nat.min (max.getD 1) 1) else max
    match max with
    | none =>
      if min = 0 then
        if body.canBeEmpty then one + 2 * fork + Size.state else one + fork
      else min * one + fork
    | some max => if max = 0 then Size.state else max * one + (max - min) * fork + if min < max then Size.state else 0

/-- The states around the expression: the start, the whole match and its end. -/
def Expr.isTooLarge (e : Expr) : Bool :=
  let around := 8 * Size.state
  decide (sizeLimit < Nat.max (e.size true) (e.size false) + around)

end Retry.Regex
