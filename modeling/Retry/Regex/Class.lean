import Retry.Regex.Escape

/-! Character classes in brackets. Items between brackets form a union; the operators
`&&`, `--` and `~~` combine unions from left to right. Brackets nest. -/
namespace Retry.Regex

/-- What is open around the items being read: a bracket with the items before it and
whether it is negated, or an operator and its left side. -/
inductive ClassFrame where
  | bracket (before : List ClassTree) (negated : Bool)
  | operator (op : SetOperator) (left : ClassTree)

def asciiClasses : List (String × List (Nat × Nat)) :=
  let upper := (0x41, 0x5A)
  let lower := (0x61, 0x7A)
  let digit := (0x30, 0x39)
  [("alnum", [digit, upper, lower]), ("alpha", [upper, lower]), ("ascii", [(0, 0x7F)]),
    ("blank", [(9, 9), (0x20, 0x20)]), ("cntrl", [(0, 0x1F), (0x7F, 0x7F)]), ("digit", [digit]),
    ("graph", [(0x21, 0x7E)]), ("lower", [lower]), ("print", [(0x20, 0x7E)]),
    ("punct", [(0x21, 0x2F), (0x3A, 0x40), (0x5B, 0x60), (0x7B, 0x7E)]),
    ("space", [(9, 13), (0x20, 0x20)]), ("upper", [upper]),
    ("word", [digit, upper, (0x5F, 0x5F), lower]), ("xdigit", [digit, (0x41, 0x46), (0x61, 0x66)])]

/-- A named ASCII class such as `[:alpha:]`, if the text is one. -/
def asciiClass? : List Char → Option (ClassTree × List Char)
  | '[' :: ':' :: cs =>
    let (negated, cs) : Bool × List Char := match cs with
      | '^' :: cs => (true, cs)
      | cs => (false, cs)
    match cs.dropWhile (· != ':') with
    | ':' :: ']' :: rest =>
      (asciiClasses.lookup (String.ofList (cs.takeWhile (· != ':')))).map fun ranges =>
        (.ascii negated ranges, rest)
    | _ => none
  | _ => none

/-- Hyphens at the start of a class stand for themselves. -/
def leadingHyphens (x : Bool) (cs : List Char) : List ClassTree × List Char :=
  match cs with
  | '-' :: cs =>
    let (items, rest) := leadingHyphens x (skip x cs)
    (.literal ⟨'-', false⟩ :: items, rest)
  | cs => ([], cs)
termination_by cs.length
decreasing_by
  have := length_skip_le x cs
  simp only [List.length_cons]
  omega

/-- After an opening bracket: the negation sign, hyphens, and a closing bracket that
stands for itself because the class would be empty. -/
def openClass (x : Bool) (cs : List Char) : Step (Bool × List ClassTree) :=
  let cs := skip x cs
  let (negated, cs) : Bool × List Char := match cs with
    | '^' :: cs => (true, skip x cs)
    | cs => (false, cs)
  match leadingHyphens x cs with
  | (_, []) => .error .classUnclosed
  | ([], ']' :: cs) =>
    match skip x cs with
    | [] => .error .classUnclosed
    | cs => .ok ((negated, [.literal ⟨']', false⟩]), cs)
  | (items, cs) => .ok ((negated, items), cs)

/-- The character after the current one, past blanks and comments. -/
def afterNext (x : Bool) (cs : List Char) : Option Char := (skip x (cs.drop 1)).head?

def classPrimitive (x : Bool) : List Char → Step Primitive
  | '\\' :: cs => escape x cs
  | c :: cs => .ok (.literal ⟨c, false⟩, cs)
  | [] => .error .classUnclosed

def Primitive.classItem : Primitive → Except Fault ClassTree
  | .literal l => .ok (.literal l)
  | .shorthand negated c => .ok (.shorthand negated c)
  | .property negated name => .ok (.property negated name)
  | _ => .error .classEscape

def Primitive.rangeEnd : Primitive → Except Fault Literal
  | .literal l => .ok l
  | _ => .error .classRangeLiteral

/-- An item, or a range of characters. A hyphen before a closing bracket stands for
itself, and one before another hyphen belongs to an operator. -/
def classRange (x : Bool) (cs : List Char) : Except Fault (ClassTree × List Char) := do
  let (low, cs) ← classPrimitive x cs
  let cs := skip x cs
  match cs with
  | [] => .error .classUnclosed
  | c :: rest =>
    if c ≠ '-' ∨ afterNext x cs = some ']' ∨ afterNext x cs = some '-' then
      pure (← low.classItem, cs)
    else
      match skip x rest with
      | [] => .error .classUnclosed
      | cs =>
        let (high, cs) ← classPrimitive x cs
        let low ← low.rangeEnd
        let high ← high.rangeEnd
        if low.char ≤ high.char then pure (.range low high, cs) else .error .classRange

/-- Completes an operator whose right side has been read. -/
def closeOperator (frames : List ClassFrame) (right : ClassTree) : List ClassFrame × ClassTree :=
  match frames with
  | .operator op left :: frames => (frames, .operator op left right)
  | frames => (frames, right)

/-- Reads on to the bracket that closes the outermost class. `items` are those of the
innermost union, latest first; every round takes a character at least. -/
def classLoop (x : Bool) : Nat → List ClassFrame → List ClassTree → List Char → Step ClassTree
  | 0, _, _, _ => .error .classUnclosed
  | fuel + 1, frames, items, cs =>
    let operator (op : SetOperator) (rest : List Char) : Step ClassTree :=
      let (frames, left) := closeOperator frames (.ofParts items.reverse)
      classLoop x fuel (.operator op left :: frames) [] rest
    match skip x cs with
    | [] => .error .classUnclosed
    | '[' :: cs =>
      match if frames.isEmpty then none else asciiClass? ('[' :: cs) with
      | some (item, rest) => classLoop x fuel frames (item :: items) rest
      | none =>
        match openClass x cs with
        | .error fault => .error fault
        | .ok ((negated, first), rest) =>
          classLoop x fuel (.bracket items negated :: frames) first.reverse rest
    | ']' :: cs =>
      match closeOperator frames (.ofParts items.reverse) with
      | (.bracket before negated :: frames, body) =>
        let item := ClassTree.bracket negated body
        if frames.isEmpty then .ok (item, cs) else classLoop x fuel frames (item :: before) cs
      | _ => .error .classUnclosed
    | '&' :: '&' :: cs => operator .inter cs
    | '-' :: '-' :: cs => operator .diff cs
    | '~' :: '~' :: cs => operator .symmetricDifference cs
    | cs =>
      match classRange x cs with
      | .error fault => .error fault
      | .ok (item, rest) => classLoop x fuel frames (item :: items) rest

/-- The class that starts at an opening bracket. -/
def bracketClass (x : Bool) (cs : List Char) : Step ClassTree := classLoop x (cs.length + 1) [] [] cs

end Retry.Regex
