import Retry.Unicode.CharSet

/-! Tables of code points as text. A run is a length in base 36 and a tag of fixed
width that starts with a capital letter; runs follow one another from code point
zero. A class of code points is the distance of its first member from the first of
the class before, and then the distances between its members. -/
namespace Retry.Unicode

structure Run where
  first : Nat
  last : Nat
  tag : String

def digit36 (c : Char) : Nat := if c.isDigit then c.toNat - 48 else c.toNat - 87

def number36 (cs : List Char) : Nat := cs.foldl (fun n c => 36 * n + digit36 c) 0

def decodeRuns (width : Nat) (acc : Array Run) (start length : Nat) (tag : List Char) :
    List Char → Array Run
  | [] => acc
  | c :: cs =>
    if tag.isEmpty && !c.isUpper then
      decodeRuns width acc start (36 * length + digit36 c) [] cs
    else if tag.length + 1 < width then decodeRuns width acc start length (tag ++ [c]) cs
    else
      decodeRuns width (acc.push ⟨start, start + length - 1, String.ofList (tag ++ [c])⟩)
        (start + length) 0 [] cs

def runs (width : Nat) (table : List String) : Array Run :=
  decodeRuns width #[] 0 0 [] (table.flatMap String.toList)

/-- The code points of the runs that carry one of the tags. -/
def select (runs : Array Run) (tags : List String) : CharSet :=
  .ofList ((runs.filter fun r => tags.contains r.tag).toList.map fun r => (r.first, r.last))

/-- The code points of a table that tags members with `Y` and others with `N`. -/
def members (table : List String) : CharSet := select (runs 1 table) ["Y"]

/-- The points reached from `start` by steps of the given lengths. -/
def walk (start : Nat) : List Nat → List Nat
  | [] => []
  | step :: rest => (start + step) :: walk (start + step) rest

def splitAt (separator : Char) (cs : List Char) : List (List Char) :=
  cs.foldr (fun c acc =>
    if c = separator then [] :: acc
    else match acc with
      | [] => [[c]]
      | word :: rest => (c :: word) :: rest) [[]]

def decodeClasses (start : Nat) : List (List Char) → List (List Nat)
  | [] => []
  | word :: rest =>
    match walk start ((splitAt '+' word).map number36) with
    | first :: others => (first :: others) :: decodeClasses first rest
    | [] => decodeClasses start rest

def classes (table : List String) : Array (List Nat) :=
  (decodeClasses 0 ((splitAt ' ' (table.flatMap String.toList)).filter (!·.isEmpty))).toArray

end Retry.Unicode
