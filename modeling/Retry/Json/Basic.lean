import Retry.Decimal.Layout

/-! Documents as trees. Whole numbers from -2^63 to 2^64 - 1 are kept exactly and
are distinct from floating-point numbers; members keep their order, and a key may
be repeated. `Json.compact` writes a tree without blanks. -/
namespace Retry

inductive Json where
  | null
  | bool (value : Bool)
  | integer (value : Int)
  | float (value : Binary64)
  | string (value : String)
  | array (items : List Json)
  | object (members : List (String × Json))

namespace Json

def hexDigit (n : Nat) : Char := Nat.digitChar (n % 16)

/-- The characters that stand for `c` inside quotes. -/
def escape (c : Char) : List Char :=
  match c with
  | '"' => ['\\', '"']
  | '\\' => ['\\', '\\']
  | '\n' => ['\\', 'n']
  | '\r' => ['\\', 'r']
  | '\t' => ['\\', 't']
  | '\x08' => ['\\', 'b']
  | '\x0c' => ['\\', 'f']
  | c => if c.toNat < 32 then ['\\', 'u', '0', '0', hexDigit (c.toNat / 16), hexDigit c.toNat] else [c]

def quote (s : String) : String := String.ofList ('"' :: s.toList.flatMap escape ++ ['"'])

/-- Numbers that are not finite have no written form and become `null`. -/
def number (x : Binary64) : String := if x.isFinite then Layout.document.render x else "null"

mutual

def compact : Json → String
  | .null => "null"
  | .bool b => if b then "true" else "false"
  | .integer i => toString i
  | .float x => number x
  | .string s => quote s
  | .array items => "[" ++ compactItems items ++ "]"
  | .object members => "\x7b" ++ compactMembers members ++ "\x7d"

def compactItems : List Json → String
  | [] => ""
  | [item] => item.compact
  | item :: next :: rest => item.compact ++ "," ++ compactItems (next :: rest)

def compactMembers : List (String × Json) → String
  | [] => ""
  | [(key, item)] => quote key ++ ":" ++ item.compact
  | (key, item) :: next :: rest =>
    quote key ++ ":" ++ item.compact ++ "," ++ compactMembers (next :: rest)

end

end Json
end Retry
