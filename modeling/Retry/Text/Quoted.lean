/-! Text in double quotes: quotes, backslashes and the common control characters
are escaped by a letter, other control characters by their code. -/
namespace Retry.Text

def escape (c : Char) : List Char :=
  match c with
  | '"' => ['\\', '"']
  | '\\' => ['\\', '\\']
  | '\n' => ['\\', 'n']
  | '\t' => ['\\', 't']
  | '\r' => ['\\', 'r']
  | '\x00' => ['\\', '0']
  | c =>
    if c.toNat < 32 ∨ (127 ≤ c.toNat ∧ c.toNat < 160) then
      ['\\', 'u', '\x7b'] ++ Nat.toDigits 16 c.toNat ++ ['\x7d']
    else [c]

def quote (s : String) : String := String.ofList ('"' :: s.toList.flatMap escape ++ ['"'])

end Retry.Text
