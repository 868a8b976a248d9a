import Retry.Text.Inspect

/-! Patterns for texts. What a text has to look like to be a pattern, and what a pattern
matches, is not decided here: a compiler does that, and any compiler will do. A pattern
keeps the text it was compiled from. -/
namespace Retry

/-- Why a text is not a pattern, in the words of the compiler. -/
structure Pattern.Fault where
  message : String
deriving DecidableEq

/-- A compiled pattern: its text, and whether it matches somewhere in another. -/
structure Pattern where
  source : String
  isMatch : String → Bool

namespace Pattern

/-- What a text matches as a pattern, or why it is none. -/
class Compiler where
  compile : String → Except Fault (String → Bool)

def ofString [Compiler] (source : String) : Except Fault Pattern :=
  (Compiler.compile source).map (Pattern.mk source)

instance : Inspect Pattern := ⟨fun p => Text.variant "Regex" (inspect p.source)⟩

end Pattern
end Retry
