import Retry.Unicode.Category
import Retry.Unicode.Property
import Retry.Text.Blank

/-! The classes that have a letter of their own in patterns: digits, blanks and the
characters of words. -/
namespace Retry.Unicode

def digits : CharSet := (category? "decimalnumber").getD .empty

def blanks : CharSet := .ofList Text.blankRanges

/-- Letters and what behaves like them, marks, digits, connectors and joiners. -/
def wordCharacters : CharSet :=
  let parts := [property? "alphabetic", category? "mark", some digits,
    category? "connectorpunctuation", property? "joincontrol"]
  .ofList (parts.flatMap fun part => (part.getD .empty).ranges)

def asciiDigits : CharSet := ⟨[(0x30, 0x39)]⟩
def asciiBlanks : CharSet := ⟨[(9, 13), (0x20, 0x20)]⟩
def asciiWordCharacters : CharSet := ⟨[(0x30, 0x39), (0x41, 0x5A), (0x5F, 0x5F), (0x61, 0x7A)]⟩

end Retry.Unicode
