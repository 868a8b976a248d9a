import Retry.Text.Quoted

/-! Displayed structures: a name and its fields in braces, a variant and its
arguments in parentheses. -/
namespace Retry

/-- A type whose values can be displayed for inspection. -/
class Inspect (α : Type) where
  inspect : α → String

export Inspect (inspect)

namespace Text

def braces (name : String) (body : List String) : String :=
  name ++ " \x7b " ++ ", ".intercalate body ++ " \x7d"

def field (entry : String × String) : String := entry.1 ++ ": " ++ entry.2

/-- All fields of a structure. -/
def record (name : String) (fields : List (String × String)) : String :=
  braces name (fields.map field)

/-- The fields of a structure that has others besides. -/
def openRecord (name : String) (fields : List (String × String)) : String :=
  braces name (fields.map field ++ [".."])

def variant (name : String) (argument : String) : String := name ++ "(" ++ argument ++ ")"

def list (items : List String) : String := "[" ++ ", ".intercalate items ++ "]"

end Text

instance : Inspect Bool := ⟨fun b => if b then "true" else "false"⟩
instance : Inspect Nat := ⟨toString⟩
instance : Inspect Int := ⟨toString⟩
instance : Inspect UInt32 := ⟨fun n => toString n.toNat⟩
instance : Inspect UInt64 := ⟨fun n => toString n.toNat⟩
instance : Inspect String := ⟨Text.quote⟩
instance : Inspect Unit := ⟨fun _ => "()"⟩

instance {α : Type} [Inspect α] : Inspect (Option α) where
  inspect
    | none => "None"
    | some a => Text.variant "Some" (inspect a)

end Retry
