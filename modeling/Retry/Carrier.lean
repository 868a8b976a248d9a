import Retry.Context

/-! Values that may carry text, and errors that may have causes. -/
namespace Retry

/-- A value seen as a carrier of text: a text, a value without one, or either behind
pointers and options. -/
inductive Carrier where
  | text (s : String)
  | blank
  | pointer (inner : Carrier)
  | present (inner : Carrier)
  | absent
deriving DecidableEq

/-- The text that a carrier holds: pointers and present options are looked through. -/
def Carrier.text? : Carrier → Option String
  | .text s => some s
  | .blank => none
  | .pointer inner => inner.text?
  | .present inner => inner.text?
  | .absent => none

/-- A type whose values may carry text. -/
class TextCarrier (T : Type) where
  text? : T → Option String

instance : TextCarrier Carrier := ⟨Carrier.text?⟩
instance : TextCarrier String := ⟨some⟩
instance : TextCarrier Unit := ⟨fun _ => none⟩

instance {T : Type} [TextCarrier T] : TextCarrier (Option T) where
  text?
    | none => none
    | some t => TextCarrier.text? t

/-- One link of a chain of errors: the name of its type, and its text. -/
structure Cause where
  kind : String
  message : String
deriving DecidableEq

/-- A type of errors. The chain starts with the error itself, and each further link is
the cause of the one before. -/
class Chained (E : Type) where
  head : E → Cause
  causes : E → List Cause

namespace Chained

variable {E : Type} [Chained E]

def chain (e : E) : List Cause := head e :: causes e

def message (e : E) : String := (head e).message

end Chained

/-- The types of errors to look for along a chain. -/
structure ErrorKinds where
  kinds : List String
deriving DecidableEq

namespace ErrorKinds

def of (kind : String) : ErrorKinds := ⟨[kind]⟩

def orKind (k : ErrorKinds) (kind : String) : ErrorKinds := ⟨k.kinds ++ [kind]⟩

/-- Whether some link of the chain has one of the types. -/
def found (k : ErrorKinds) : List Cause → Bool
  | [] => false
  | c :: rest => k.kinds.any (· == c.kind) || k.found rest

def holds {E : Type} [Chained E] (k : ErrorKinds) (e : E) : Bool := k.found (Chained.chain e)

instance : Inspect ErrorKinds where
  inspect k := Text.record "ErrorTypeCondition" [("types", Text.list (k.kinds.map inspect))]

end ErrorKinds
end Retry
