import Retry.Settings.Basic
import Retry.Json.Reader

/-! Settings from documents. An object names its kind anywhere among its members and
its fields by their names; unknown members are passed over, and fields with a default
may be missing. An array gives the kind and then the fields in their order, of which
trailing ones may be missing. A text is judged as far as it can be read: a fault in
the kind is found before a fault further on in the text. -/
namespace Retry.Settings

inductive Kind where
  | fixed
  | exponential
  | timeout
deriving DecidableEq

/-- A field of some kind of settings. -/
inductive Field where
  | maxAttempts
  | delayMs
  | baseDelayMs
  | multiplier
  | maxDelayMs
  | jitter
  | budgetMs
deriving DecidableEq

/-- What a part of a document should have been. -/
inductive Expected where
  | settings
  | kind
  | word32
  | word64
  | number
deriving DecidableEq

/-- Why a document does not describe settings. -/
inductive DecodeFault where
  | malformed (fault : Json.Fault)
  | wrongType (found : Json) (expected : Expected)
  | wrongValue (found : Int) (expected : Expected)
  | unknownKind (name : String)
  | missingKind
  | repeatedKind
  | missing (field : Field)
  | repeated (field : Field)
  | tooShort (count : Nat) (kind : Kind)
  | tooLong (count : Nat) (kind : Kind)

namespace Kind

def name : Kind → String
  | .fixed => "fixed"
  | .exponential => "exponential"
  | .timeout => "timeout"

def title : Kind → String
  | .fixed => "Fixed"
  | .exponential => "Exponential"
  | .timeout => "Timeout"

def all : List Kind := [.fixed, .exponential, .timeout]

def ofName? (s : String) : Option Kind := all.find? fun k => k.name == s

/-- The fields of a kind, in their order. -/
def fields : Kind → List Field
  | .fixed => [.maxAttempts, .delayMs]
  | .exponential => [.maxAttempts, .baseDelayMs, .multiplier, .maxDelayMs, .jitter]
  | .timeout => [.budgetMs, .delayMs]

end Kind

namespace Field

def name : Field → String
  | .maxAttempts => "max_attempts"
  | .delayMs => "delay_ms"
  | .baseDelayMs => "base_delay_ms"
  | .multiplier => "multiplier"
  | .maxDelayMs => "max_delay_ms"
  | .jitter => "jitter"
  | .budgetMs => "budget_ms"

end Field

/-- The name of the member that holds the kind. -/
def kindKey : String := "kind"

def Expected.text : Expected → String
  | .settings => "internally tagged enum RetryConfig"
  | .kind => "variant identifier"
  | .word32 => "u32"
  | .word64 => "u64"
  | .number => "f64"

/-- The sort of a document, with the value of a plain one. -/
def found : Json → String
  | .null => "null"
  | .bool b => "boolean `" ++ inspect b ++ "`"
  | .integer i => "integer `" ++ inspect i ++ "`"
  | .float x => "floating point `" ++ Layout.document.render x ++ "`"
  | .string s => "string " ++ Text.quote s
  | .array _ => "sequence"
  | .object _ => "map"

def DecodeFault.message : DecodeFault → String
  | .malformed fault => fault.message
  | .wrongType j expected => "invalid type: " ++ found j ++ ", expected " ++ expected.text
  | .wrongValue i expected => "invalid value: integer `" ++ inspect i ++ "`, expected " ++ expected.text
  | .unknownKind name =>
    "unknown variant `" ++ name ++ "`, expected one of " ++
      ", ".intercalate (Kind.all.map fun k => "`" ++ k.name ++ "`")
  | .missingKind => "missing field `" ++ kindKey ++ "`"
  | .repeatedKind => "duplicate field `" ++ kindKey ++ "`"
  | .missing field => "missing field `" ++ field.name ++ "`"
  | .repeated field => "duplicate field `" ++ field.name ++ "`"
  | .tooShort count kind =>
    "invalid length " ++ inspect count ++ ", expected struct variant RetryConfig::" ++ kind.title ++
      " with " ++ inspect kind.fields.length ++ " elements"
  | .tooLong count kind =>
    "invalid length " ++ inspect count ++ ", expected " ++ inspect kind.fields.length ++
      " elements in sequence"

def decodeKind : Json → Except DecodeFault Kind
  | .string s => match Kind.ofName? s with
    | some kind => .ok kind
    | none => .error (.unknownKind s)
  | j => .error (.wrongType j .kind)

def decodeWord (bits : Nat) (expected : Expected) : Json → Except DecodeFault Nat
  | .integer i => if 0 ≤ i ∧ i < 2 ^ bits then .ok i.toNat else .error (.wrongValue i expected)
  | j => .error (.wrongType j expected)

def decodeWord32 (j : Json) : Except DecodeFault UInt32 :=
  (decodeWord 32 .word32 j).map UInt32.ofNat

def decodeWord64 (j : Json) : Except DecodeFault UInt64 :=
  (decodeWord 64 .word64 j).map UInt64.ofNat

/-- A whole number stands for the nearest floating-point one. -/
def decodeNumber : Json → Except DecodeFault Binary64
  | .integer i => .ok (.ofInt i)
  | .float x => .ok x
  | j => .error (.wrongType j .number)

/-- The fields met so far. -/
structure Draft where
  maxAttempts : Option UInt32 := none
  delayMs : Option UInt64 := none
  baseDelayMs : Option UInt64 := none
  multiplier : Option Binary64 := none
  maxDelayMs : Option (Option UInt64) := none
  jitter : Option Binary64 := none
  budgetMs : Option UInt64 := none
deriving DecidableEq

namespace Draft

def has (d : Draft) : Field → Bool
  | .maxAttempts => d.maxAttempts.isSome
  | .delayMs => d.delayMs.isSome
  | .baseDelayMs => d.baseDelayMs.isSome
  | .multiplier => d.multiplier.isSome
  | .maxDelayMs => d.maxDelayMs.isSome
  | .jitter => d.jitter.isSome
  | .budgetMs => d.budgetMs.isSome

/-- Only the cap may be given as null. -/
def put (d : Draft) (field : Field) (j : Json) : Except DecodeFault Draft :=
  match field with
  | .maxAttempts => (decodeWord32 j).map fun n => { d with maxAttempts := some n }
  | .delayMs => (decodeWord64 j).map fun n => { d with delayMs := some n }
  | .baseDelayMs => (decodeWord64 j).map fun n => { d with baseDelayMs := some n }
  | .multiplier => (decodeNumber j).map fun x => { d with multiplier := some x }
  | .maxDelayMs => match j with
    | .null => .ok { d with maxDelayMs := some none }
    | j => (decodeWord64 j).map fun n => { d with maxDelayMs := some (some n) }
  | .jitter => (decodeNumber j).map fun x => { d with jitter := some x }
  | .budgetMs => (decodeWord64 j).map fun n => { d with budgetMs := some n }

/-- The settings of a kind, missing fields taking their defaults: only a budget has
none. -/
def settings? (d : Draft) : Kind → Option Settings
  | .fixed => some (.fixed (d.maxAttempts.getD defaultMaxAttempts) (d.delayMs.getD defaultDelayMs))
  | .exponential => some (.exponential (d.maxAttempts.getD defaultMaxAttempts)
      (d.baseDelayMs.getD defaultDelayMs) (d.multiplier.getD defaultMultiplier)
      (d.maxDelayMs.getD none) (d.jitter.getD defaultJitter))
  | .timeout => d.budgetMs.map fun budget => .timeout budget (d.delayMs.getD defaultDelayMs)

end Draft

/-- The kind that the members name, in their order. -/
def kindOfMembers (members : List (String × Json)) : Except DecodeFault (Option Kind) :=
  members.foldlM (fun kind? (name, j) =>
    if name ≠ kindKey then .ok kind?
    else if kind?.isSome then .error .repeatedKind
    else (decodeKind j).map some) none

/-- A member that names a field of the kind is taken into the draft, once. -/
def takeMember (kind : Kind) (d : Draft) (member : String × Json) : Except DecodeFault Draft :=
  match kind.fields.find? fun f => f.name == member.1 with
  | none => .ok d
  | some field => if d.has field then .error (.repeated field) else d.put field member.2

def decodeMembers (members : List (String × Json)) : Except DecodeFault Settings := do
  match ← kindOfMembers members with
  | none => .error .missingKind
  | some kind =>
    let draft ← members.foldlM (takeMember kind) {}
    match draft.settings? kind with
    | some settings => .ok settings
    | none => .error (.missing .budgetMs)

/-- The items after the kind fill its fields in order. -/
def takeItems (kind : Kind) (items : List Json) : Except DecodeFault Settings := do
  let draft ← (kind.fields.zip items).foldlM (fun d (field, j) => Draft.put d field j) {}
  match draft.settings? kind with
  | none => .error (.tooShort items.length kind)
  | some settings =>
    if kind.fields.length < items.length then .error (.tooLong items.length kind)
    else .ok settings

def decode : Json → Except DecodeFault Settings
  | .object members => decodeMembers members
  | .array [] => .error .missingKind
  | .array (tag :: items) => do takeItems (← decodeKind tag) items
  | j => .error (.wrongType j .settings)

/-- The fault of a kind that is cut short: it is known from its first character that
an array or object cannot be one. -/
def cutKind (cut : Json.Cut) : DecodeFault :=
  match cut.opening with
  | some '[' => .wrongType (.array []) .kind
  | some '\x7b' => .wrongType (.object []) .kind
  | _ => .malformed cut.fault

/-- The settings that a text describes. -/
def read (text : String) : Except DecodeFault Settings := do
  match Json.Document.of text with
  | .nothing fault => .error (.malformed fault)
  | .cutArray [] cut => .error (cutKind cut)
  | .cutArray (tag :: _) cut => do
    let _ ← decodeKind tag
    .error (.malformed cut.fault)
  | .cutObject members cut =>
    match ← kindOfMembers members, cut.key == some kindKey with
    | some _, true => .error .repeatedKind
    | none, true => .error (cutKind cut)
    | _, false => .error (.malformed cut.fault)
  | .whole value trailing =>
    let settings ← decode value
    match trailing with
    | some fault => .error (.malformed fault)
    | none => .ok settings

end Retry.Settings
