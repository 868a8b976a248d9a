import Retry.Settings.Decoding

/-! Settings and drafts seen field by field. Each field has values of its own sort, its way of
being read from a document and of being written to one, and perhaps a default. Settings of a kind
are no more than values for the fields of the kind, and a draft holds some of them: what holds of
every field holds of the whole. -/
namespace Retry.Settings

/-- What a field holds. A cap may be there without a value. -/
def Field.Value : Field → Type
  | .maxAttempts => UInt32
  | .delayMs | .baseDelayMs | .budgetMs => UInt64
  | .multiplier | .jitter => Binary64
  | .maxDelayMs => Option UInt64

namespace Field

/-- A document that stands for a value: whole numbers in range for the words, numbers of both
sorts for floating-point ones, and null for no cap. -/
def Reads : (field : Field) → Json → field.Value → Prop
  | .maxAttempts, j, (n : UInt32) => j = .integer n.toNat
  | .delayMs, j, (n : UInt64) | .baseDelayMs, j, (n : UInt64) | .budgetMs, j, (n : UInt64) =>
    j = .integer n.toNat
  | .multiplier, j, (x : Binary64) | .jitter, j, (x : Binary64) =>
    j = .float x ∨ ∃ i, j = .integer i ∧ x = .ofInt i
  | .maxDelayMs, j, (cap : Option UInt64) =>
    j = .null ∧ cap = none ∨ ∃ n : UInt64, j = .integer n.toNat ∧ cap = some n

/-- Only the budget must be given. -/
def default? : (field : Field) → Option field.Value
  | .maxAttempts => some defaultMaxAttempts
  | .delayMs | .baseDelayMs => some defaultDelayMs
  | .multiplier => some defaultMultiplier
  | .maxDelayMs => some (none : Option UInt64)
  | .jitter => some defaultJitter
  | .budgetMs => none

theorem exists_default {field : Field} (optional : field ≠ .budgetMs) :
    ∃ v, field.default? = some v := by
  cases field with
  | budgetMs => exact absurd rfl optional
  | _ => exact ⟨_, rfl⟩

theorem name_injective {field field' : Field} (same : field.name = field'.name) :
    field = field' := by
  cases field <;> cases field' <;> first | rfl | exact absurd same (by decide)

theorem name_ne_kindKey (field : Field) : field.name ≠ kindKey := by
  cases field <;> decide

end Field

def kind : Settings → Kind
  | .fixed .. => .fixed
  | .exponential .. => .exponential
  | .timeout .. => .timeout

/-- The value of a field, if the settings have the field. -/
def get? : Settings → (field : Field) → Option field.Value
  | .fixed n _, .maxAttempts => some n
  | .fixed _ d, .delayMs => some d
  | .exponential n _ _ _ _, .maxAttempts => some n
  | .exponential _ d _ _ _, .baseDelayMs => some d
  | .exponential _ _ x _ _, .multiplier => some x
  | .exponential _ _ _ cap _, .maxDelayMs => some cap
  | .exponential _ _ _ _ x, .jitter => some x
  | .timeout b _, .budgetMs => some b
  | .timeout _ d, .delayMs => some d
  | _, _ => none

theorem exists_get?_iff {c : Settings} {field : Field} :
    (∃ v, c.get? field = some v) ↔ field ∈ c.kind.fields := by
  cases c <;> cases field <;> simp [Settings.kind, Kind.fields, get?] <;> exact ⟨_, rfl⟩

/-- The fields of a kind can have any values. -/
theorem exists_of_values {kind : Kind} {P : (field : Field) → field.Value → Prop}
    (values : ∀ field ∈ kind.fields, ∃ v, P field v) :
    ∃ c : Settings, c.kind = kind ∧
      ∀ field ∈ kind.fields, ∃ v, c.get? field = some v ∧ P field v := by
  cases kind with
  | fixed =>
    simp only [Kind.fields, List.forall_mem_cons] at values ⊢
    obtain ⟨⟨n, first⟩, ⟨delay, second⟩, -⟩ := values
    exact ⟨.fixed n delay, rfl, ⟨n, rfl, first⟩, ⟨delay, rfl, second⟩, nofun⟩
  | exponential =>
    simp only [Kind.fields, List.forall_mem_cons] at values ⊢
    obtain ⟨⟨n, first⟩, ⟨base, second⟩, ⟨multiplier, third⟩, ⟨cap, fourth⟩, ⟨jitter, fifth⟩, -⟩ :=
      values
    exact ⟨.exponential n base multiplier cap jitter, rfl, ⟨n, rfl, first⟩, ⟨base, rfl, second⟩,
      ⟨multiplier, rfl, third⟩, ⟨cap, rfl, fourth⟩, ⟨jitter, rfl, fifth⟩, nofun⟩
  | timeout =>
    simp only [Kind.fields, List.forall_mem_cons] at values ⊢
    obtain ⟨⟨budget, first⟩, ⟨delay, second⟩, -⟩ := values
    exact ⟨.timeout budget delay, rfl, ⟨budget, rfl, first⟩, ⟨delay, rfl, second⟩, nofun⟩

namespace Draft

def get? (d : Draft) : (field : Field) → Option field.Value
  | .maxAttempts => d.maxAttempts
  | .delayMs => d.delayMs
  | .baseDelayMs => d.baseDelayMs
  | .multiplier => d.multiplier
  | .maxDelayMs => d.maxDelayMs
  | .jitter => d.jitter
  | .budgetMs => d.budgetMs

def set (d : Draft) : (field : Field) → field.Value → Draft
  | .maxAttempts, (n : UInt32) => { d with maxAttempts := some n }
  | .delayMs, (n : UInt64) => { d with delayMs := some n }
  | .baseDelayMs, (n : UInt64) => { d with baseDelayMs := some n }
  | .multiplier, (x : Binary64) => { d with multiplier := some x }
  | .maxDelayMs, (cap : Option UInt64) => { d with maxDelayMs := some cap }
  | .jitter, (x : Binary64) => { d with jitter := some x }
  | .budgetMs, (n : UInt64) => { d with budgetMs := some n }

/-- The draft of given values. -/
def of (values : (field : Field) → Option field.Value) : Draft where
  maxAttempts := values .maxAttempts
  delayMs := values .delayMs
  baseDelayMs := values .baseDelayMs
  multiplier := values .multiplier
  maxDelayMs := values .maxDelayMs
  jitter := values .jitter
  budgetMs := values .budgetMs

theorem get?_of (values : (field : Field) → Option field.Value) (field : Field) :
    (of values).get? field = values field := by
  cases field <;> rfl

theorem ext_get? {d d' : Draft} (same : ∀ field, d.get? field = d'.get? field) : d = d' := by
  have whole (d : Draft) : d = of d.get? := rfl
  rw [whole d, whole d', funext same]

theorem get?_set_self (d : Draft) (field : Field) (v : field.Value) :
    (d.set field v).get? field = some v := by
  cases field <;> rfl

theorem get?_set_of_ne (d : Draft) {field field' : Field} (v : field.Value)
    (other : field' ≠ field) : (d.set field v).get? field' = d.get? field' := by
  cases field <;> cases field' <;> first | rfl | exact absurd rfl other

theorem get?_empty (field : Field) : ({} : Draft).get? field = none := by
  cases field <;> rfl

theorem has_eq (d : Draft) (field : Field) : d.has field = (d.get? field).isSome := by
  cases field <;> rfl

end Draft

section Reading

variable {α β : Type} {j : Json}

theorem map_eq_ok_iff {first : Except DecodeFault α} {f : α → β} {b : β} :
    first.map f = .ok b ↔ ∃ a, first = .ok a ∧ f a = b := by
  cases first <;> simp [Except.map]

theorem bind_eq_ok_iff {first : Except DecodeFault α} {next : α → Except DecodeFault β} {b : β} :
    first >>= next = .ok b ↔ ∃ a, first = .ok a ∧ next a = .ok b := by
  cases first <;> simp [bind, Except.bind]

theorem decodeWord_eq_ok_iff {bits : Nat} {expected : Expected} {n : Nat} :
    decodeWord bits expected j = .ok n ↔ j = .integer n ∧ n < 2 ^ bits := by
  cases j with
  | integer i =>
    have bound : (2 : Int) ^ bits = (2 ^ bits : Nat) := by simp
    rw [decodeWord, bound, Json.integer.injEq]
    split
    · next range =>
      rw [Except.ok.injEq]
      omega
    · next out =>
      constructor
      · intro read
        contradiction
      · omega
  | _ => simp [decodeWord]

theorem decodeWord32_eq_ok_iff {n : UInt32} : decodeWord32 j = .ok n ↔ j = .integer n.toNat := by
  simp only [decodeWord32, map_eq_ok_iff, decodeWord_eq_ok_iff]
  constructor
  · rintro ⟨k, ⟨rfl, small⟩, rfl⟩
    rw [UInt32.toNat_ofNat_of_lt' small]
  · rintro rfl
    exact ⟨n.toNat, ⟨rfl, n.toNat_lt⟩, UInt32.ofNat_toNat⟩

theorem decodeWord64_eq_ok_iff {n : UInt64} : decodeWord64 j = .ok n ↔ j = .integer n.toNat := by
  simp only [decodeWord64, map_eq_ok_iff, decodeWord_eq_ok_iff]
  constructor
  · rintro ⟨k, ⟨rfl, small⟩, rfl⟩
    rw [UInt64.toNat_ofNat_of_lt' small]
  · rintro rfl
    exact ⟨n.toNat, ⟨rfl, n.toNat_lt⟩, UInt64.ofNat_toNat⟩

theorem decodeNumber_eq_ok_iff {x : Binary64} :
    decodeNumber j = .ok x ↔ j = .float x ∨ ∃ i, j = .integer i ∧ x = .ofInt i := by
  cases j with
  | integer i => simp [decodeNumber, eq_comm]
  | _ => simp [decodeNumber]

/-- A field takes what stands for one of its values, and nothing else. -/
theorem Draft.put_eq_ok_iff {d d' : Draft} {field : Field} :
    d.put field j = .ok d' ↔ ∃ v, field.Reads j v ∧ d.set field v = d' := by
  cases field with
  | maxAttempts =>
    simp only [put, map_eq_ok_iff, decodeWord32_eq_ok_iff]
    exact Iff.rfl
  | delayMs | baseDelayMs | budgetMs =>
    simp only [put, map_eq_ok_iff, decodeWord64_eq_ok_iff]
    exact Iff.rfl
  | multiplier | jitter =>
    simp only [put, map_eq_ok_iff, decodeNumber_eq_ok_iff]
    exact Iff.rfl
  | maxDelayMs =>
    by_cases null : j = .null
    · subst null
      simp only [put, Except.ok.injEq]
      constructor
      · intro same
        exact ⟨none, .inl ⟨rfl, rfl⟩, same⟩
      · rintro ⟨cap, ⟨-, rfl⟩ | ⟨n, read, -⟩, same⟩
        · exact same
        · contradiction
    · have given : d.put .maxDelayMs j =
          (decodeWord64 j).map fun n => { d with maxDelayMs := some (some n) } := by
        cases j with
        | null => exact absurd rfl null
        | _ => rfl
      rw [given, map_eq_ok_iff]
      simp only [decodeWord64_eq_ok_iff]
      constructor
      · rintro ⟨n, read, same⟩
        exact ⟨some n, .inr ⟨n, read, rfl⟩, same⟩
      · rintro ⟨cap, ⟨absent, -⟩ | ⟨n, read, rfl⟩, same⟩
        · exact absurd absent null
        · exact ⟨n, read, same⟩

end Reading

theorem getD_eq_iff {α : Type} {given : Option α} {default a : α} :
    given.getD default = a ↔ ∃ v, some a = some v ∧ given.or (some default) = some v := by
  simp [Option.or_some]

/-- A draft becomes the settings that hold, for each field of the kind, its value in the draft or
else the default. -/
theorem Draft.settings?_eq_some_iff {d : Draft} {kind : Kind} {c : Settings} :
    d.settings? kind = some c ↔
      c.kind = kind ∧ ∀ field ∈ kind.fields, ∃ v, c.get? field = some v ∧
        (d.get? field).or field.default? = some v := by
  cases kind with
  | fixed =>
    cases c with
    | fixed n delay =>
      simp only [settings?, Settings.kind, Kind.fields, List.forall_mem_cons, Option.some.injEq,
        Settings.fixed.injEq, List.not_mem_nil, false_imp_iff, implies_true, and_true, true_and]
      exact and_congr getD_eq_iff getD_eq_iff
    | _ => simp [settings?, Settings.kind]
  | exponential =>
    cases c with
    | exponential n base multiplier cap jitter =>
      simp only [settings?, Settings.kind, Kind.fields, List.forall_mem_cons, Option.some.injEq,
        Settings.exponential.injEq, List.not_mem_nil, false_imp_iff, implies_true, and_true,
        true_and]
      exact and_congr getD_eq_iff (and_congr getD_eq_iff (and_congr getD_eq_iff
        (and_congr getD_eq_iff getD_eq_iff)))
    | _ => simp [settings?, Settings.kind]
  | timeout =>
    cases c with
    | timeout budget delay =>
      have given : d.settings? .timeout = some (.timeout budget delay) ↔
          d.budgetMs.or none = some budget ∧ d.delayMs.getD defaultDelayMs = delay := by
        simp only [settings?, Option.map_eq_some_iff, Settings.timeout.injEq, Option.or_none]
        constructor
        · rintro ⟨_, found, rfl, rest⟩
          exact ⟨found, rest⟩
        · rintro ⟨found, rest⟩
          exact ⟨budget, found, rfl, rest⟩
      rw [given]
      simp only [Settings.kind, Kind.fields, List.forall_mem_cons, List.not_mem_nil,
        false_imp_iff, implies_true, and_true, true_and]
      refine and_congr ⟨fun found => ⟨budget, rfl, found⟩, ?_⟩ getD_eq_iff
      rintro ⟨v, same, found⟩
      exact found.trans same.symm
    | _ => simp [settings?, Settings.kind]

end Retry.Settings
