import Retry.Proofs.Settings.Selection

/-! Settings that cannot be used are refused, never replaced by a default. A name that no kind of
strategy has, and a text that is no number of the sort that its field needs, always make a fault,
and but for the number of attempts beside a time limit nothing else makes reading fail. Bytes that
are no text are the exception: they count as if the variable were not set, so that the default takes
their place. -/
namespace Retry

/-- The environment without the variables that hold no text. -/
def Environment.legible (env : Environment) : Environment := fun name => (env.text? name).map .text

theorem Environment.text?_legible (env : Environment) : env.legible.text? = env.text? := by
  funext name
  cases held : env name with
  | none => simp [legible, text?, held]
  | some v => cases v <;> simp [legible, text?, held]

namespace Settings

/-- A text, blanks around it apart, is a number of the sort that the field holds. -/
def Field.reads (field : Field) (raw : String) : Bool :=
  match field with
  | .maxAttempts => (word32? (Text.trim raw)).isSome
  | .delayMs | .baseDelayMs | .maxDelayMs | .budgetMs => (word64? (Text.trim raw)).isSome
  | .multiplier | .jitter => (Decimal.read? (Text.trim raw)).isSome

/-- A variable is set to something that cannot be used: it names no kind of strategy, or gives no
number for a field of the selected kind. Bytes that are no text never do. -/
inductive Offence (env : Environment) : String → Variable → Prop where
  | kind {v : Variable} (set : env kindVariable = some v)
      (unknown : ∀ raw, v = .text raw → Kind.ofName? (Text.trim raw) = none) :
      Offence env kindVariable v
  | number {kind : Kind} {field : Field} {v : Variable} (selects : selected? env = some kind)
      (applies : field ∈ kind.fields) (set : env field.variableName = some v)
      (unread : ∀ raw, v = .text raw → field.reads raw = false) :
      Offence env field.variableName v

/-- A reading that ends in a fault. -/
def Fails {α : Type} (reading : Except Fault α) : Prop := ∃ fault, reading = .error fault

theorem Fails.bind {α β : Type} {first : Except Fault α} (failed : Fails first)
    (next : α → Except Fault β) : Fails (first >>= next) := by
  obtain ⟨fault, rfl⟩ := failed
  exact ⟨fault, rfl⟩

theorem Fails.of_next {α β : Type} (first : Except Fault α) {next : α → Except Fault β}
    (failed : ∀ a, Fails (next a)) : Fails (first >>= next) := by
  cases first with
  | error fault => exact ⟨fault, rfl⟩
  | ok a => exact failed a

variable {env : Environment} {kind : Kind} {field : Field} {raw : String}

theorem numeric_fails {α : Type} {name : String} {parse : String → Option α}
    (set : env name = some (.text raw)) (unread : (parse (Text.trim raw)).isSome = false) :
    Fails (numeric env name parse) := by
  have unparsed : parse (Text.trim raw) = none := by simpa using unread
  exact ⟨.notNumeric name raw, by simp only [numeric, Environment.text?, set, unparsed]⟩

/-- The fields that are read only where their kind is selected. -/
theorem complete_fails_of_unread (applies : field ∈ kind.fields)
    (specific : field ∉ [.maxAttempts, .delayMs, .baseDelayMs])
    (set : env field.variableName = some (.text raw)) (unread : field.reads raw = false)
    (maxAttempts : UInt32) (delayMs : UInt64) : Fails (complete env maxAttempts delayMs kind) := by
  cases kind with
  | fixed =>
    have common : field ∈ [.maxAttempts, .delayMs, .baseDelayMs] := by
      revert applies
      cases field <;> decide
    exact absurd common specific
  | exponential =>
    have own : field = .multiplier ∨ field = .maxDelayMs ∨ field = .jitter := by
      revert applies specific
      cases field <;> decide
    rcases own with rfl | rfl | rfl
    · have failed : Fails (numeric env _ Decimal.read?) := numeric_fails set unread
      exact failed.bind _
    · apply Fails.of_next
      intro multiplier
      have failed : Fails (numeric env _ word64?) := numeric_fails set unread
      exact failed.bind _
    · apply Fails.of_next
      intro multiplier
      apply Fails.of_next
      intro maxDelayMs
      have failed : Fails (numeric env _ Decimal.read?) := numeric_fails set unread
      exact failed.bind _
  | timeout =>
    obtain rfl : field = .budgetMs := by
      revert applies specific
      cases field <;> decide
    have failed : Fails (numeric env _ word64?) := numeric_fails set unread
    exact failed.bind _

/-- The number of attempts and the delay are read for every kind, the other fields after them. -/
theorem described?_fails_of_unread (selects : selected? env = some kind)
    (applies : field ∈ kind.fields) (set : env field.variableName = some (.text raw))
    (unread : field.reads raw = false) : Fails (described? env) := by
  rw [described?_of_selected selects]
  by_cases specific : field ∈ [.maxAttempts, .delayMs, .baseDelayMs]
  · simp only [List.mem_cons, List.not_mem_nil, or_false] at specific
    rcases specific with rfl | rfl | rfl
    · have failed : Fails (numeric env _ word32?) := numeric_fails set unread
      exact failed.bind _
    · apply Fails.of_next
      intro maxAttempts
      have failed : Fails (numeric env _ word64?) := numeric_fails set unread
      exact failed.bind _
    · apply Fails.of_next
      intro maxAttempts
      have failed : Fails (numeric env _ word64?) := numeric_fails set unread
      exact failed.bind _
  · apply Fails.of_next
    intro maxAttempts
    apply Fails.of_next
    intro delayMs
    exact complete_fails_of_unread applies specific set unread _ _

/-- The kind comes last, so that a fault in the number of attempts or the delay is found before. -/
theorem described?_fails_of_unknown (set : env kindVariable = some (.text raw))
    (unknown : Kind.ofName? (Text.trim raw) = none) : Fails (described? env) := by
  have named : env.text? "RELENTLESS_STRATEGY" = some raw := by
    have held : env "RELENTLESS_STRATEGY" = some (.text raw) := set
    simp only [Environment.text?, held]
  have other (kind : Kind) : Text.trim raw ≠ kind.name := by
    intro same
    rw [same] at unknown
    cases kind <;> contradiction
  apply Fails.of_next
  intro maxAttempts
  apply Fails.of_next
  intro delayMs
  rw [named]
  simp only [Option.map_some, Option.getD_some]
  split
  · next name => exact absurd name (other .exponential)
  · next name => exact absurd name (other .fixed)
  · next name => exact absurd name (other .timeout)
  · exact ⟨_, rfl⟩

theorem described?_fails_of_offence {name : String} (offence : Offence env name (.text raw)) :
    Fails (described? env) := by
  generalize held : Variable.text raw = v at offence
  cases offence with
  | kind set unknown => exact described?_fails_of_unknown (held ▸ set) (unknown raw held.symm)
  | number selects applies set unread =>
    exact described?_fails_of_unread selects applies (held ▸ set) (unread raw held.symm)

theorem numeric_reads {α : Type} {name : String} {parse : String → Option α}
    (readable : ∀ raw, env name = some (.text raw) → (parse (Text.trim raw)).isSome) :
    ∃ found, numeric env name parse = .ok found := by
  unfold numeric Environment.text?
  cases held : env name with
  | none => exact ⟨none, rfl⟩
  | some v =>
    cases v with
    | bytes => exact ⟨none, rfl⟩
    | text raw =>
      obtain ⟨found, parsed⟩ := Option.isSome_iff_exists.mp (readable raw held)
      exact ⟨some found, by simp only [parsed]⟩

/-- No kind is unknown unless a text names it. -/
theorem exists_selected? (clear : ∀ name raw, ¬ Offence env name (.text raw)) :
    ∃ kind, selected? env = some kind := by
  cases selects : selected? env with
  | some kind => exact ⟨kind, rfl⟩
  | none =>
    unfold selected? Environment.text? at selects
    cases held : env kindVariable with
    | none =>
      rw [held] at selects
      exact absurd selects (by decide)
    | some v =>
      cases v with
      | bytes =>
        rw [held] at selects
        exact absurd selects (by decide)
      | text raw =>
        rw [held] at selects
        have unknown : Kind.ofName? (Text.trim raw) = none := selects
        refine absurd (Offence.kind held ?_) (clear kindVariable raw)
        intro other same
        rwa [← Variable.text.inj same]

theorem complete_reads
    (readable : ∀ field ∈ kind.fields, ∀ raw,
      env field.variableName = some (.text raw) → field.reads raw)
    (maxAttempts : UInt32) (delayMs : UInt64) :
    ∃ settings, complete env maxAttempts delayMs kind = .ok settings := by
  cases kind with
  | fixed => exact ⟨.fixed maxAttempts delayMs, rfl⟩
  | exponential =>
    obtain ⟨multiplier, growth⟩ : ∃ found, numeric env _ Decimal.read? = .ok found :=
      numeric_reads (readable .multiplier (by decide))
    obtain ⟨maxDelayMs, cap⟩ : ∃ found, numeric env _ word64? = .ok found :=
      numeric_reads (readable .maxDelayMs (by decide))
    obtain ⟨jitter, share⟩ : ∃ found, numeric env _ Decimal.read? = .ok found :=
      numeric_reads (readable .jitter (by decide))
    rw [complete, growth, cap, share]
    exact ⟨_, rfl⟩
  | timeout =>
    obtain ⟨budgetMs, budget⟩ : ∃ found, numeric env _ word64? = .ok found :=
      numeric_reads (readable .budgetMs (by decide))
    rw [complete, budget]
    exact ⟨_, rfl⟩

/-- Where no text offends, all that the kind needs is read. -/
theorem described?_reads (clear : ∀ name raw, ¬ Offence env name (.text raw))
    (selects : selected? env = some kind)
    (counted : kind = .timeout → attemptsFault? env = none) :
    ∃ settings, described? env = .ok settings := by
  have readable (field : Field) (applies : field ∈ kind.fields) (raw : String)
      (set : env field.variableName = some (.text raw)) : field.reads raw := by
    cases unread : field.reads raw with
    | true => rfl
    | false =>
      refine absurd (Offence.number selects applies set ?_) (clear field.variableName raw)
      intro other same
      rwa [← Variable.text.inj same]
  obtain ⟨maxAttempts, attempts⟩ :
      ∃ found, numeric env Field.maxAttempts.variableName word32? = .ok found := by
    cases kind with
    | fixed => exact numeric_reads (readable .maxAttempts (by decide))
    | exponential => exact numeric_reads (readable .maxAttempts (by decide))
    | timeout => exact attemptsFault?_eq_none_iff.mp (counted rfl)
  obtain ⟨delayMs, delay⟩ :
      ∃ found, numeric env Field.delayMs.variableName word64? = .ok found := by
    cases kind with
    | fixed => exact numeric_reads (readable .delayMs (by decide))
    | exponential => exact numeric_reads (readable .baseDelayMs (by decide))
    | timeout => exact numeric_reads (readable .delayMs (by decide))
  rw [described?_of_selected selects, attempts, delay]
  exact complete_reads readable _ _

/-- Reading fails by a text that cannot be used, or by a number of attempts that a time limit has no
use for. -/
theorem described?_fails_iff :
    Fails (described? env) ↔ (∃ name raw, Offence env name (.text raw)) ∨
      selected? env = some .timeout ∧ ∃ fault, attemptsFault? env = some fault := by
  constructor
  · rintro ⟨fault, refused⟩
    by_cases offends : ∃ name raw, Offence env name (.text raw)
    · exact Or.inl offends
    have clear : ∀ name raw, ¬ Offence env name (.text raw) :=
      fun name raw offence => offends ⟨name, raw, offence⟩
    obtain ⟨kind, selects⟩ := exists_selected? clear
    by_cases counted : kind = .timeout → attemptsFault? env = none
    · obtain ⟨settings, accepted⟩ := described?_reads clear selects counted
      rw [accepted] at refused
      contradiction
    · obtain ⟨rfl, failed⟩ := Classical.not_imp.mp counted
      exact Or.inr ⟨selects, Option.ne_none_iff_exists'.mp failed⟩
  · rintro (⟨name, raw, offence⟩ | ⟨selects, fault, unread⟩)
    · exact described?_fails_of_offence offence
    · rw [described?_of_selected selects]
      exact Fails.bind ⟨fault, attemptsFault?_eq_some_iff.mp unread⟩ _

/-- Every reading goes through the texts of the variables. -/
theorem ofEnvironment_legible (env : Environment) :
    ofEnvironment env.legible = ofEnvironment env := by
  have numeric_eq {α : Type} (name : String) (parse : String → Option α) :
      numeric env.legible name parse = numeric env name parse := by
    simp only [numeric, env.text?_legible]
  simp only [ofEnvironment, described?, numeric_eq, env.text?_legible]

/-- A text that cannot be used is refused, whatever else is set, and of the variables that apply
nothing else is. Bytes are not refused: they change nothing. -/
theorem ofEnvironment_refuses_text (env : Environment) :
    (∀ name raw, Offence env name (.text raw) → ∃ parameter reason,
      (ofEnvironment env).mapError Fault.error = .error (.invalidParameter parameter reason)) ∧
    ofEnvironment env.legible = ofEnvironment env ∧
    (Fails (described? env) ↔ (∃ name raw, Offence env name (.text raw)) ∨
      selected? env = some .timeout ∧ ∃ fault, attemptsFault? env = some fault) := by
  refine ⟨?_, ofEnvironment_legible env, described?_fails_iff⟩
  intro name raw offence
  obtain ⟨fault, refused⟩ := (described?_fails_of_offence offence).bind _
  exact ⟨fault.parameter, fault.reason, by rw [ofEnvironment, refused]; rfl⟩

/-- A jitter that is no number, with no kind named. -/
def unjudged : Environment := .ofList [("RELENTLESS_JITTER", .text " lots ")]

theorem unjudged_refused :
    Offence unjudged "RELENTLESS_JITTER" (.text " lots ") ∧ ∃ parameter reason,
      (ofEnvironment unjudged).mapError Fault.error =
        .error (.invalidParameter parameter reason) := by
  have selects : selected? unjudged = some .exponential := by decide +kernel
  have applies : Field.jitter ∈ Kind.exponential.fields := by decide
  have set : unjudged Field.jitter.variableName = some (.text " lots ") := by decide +kernel
  have unread (raw : String) (same : Variable.text " lots " = .text raw) :
      Field.jitter.reads raw = false := by
    obtain rfl := Variable.text.inj same
    decide +kernel
  have offence : Offence unjudged "RELENTLESS_JITTER" (.text " lots ") :=
    .number selects applies set unread
  exact ⟨offence, (ofEnvironment_refuses_text unjudged).1 _ _ offence⟩

/-- A constant delay, and bytes for the number of attempts. -/
def garbled : Environment := .ofList
  [("RELENTLESS_STRATEGY", .text "fixed"), ("RELENTLESS_MAX_ATTEMPTS", .bytes)]

theorem garbled_accepted :
    Offence garbled "RELENTLESS_MAX_ATTEMPTS" .bytes ∧
      ofEnvironment garbled = .ok (.fixed 3 100) ∧
      ¬ ∀ env name v, Offence env name v → ∃ parameter reason,
        (ofEnvironment env).mapError Fault.error =
          .error (.invalidParameter parameter reason) := by
  have selects : selected? garbled = some .fixed := by decide +kernel
  have applies : Field.maxAttempts ∈ Kind.fixed.fields := by decide
  have set : garbled Field.maxAttempts.variableName = some .bytes := by decide +kernel
  have offence : Offence garbled "RELENTLESS_MAX_ATTEMPTS" .bytes :=
    .number selects applies set fun raw same => by contradiction
  have accepted : ofEnvironment garbled = .ok (.fixed 3 100) := rfl
  refine ⟨offence, accepted, ?_⟩
  intro refuses
  obtain ⟨parameter, reason, refused⟩ := refuses garbled _ _ offence
  rw [accepted] at refused
  contradiction

end Settings
end Retry
