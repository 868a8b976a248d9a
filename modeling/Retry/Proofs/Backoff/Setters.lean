import Mathlib.Data.List.Induction
import Retry.Proofs.Backoff.Growth

/-! Backoffs as their choices make them. Each setter names one field, and the field is what the last
choice of its setter made of it: the choices before that one, and those of other setters, leave no
trace. So a backoff depends on the last choice of each setter alone, and choices of different
setters can change places. No choice leaves a cap of zero behind. A jitter is within the unit
interval unless it was chosen as no number, which the bounds do not move; such a backoff waits as
one without jitter does. -/
namespace Retry.Backoff

open Binary64 (Fraction)

/-- The setters of a backoff, one for each field. -/
inductive Setter where
  | maxAttempts
  | baseDelay
  | multiplier
  | maxDelay
  | jitter
deriving DecidableEq

namespace Setter

def Value : Setter → Type
  | maxAttempts => UInt32
  | baseDelay => Duration
  | multiplier => Binary64
  | maxDelay => Option Duration
  | jitter => Binary64

/-- The field that a setter sets. -/
def field : (s : Setter) → Backoff → s.Value
  | maxAttempts => Backoff.maxAttempts
  | baseDelay => Backoff.baseDelay
  | multiplier => Backoff.multiplier
  | maxDelay => Backoff.maxDelay
  | jitter => Backoff.jitter

end Setter

def Choice.setter : Choice → Setter
  | .maxAttempts _ => .maxAttempts
  | .baseDelay _ => .baseDelay
  | .multiplier _ => .multiplier
  | .maxDelay _ => .maxDelay
  | .jitter _ => .jitter

/-- The last choice of a setter, if there is one. -/
def lastOf (s : Setter) (choices : List Choice) : Option Choice :=
  choices.reverse.find? (·.setter = s)

variable {b b' : Backoff} {c d : Choice} {s : Setter} {choices other : List Choice}

theorem ext_field (same : ∀ s : Setter, s.field b = s.field b') : b = b' := by
  cases b
  cases b'
  congr
  · exact same .maxAttempts
  · exact same .baseDelay
  · exact same .multiplier
  · exact same .maxDelay
  · exact same .jitter

/-- What a choice makes of its field does not depend on the backoff before it. -/
theorem field_choose_self (b b' : Backoff) (c : Choice) :
    c.setter.field (b.choose c) = c.setter.field (b'.choose c) := by
  cases c <;> rfl

theorem field_choose_of_ne (foreign : c.setter ≠ s) : s.field (b.choose c) = s.field b := by
  cases c <;> cases s <;> first | rfl | exact absurd rfl foreign

theorem lastOf_append_self (choices : List Choice) (c : Choice) :
    lastOf c.setter (choices ++ [c]) = some c := by
  simp [lastOf]

theorem lastOf_append_of_ne (foreign : c.setter ≠ s) :
    lastOf s (choices ++ [c]) = lastOf s choices := by
  simp [lastOf, foreign]

/-- A field is as though only the last choice of its setter had been made. -/
theorem field_foldl_choose (s : Setter) (b : Backoff) (choices : List Choice) :
    s.field (choices.foldl choose b) = s.field ((lastOf s choices).toList.foldl choose b) := by
  -- Taken from the end, a choice of the setter settles the field and any other leaves it alone.
  induction choices using List.reverseRecOn with
  | nil => rfl
  | append_singleton earlier c ih =>
    rw [List.foldl_append]
    by_cases own : c.setter = s
    · subst own
      rw [lastOf_append_self]
      exact field_choose_self _ b c
    · rw [lastOf_append_of_ne own]
      exact (field_choose_of_ne own).trans ih

theorem field_ofChoices (s : Setter) (choices : List Choice) :
    s.field (ofChoices choices) = s.field (ofChoices (lastOf s choices).toList) :=
  field_foldl_choose s default choices

theorem foldl_choose_congr (same : ∀ s, lastOf s other = lastOf s choices) (b : Backoff) :
    other.foldl choose b = choices.foldl choose b := by
  apply ext_field
  intro s
  rw [field_foldl_choose, field_foldl_choose s b choices, same s]

/-- Choices of different setters can change places. -/
theorem choose_comm (b : Backoff) (foreign : c.setter ≠ d.setter) :
    (b.choose c).choose d = (b.choose d).choose c := by
  apply ext_field
  intro s
  by_cases first : c.setter = s
  · subst first
    rw [field_choose_of_ne foreign.symm]
    exact field_choose_self b (b.choose d) c
  · rw [field_choose_of_ne first]
    by_cases second : d.setter = s
    · subst second
      exact field_choose_self (b.choose c) b d
    · rw [field_choose_of_ne second, field_choose_of_ne second, field_choose_of_ne first]

theorem setter_of_lastOf (last : lastOf s choices = some c) : c.setter = s := by
  simpa using List.find?_some last

/-- The cap that the choices leave behind is not zero. -/
theorem maxDelay_ofChoices_ne_zero (choices : List Choice) :
    (ofChoices choices).maxDelay ≠ some .zero := by
  rw [ofChoices, maxDelay_foldl_choose]
  intro zero
  cases last : choices.reverse.findSome? Choice.cap? with
  | none =>
    rw [last] at zero
    contradiction
  | some cap =>
    simp only [last] at zero
    by_cases lifted : cap = .zero
    · rw [if_pos lifted] at zero
      contradiction
    · rw [if_neg lifted] at zero
      exact lifted (Option.some.inj zero)

/-- The jitter is zero if none was chosen, and the last one moved between its bounds otherwise. -/
theorem jitter_ofChoices (choices : List Choice) :
    (lastOf .jitter choices = none ∧ (ofChoices choices).jitter = 0) ∨
      ∃ x, lastOf .jitter choices = some (.jitter x) ∧
        (ofChoices choices).jitter = x.clamp 0 1 := by
  have share : (ofChoices choices).jitter = (ofChoices (lastOf .jitter choices).toList).jitter :=
    field_ofChoices .jitter choices
  rw [share]
  cases last : lastOf .jitter choices with
  | none => exact Or.inl ⟨rfl, rfl⟩
  | some c =>
    have own := setter_of_lastOf last
    cases c with
    | jitter x => exact Or.inr ⟨x, rfl, rfl⟩
    | maxAttempts | baseDelay | multiplier | maxDelay => cases own

theorem fraction_jitter_iff :
    Fraction (ofChoices choices).jitter ↔ lastOf .jitter choices ≠ some (.jitter .nan) := by
  rcases jitter_ofChoices choices with ⟨last, share⟩ | ⟨x, last, share⟩
  · rw [share, last]
    exact iff_of_true Binary64.fraction_zero nofun
  · rw [share, last, Binary64.fraction_clamp_iff]
    simp

/-- A jitter that is no number moves no delay. -/
theorem steady_of_nan (last : lastOf .jitter choices = some (.jitter .nan)) :
    (ofChoices choices).Steady := by
  rcases jitter_ofChoices choices with ⟨never, -⟩ | ⟨x, once, share⟩
  · rw [never] at last
    cases last
  · rw [once] at last
    cases last
    rw [Steady, share, Binary64.nan_clamp, Binary64.lt_nan]

/-- Whatever the choices are, the cap is not zero, each field is as the last choice of its setter
makes it, or as it is by default, and choices of different setters can change places. The jitter is
a number from zero to one exactly if it was not chosen last as no number; if it was, the delays do
not vary. -/
theorem ofChoices_by_setters (choices : List Choice) :
    (ofChoices choices).maxDelay ≠ some .zero ∧
    (Fraction (ofChoices choices).jitter ↔ lastOf .jitter choices ≠ some (.jitter .nan)) ∧
    (lastOf .jitter choices = some (.jitter .nan) → (ofChoices choices).Steady) ∧
    (∀ s : Setter, s.field (ofChoices choices) = s.field (ofChoices (lastOf s choices).toList)) ∧
    (∀ other, (∀ s, lastOf s other = lastOf s choices) → ofChoices other = ofChoices choices) ∧
    ∀ c d later, c.setter ≠ d.setter →
      ofChoices (choices ++ c :: d :: later) = ofChoices (choices ++ d :: c :: later) := by
  refine ⟨maxDelay_ofChoices_ne_zero choices, fraction_jitter_iff, steady_of_nan, ?_, ?_, ?_⟩
  · intro s
    exact field_ofChoices s choices
  · intro other same
    exact foldl_choose_congr same default
  · intro c d later foreign
    simp only [ofChoices, List.foldl_append, List.foldl_cons]
    rw [choose_comm _ foreign]

/-- A cap that is taken back, and a jitter beyond its bounds after one that is no number. -/
def wavering : List Choice :=
  [.jitter .nan, .maxDelay (.ofMillis 50), .jitter 2, .maxDelay .zero]

theorem wavering_by_setters :
    (ofChoices wavering).maxDelay ≠ some .zero ∧ Fraction (ofChoices wavering).jitter ∧
      (ofChoices (wavering ++ [.jitter .nan])).Steady ∧
      ofChoices [.maxDelay .zero, .jitter 2] = ofChoices wavering ∧
      ofChoices (wavering ++ [.multiplier .nan, .maxAttempts 7]) =
        ofChoices (wavering ++ [.maxAttempts 7, .multiplier .nan]) := by
  obtain ⟨uncapped, fraction, -, -, same, turned⟩ := ofChoices_by_setters wavering
  obtain ⟨-, -, steady, -⟩ := ofChoices_by_setters (wavering ++ [.jitter .nan])
  have number : lastOf .jitter wavering ≠ some (.jitter .nan) := by decide +kernel
  have other : Setter.multiplier ≠ Setter.maxAttempts := by decide
  refine ⟨uncapped, fraction.mpr number, steady rfl, same _ ?_, turned _ _ [] other⟩
  intro s
  cases s <;> decide +kernel

/-- The bounds do not move a jitter that is no number. -/
theorem nan_not_fraction : ¬Fraction (ofChoices [.jitter .nan]).jitter := by
  rw [fraction_jitter_iff]
  exact fun number => number rfl

end Retry.Backoff
