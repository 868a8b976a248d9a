import Retry.Proofs.Condition.Kinds

/-! The texts that a pattern judges. A value carries a text if it is one behind any number of
pointers and present options, and in no other way: an absent option anywhere on the way, or a value
without text innermost, leaves nothing to judge. A rule asks for a retry of a text by its match
alone, so the layers around a text never show in the answer, and where there is no text neither a
rule that retries matches nor one that retries misses asks for anything. -/
namespace Retry

namespace Carrier

/-- What may stand around a carrier without hiding its text. -/
inductive Layer where
  | pointer
  | present

def Layer.around : Layer → Carrier → Carrier
  | .pointer => .pointer
  | .present => .present

/-- A carrier behind layers, the outermost first. -/
def within (layers : List Layer) (c : Carrier) : Carrier := layers.foldr Layer.around c

theorem text?_around (layer : Layer) (c : Carrier) : (layer.around c).text? = c.text? := by
  cases layer <;> rfl

theorem text?_within (layers : List Layer) (c : Carrier) : (within layers c).text? = c.text? := by
  induction layers with
  | nil => rfl
  | cons layer layers ih => exact (text?_around layer (within layers c)).trans ih

/-- A further layer goes around those that are there. -/
theorem exists_within_around {c core : Carrier} (layer : Layer)
    (inside : ∃ layers, c = within layers core) :
    ∃ layers, layer.around c = within layers core := by
  obtain ⟨layers, rfl⟩ := inside
  exact ⟨layer :: layers, rfl⟩

theorem exists_within_of_text? {c : Carrier} {text : String} (carried : c.text? = some text) :
    ∃ layers, c = within layers (.text text) := by
  induction c with
  | text s =>
    cases carried
    exact ⟨[], rfl⟩
  | blank | absent => cases carried
  | pointer inner ih => exact exists_within_around .pointer (ih carried)
  | present inner ih => exact exists_within_around .present (ih carried)

theorem text?_eq_some_iff {c : Carrier} {text : String} :
    c.text? = some text ↔ ∃ layers, c = within layers (.text text) := by
  constructor
  · exact exists_within_of_text?
  · rintro ⟨layers, rfl⟩
    exact text?_within layers (.text text)

end Carrier

/-- The types built from texts and from the type without text by pointers and options. A pointer to
a value is the value. -/
inductive Nesting where
  | text
  | blank
  | pointer (inner : Nesting)
  | option (inner : Nesting)

namespace Nesting

def Value : Nesting → Type
  | text => String
  | blank => Unit
  | pointer inner => inner.Value
  | option inner => Option inner.Value

/-- A value carries what its outermost type says, a pointer what the value behind it does. -/
instance carries : (n : Nesting) → TextCarrier n.Value
  | text => inferInstanceAs (TextCarrier String)
  | blank => inferInstanceAs (TextCarrier Unit)
  | pointer inner => carries inner
  | option inner =>
    have := carries inner
    inferInstanceAs (TextCarrier (Option inner.Value))

/-- A value with its layers written out. -/
def carrier : (n : Nesting) → n.Value → Carrier
  | text, s => .text s
  | blank, _ => .blank
  | pointer inner, value => .pointer (inner.carrier value)
  | option _, none => .absent
  | option inner, some value => .present (inner.carrier value)

theorem text?_carrier (n : Nesting) (value : n.Value) :
    (n.carrier value).text? = TextCarrier.text? value := by
  induction n with
  | text | blank => rfl
  | pointer inner ih => exact ih value
  | option inner ih =>
    cases value with
    | none => rfl
    | some value => exact ih value

end Nesting

namespace PatternRule

variable {T U E : Type} [TextCarrier T] [TextCarrier U] [Chained E] {rule : PatternRule}

/-- Whether a condition made of this rule alone asks for another attempt. -/
def asks (rule : PatternRule) (outcome : Outcome T E) : Bool :=
  ((Condition.pattern rule : Condition T E).verdict outcome).retry

theorem asks_of_text {value : T} {text : String} (carried : TextCarrier.text? value = some text) :
    rule.asks (.success value : Outcome T E) =
      (rule.pattern.isMatch text == rule.retryOnMatch) := by
  simp only [asks, Condition.verdict, holds, carried]

theorem asks_of_no_text {value : T} (bare : TextCarrier.text? value = none) :
    rule.asks (.success value : Outcome T E) = false := by
  simp only [asks, Condition.verdict, holds, bare]

theorem asks_failure (error : E) : rule.asks (.failure error : Outcome T E) = false := rfl

theorem asks_success_iff {value : T} :
    rule.asks (.success value : Outcome T E) = true ↔
      ∃ text, TextCarrier.text? value = some text ∧
        rule.pattern.isMatch text = rule.retryOnMatch := by
  cases carried : TextCarrier.text? value with
  | none => simp [asks_of_no_text carried]
  | some text => simp [asks_of_text carried]

/-- Values that carry the same text, or none, get the same answer. -/
theorem asks_congr {value : T} {other : U}
    (same : TextCarrier.text? value = TextCarrier.text? other) :
    rule.asks (.success value : Outcome T E) = rule.asks (.success other : Outcome U E) := by
  rw [Bool.eq_iff_iff, asks_success_iff, asks_success_iff, same]

/-- A text is retried by exactly one of the two rules that a pattern makes. -/
theorem asks_onMatch_of_text {value : T} {text : String}
    (carried : TextCarrier.text? value = some text) :
    (rule.onMatch true).asks (.success value : Outcome T E) =
      !(rule.onMatch false).asks (.success value : Outcome T E) := by
  rw [asks_of_text carried, asks_of_text carried]
  simp only [onMatch]
  cases rule.pattern.isMatch text <;> rfl

/-- A value carries a text exactly if that is innermost and nothing but pointers and present options
stands around it, and a rule asks for a retry of a value exactly if it carries a text that matches
as the rule wants. So a text is retried by one of a pattern's two rules and not by the other, a
value without text and an error by neither, and layers that are added somewhere or left out make no
difference. -/
theorem asks_by_text (E : Type) [Chained E] (rule : PatternRule) :
    (∀ (n : Nesting) (value : n.Value) (text : String),
      TextCarrier.text? value = some text ↔
        ∃ layers, n.carrier value = Carrier.within layers (.text text)) ∧
    (∀ (T : Type) [TextCarrier T] (value : T),
      (rule.asks (.success value : Outcome T E) = true ↔
        ∃ text, TextCarrier.text? value = some text ∧
          rule.pattern.isMatch text = rule.retryOnMatch) ∧
      (∀ text, TextCarrier.text? value = some text →
        (rule.onMatch true).asks (.success value : Outcome T E) =
          !(rule.onMatch false).asks (.success value : Outcome T E)) ∧
      (TextCarrier.text? value = none →
        ∀ retryOnMatch, (rule.onMatch retryOnMatch).asks (.success value : Outcome T E) = false) ∧
      ∀ (error : E) retryOnMatch,
        (rule.onMatch retryOnMatch).asks (.failure error : Outcome T E) = false) ∧
    (∀ (n : Nesting) (value : n.Value),
      rule.asks (.success value : Outcome n.Value E) =
        rule.asks (.success (n.carrier value) : Outcome Carrier E)) ∧
    ∀ outer more (inner : Carrier),
      rule.asks (.success (Carrier.within (outer ++ more) inner) : Outcome Carrier E) =
        rule.asks (.success (Carrier.within outer inner) : Outcome Carrier E) := by
  refine ⟨?_, fun T _ value => ⟨asks_success_iff, ?_, ?_, ?_⟩, ?_, ?_⟩
  · intro n value text
    rw [← n.text?_carrier value, Carrier.text?_eq_some_iff]
  · intro text carried
    exact asks_onMatch_of_text carried
  · intro bare retryOnMatch
    exact asks_of_no_text bare
  · intro error retryOnMatch
    exact asks_failure error
  · intro n value
    exact asks_congr (n.text?_carrier value).symm
  · intro outer more inner
    apply asks_congr
    show (Carrier.within (outer ++ more) inner).text? = (Carrier.within outer inner).text?
    rw [Carrier.text?_within, Carrier.text?_within]

/-- Optional pointers to optional texts. -/
def optionalNote : Nesting := .option (.pointer (.option .text))

/-- Matches the empty text only. -/
def emptiness : PatternRule := .ofPattern ⟨"^$", (· == "")⟩

def answer (retryOnMatch : Bool) (note : optionalNote.Value) : Bool :=
  (emptiness.onMatch retryOnMatch).asks
    (.success note : Outcome optionalNote.Value ErrorKinds.Layered)

theorem emptiness_asks :
    answer true (some (some "")) = true ∧ answer false (some (some "")) = false ∧
      answer true (some (some "done")) = false ∧ answer false (some (some "done")) = true ∧
      (∀ retryOnMatch, answer retryOnMatch (some none) = false) ∧
      ∀ retryOnMatch, answer retryOnMatch none = false := by
  obtain ⟨carried, judged, -, -⟩ := asks_by_text ErrorKinds.Layered emptiness
  have text (s : String) : TextCarrier.text? (some (some s) : optionalNote.Value) = some s :=
    (carried optionalNote _ s).mpr ⟨[.present, .pointer, .present], rfl⟩
  obtain ⟨-, exclusive, -, -⟩ := judged optionalNote.Value (some (some ""))
  obtain ⟨-, turned, -, -⟩ := judged optionalNote.Value (some (some "done"))
  obtain ⟨-, -, inner, -⟩ := judged optionalNote.Value (some none)
  obtain ⟨-, -, outer, -⟩ := judged optionalNote.Value none
  have matching : answer false (some (some "")) = false := by decide
  have missing : answer false (some (some "done")) = true := by decide
  refine ⟨?_, matching, ?_, missing, inner rfl, outer rfl⟩
  · exact (exclusive "" (text "")).trans (congrArg (!·) matching)
  · exact (turned "done" (text "done")).trans (congrArg (!·) missing)

end PatternRule
end Retry
