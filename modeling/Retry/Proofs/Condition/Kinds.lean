import Retry.Condition

/-! Error kinds along chains of causes. The search goes from an error to its causes and ends with
the first link that has one of the kinds or with the last link of all, and its answer speaks of the
whole chain: there is such a link, or there is none. Of the choices that made up the kinds only the
set that they name matters, and neither a further kind nor a further layer around an error undoes a
match. -/
namespace Retry

variable {E : Type} [Chained E]

namespace ErrorKinds

variable {k k' : ErrorKinds} {chain : List Cause}

/-- A first kind and any number of further ones, in the order of their choice. -/
def ofKinds (first : String) (further : List String) : ErrorKinds := further.foldl orKind (of first)

theorem kinds_foldl_orKind (k : ErrorKinds) (further : List String) :
    (further.foldl orKind k).kinds = k.kinds ++ further := by
  induction further generalizing k with
  | nil => exact (List.append_nil k.kinds).symm
  | cons kind further ih =>
    rw [List.foldl_cons, ih, orKind, List.append_assoc]
    rfl

theorem kinds_ofKinds (first : String) (further : List String) :
    (ofKinds first further).kinds = first :: further :=
  kinds_foldl_orKind (of first) further

theorem found_cons_iff {link : Cause} {rest : List Cause} :
    k.found (link :: rest) = true ↔ link.kind ∈ k.kinds ∨ k.found rest = true := by
  simp [found]

theorem found_iff : k.found chain = true ↔ ∃ link ∈ chain, link.kind ∈ k.kinds := by
  induction chain with
  | nil => simp [found]
  | cons link rest ih => simp [found_cons_iff, ih]

theorem holds_iff {e : E} :
    k.holds e = true ↔ ∃ link ∈ Chained.chain e, link.kind ∈ k.kinds :=
  found_iff

/-- More kinds match no less. -/
theorem holds_mono {e : E} (more : k.kinds ⊆ k'.kinds) (holds : k.holds e = true) :
    k'.holds e = true := by
  obtain ⟨link, member, named⟩ := holds_iff.mp holds
  exact holds_iff.mpr ⟨link, member, more named⟩

/-- Nor does a longer chain. -/
theorem holds_of_suffix {F : Type} [Chained F] {e : E} {w : F}
    (inside : Chained.chain e <:+ Chained.chain w) (holds : k.holds e = true) :
    k.holds w = true := by
  obtain ⟨link, member, named⟩ := holds_iff.mp holds
  exact holds_iff.mpr ⟨link, inside.subset member, named⟩

/-- An error matches, and its condition asks for another attempt, exactly if some link of its chain
has one of the chosen kinds. The order of the choices and repeated ones make no difference, a
further choice takes no match away, and an error that matches still does so behind any other
errors. -/
theorem holds_of_kinds (first : String) (further : List String) (e : E) :
    ((ofKinds first further).holds e = true ↔
      ∃ link ∈ Chained.chain e, link.kind ∈ first :: further) ∧
    (∀ (T : Type) [TextCarrier T],
      (Condition.errorKinds (ofKinds first further) : Condition T E).verdict (.failure e) =
        ⟨(ofKinds first further).holds e, []⟩) ∧
    (∀ first' further', (∀ kind, kind ∈ first' :: further' ↔ kind ∈ first :: further) →
      (ofKinds first' further').holds e = (ofKinds first further).holds e) ∧
    (∀ kind, (ofKinds first further).holds e = true →
      ((ofKinds first further).orKind kind).holds e = true) ∧
    ∀ (F : Type) [Chained F] (w : F), Chained.chain e <:+ Chained.chain w →
      (ofKinds first further).holds e = true → (ofKinds first further).holds w = true := by
  refine ⟨?_, fun _ _ => rfl, ?_, ?_, ?_⟩
  · rw [holds_iff, kinds_ofKinds]
  · intro first' further' same
    rw [Bool.eq_iff_iff, holds_iff, holds_iff, kinds_ofKinds, kinds_ofKinds]
    simp only [same]
  · intro kind holds
    apply holds_mono _ holds
    exact List.subset_append_left _ [kind]
  · intro F _ w inside holds
    exact holds_of_suffix inside holds

/-- An error with others behind it. -/
structure Layered where
  outermost : Cause
  behind : List Cause

instance : Chained Layered := ⟨Layered.outermost, Layered.behind⟩

def refusal : Layered := ⟨⟨"Refused", "connection refused"⟩, [⟨"Timeout", "no answer"⟩]⟩

/-- The refusal below two further layers. -/
def outage : Layered :=
  ⟨⟨"Service", "call failed"⟩, ⟨"Transport", "no connection"⟩ :: Chained.chain refusal⟩

theorem refusal_and_outage_hold :
    (ofKinds "Reset" ["Timeout"]).holds refusal = true ∧
      (ofKinds "Timeout" ["Reset", "Timeout"]).holds refusal = true ∧
      ((ofKinds "Reset" ["Timeout"]).orKind "Refused").holds refusal = true ∧
      Chained.chain refusal <:+ Chained.chain outage ∧
      (ofKinds "Reset" ["Timeout"]).holds outage = true ∧
      (ofKinds "Reset" ["Lost"]).holds outage = false := by
  obtain ⟨matched, -, order, further, around⟩ := holds_of_kinds "Reset" ["Timeout"] refusal
  obtain ⟨unmatched, -⟩ := holds_of_kinds "Reset" ["Lost"] outage
  have holds : (ofKinds "Reset" ["Timeout"]).holds refusal = true :=
    matched.mpr ⟨⟨"Timeout", "no answer"⟩, by decide, by decide⟩
  have same : ∀ kind, kind ∈ ["Timeout", "Reset", "Timeout"] ↔ kind ∈ ["Reset", "Timeout"] := by
    intro kind
    simp only [List.mem_cons, List.not_mem_nil, or_false]
    constructor
    · rintro (timeout | reset | timeout)
      · exact Or.inr timeout
      · exact Or.inl reset
      · exact Or.inr timeout
    · rintro (reset | timeout)
      · exact Or.inr (Or.inl reset)
      · exact Or.inl timeout
  have inside : Chained.chain refusal <:+ Chained.chain outage :=
    ⟨[⟨"Service", "call failed"⟩, ⟨"Transport", "no connection"⟩], rfl⟩
  refine ⟨holds, ?_, further "Refused" holds, inside, around _ outage inside holds, ?_⟩
  · rw [order _ _ same, holds]
  · rw [Bool.eq_false_iff, ne_eq, unmatched]
    decide

end ErrorKinds
end Retry
