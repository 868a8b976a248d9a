import Mathlib.Data.List.Infix
import Retry.Proofs.Execution.Ending

/-! Conditions as lists of leaves. How choices between conditions are nested, and which parts of
them are shared, does not show in a verdict: the leaves are asked from left to right until one of
them asks for another attempt, and if none does the condition does not either. So a verdict is
computed from the list of leaves alone (`Condition.verdict_eq`). It lists a predicate once for each
leaf that evaluates it, and a leaf evaluates its predicate only on outcomes of the kind that the
predicate judges. -/
namespace Retry

variable {T E : Type}

/-- A condition that is neither a choice nor shared. -/
inductive Leaf (T E : Type) where
  | errorKinds (kinds : ErrorKinds)
  | errorPredicate (type : String) (predicate : Predicate E)
  | resultPredicate (type : String) (predicate : Predicate T)
  | pattern (rule : PatternRule)

namespace Leaf

/-- Whether the leaf asks for another attempt. It has nothing to say about outcomes of the other
kind. -/
def asks [TextCarrier T] [Chained E] : Leaf T E → Outcome T E → Bool
  | .errorKinds kinds, .failure error => kinds.holds error
  | .errorPredicate _ predicate, .failure error => predicate.holds error
  | .resultPredicate _ predicate, .success value => predicate.holds value
  | .pattern rule, .success value => rule.holds value
  | _, _ => false

/-- The predicate that the leaf evaluates, by its name. One without a name is not listed. -/
def evaluates : Leaf T E → Outcome T E → List String
  | .errorPredicate _ predicate, .failure _ => predicate.name.toList
  | .resultPredicate _ predicate, .success _ => predicate.name.toList
  | _, _ => []

variable [TextCarrier T] [Chained E]

/-- The leaves up to the first one that asks for another attempt, and that one. -/
def reached (leaves : List (Leaf T E)) (outcome : Outcome T E) : List (Leaf T E) :=
  leaves.takeWhile (fun leaf => !leaf.asks outcome) ++ (leaves.find? (·.asks outcome)).toList

/-- The verdict of leaves that are asked one after another. -/
def verdict (leaves : List (Leaf T E)) (outcome : Outcome T E) : Verdict :=
  ⟨leaves.any (·.asks outcome), (reached leaves outcome).flatMap (·.evaluates outcome)⟩

variable {leaves : List (Leaf T E)} {outcome : Outcome T E}

@[simp] theorem reached_nil : reached ([] : List (Leaf T E)) outcome = [] := rfl

theorem reached_cons (leaf : Leaf T E) (rest : List (Leaf T E)) :
    reached (leaf :: rest) outcome =
      if leaf.asks outcome then [leaf] else leaf :: reached rest outcome := by
  unfold reached
  cases asks : leaf.asks outcome with
  | true => simp [asks]
  | false => simp [asks]

theorem reached_append (first second : List (Leaf T E)) :
    reached (first ++ second) outcome =
      if first.any (·.asks outcome) then reached first outcome
      else first ++ reached second outcome := by
  induction first with
  | nil => simp
  | cons leaf rest ih =>
    rw [List.cons_append, reached_cons, reached_cons, ih, List.any_cons]
    cases leaf.asks outcome with
    | true => simp
    | false =>
      simp only [Bool.false_eq_true, if_false, Bool.false_or]
      split <;> simp

theorem verdict_singleton (leaf : Leaf T E) :
    verdict [leaf] outcome = ⟨leaf.asks outcome, leaf.evaluates outcome⟩ := by
  have alone : reached [leaf] outcome = [leaf] := by
    rw [reached_cons, reached_nil]
    split <;> rfl
  rw [verdict, alone]
  simp

/-- No leaf is reached twice, and the leaves are reached in their order. -/
theorem reached_prefix (leaves : List (Leaf T E)) (outcome : Outcome T E) :
    reached leaves outcome <+: leaves := by
  induction leaves with
  | nil => exact List.prefix_refl _
  | cons leaf rest ih =>
    rw [reached_cons]
    split
    · exact ⟨rest, rfl⟩
    · exact List.cons_prefix_cons.mpr ⟨rfl, ih⟩

theorem reached_of_silent (silent : leaves.any (·.asks outcome) = false) :
    reached leaves outcome = leaves := by
  have whole : reached (leaves ++ []) outcome =
      if leaves.any (·.asks outcome) then reached leaves outcome
      else leaves ++ reached [] outcome := reached_append leaves []
  rw [List.append_nil, silent] at whole
  simpa using whole

theorem verdict_append (first second : List (Leaf T E)) :
    verdict (first ++ second) outcome =
      if first.any (·.asks outcome) then verdict first outcome
      else ⟨(verdict second outcome).retry,
        (verdict first outcome).asked ++ (verdict second outcome).asked⟩ := by
  rw [verdict, List.any_append, reached_append]
  cases silent : first.any (·.asks outcome) with
  | true => simp [verdict, silent]
  | false => simp [verdict, reached_of_silent silent]

/-- Leaves none of which asks for another attempt are all asked, in whatever order they stand. -/
theorem asked_perm {other : List (Leaf T E)} (perm : other.Perm leaves)
    (silent : leaves.any (·.asks outcome) = false) :
    (verdict other outcome).asked.Perm (verdict leaves outcome).asked := by
  have still : other.any (·.asks outcome) = false := perm.any_eq.trans silent
  rw [verdict, verdict, reached_of_silent silent, reached_of_silent still]
  exact perm.flatMap_right _

end Leaf

namespace Condition

/-- The leaves of a condition from left to right. -/
def leaves : Condition T E → List (Leaf T E)
  | .errorKinds kinds => [.errorKinds kinds]
  | .errorPredicate type predicate => [.errorPredicate type predicate]
  | .resultPredicate type predicate => [.resultPredicate type predicate]
  | .pattern rule => [.pattern rule]
  | .either left right => left.leaves ++ right.leaves
  | .shared inner => inner.leaves

variable [TextCarrier T] [Chained E]

theorem verdict_eq (c : Condition T E) (outcome : Outcome T E) :
    c.verdict outcome = Leaf.verdict c.leaves outcome := by
  induction c with
  | errorKinds | errorPredicate | resultPredicate | pattern =>
    rw [leaves, Leaf.verdict_singleton]
    cases outcome <;> rfl
  | either left right first second =>
    rw [verdict, leaves, Leaf.verdict_append, first, second]
    rfl
  | shared inner ih =>
    rw [verdict, leaves, ih]

/-- A condition asks for another attempt exactly if one of its leaves does, and evaluates the
predicates of its leaves up to the first one that does, each once and from left to right. Nesting
the choices of a condition otherwise changes nothing; putting its leaves into another order does not
change the answer, nor, if no leaf asks for another attempt, which predicates are evaluated. -/
theorem verdict_of_leaves (c : Condition T E) (outcome : Outcome T E) :
    ((c.verdict outcome).retry = true ↔ ∃ leaf ∈ c.leaves, leaf.asks outcome = true) ∧
    (c.verdict outcome).asked =
      (Leaf.reached c.leaves outcome).flatMap (·.evaluates outcome) ∧
    Leaf.reached c.leaves outcome <+: c.leaves ∧
    ((c.leaves.flatMap (·.evaluates outcome)).Nodup → (c.verdict outcome).asked.Nodup) ∧
    (∀ d : Condition T E, d.leaves = c.leaves → d.verdict outcome = c.verdict outcome) ∧
    (∀ d : Condition T E, d.leaves.Perm c.leaves →
      (d.verdict outcome).retry = (c.verdict outcome).retry ∧
      ((c.verdict outcome).retry = false →
        (d.verdict outcome).asked.Perm (c.verdict outcome).asked)) ∧
    ∀ a b : Condition T E,
      (either (either a b) c).verdict outcome = (either a (either b c)).verdict outcome ∧
        ((either a c).verdict outcome).retry = ((either c a).verdict outcome).retry := by
  simp only [verdict_eq]
  refine ⟨?_, rfl, Leaf.reached_prefix c.leaves outcome, ?_, ?_, ?_, ?_⟩
  · exact List.any_eq_true
  · intro distinct
    have early := (Leaf.reached_prefix c.leaves outcome).flatMap (·.evaluates outcome)
    exact distinct.sublist early.sublist
  · intro d same
    rw [same]
  · intro d perm
    exact ⟨perm.any_eq, Leaf.asked_perm perm⟩
  · intro a b
    constructor
    · simp only [leaves, List.append_assoc]
    · have turned : (a.leaves ++ c.leaves).Perm (c.leaves ++ a.leaves) := List.perm_append_comm
      exact turned.any_eq

/-- Leaves of both kinds, one of them behind a reference. -/
def picky : Condition String Cause :=
  .either (.errorPredicate "Cause" ⟨some "refusal", fun error => error.message == "refused"⟩)
    (.either (.shared (.resultPredicate "String" ⟨some "blank", (· == "")⟩))
      (.either (.errorKinds (.of "Timeout"))
        (.errorPredicate "Cause" ⟨some "any", fun _ => true⟩)))

/-- The last two leaves of `picky` first. -/
def pickyTurned : Condition String Cause :=
  .either
    (.either (.errorKinds (.of "Timeout")) (.errorPredicate "Cause" ⟨some "any", fun _ => true⟩))
    (.either (.errorPredicate "Cause" ⟨some "refusal", fun error => error.message == "refused"⟩)
      (.resultPredicate "String" ⟨some "blank", (· == "")⟩))

theorem picky_verdict :
    picky.verdict (.failure ⟨"Timeout", "no answer"⟩) = ⟨true, ["refusal"]⟩ ∧
      (picky.verdict (.failure ⟨"Timeout", "no answer"⟩)).asked.Nodup ∧
      (pickyTurned.verdict (.failure ⟨"Timeout", "no answer"⟩)).retry = true ∧
      (pickyTurned.verdict (.failure ⟨"Timeout", "no answer"⟩)).asked = [] ∧
      (pickyTurned.verdict (.success "done")).asked.Perm ["blank"] := by
  have turn : (picky.leaves.drop 2 ++ picky.leaves.take 2).Perm
      (picky.leaves.take 2 ++ picky.leaves.drop 2) := List.perm_append_comm
  have perm : pickyTurned.leaves.Perm picky.leaves := turn
  obtain ⟨-, -, -, distinct, -, turned, -⟩ :=
    picky.verdict_of_leaves (.failure ⟨"Timeout", "no answer"⟩)
  obtain ⟨-, -, -, -, -, settled, -⟩ := picky.verdict_of_leaves (.success "done")
  exact ⟨by decide, distinct (by decide), (turned _ perm).1, by decide,
    (settled _ perm).2 (by decide)⟩

end Condition
end Retry
