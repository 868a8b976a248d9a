import Mathlib.Logic.Function.Basic
import Mathlib.Tactic.Convert
import Retry.Proofs.Execution.Cancellation
import Retry.Proofs.Fleet.Turn

/-! Executions side by side on one executor, under every schedule. A step of one execution leaves
all others where they are, so that each execution stands where its own turns alone have brought
it (`Fleet.share?_follow`): it does what it does with nobody beside it, as far as its turns reach,
and how the others are scheduled shows only in the order of the common log. The executor is
shared, and nothing else is: judging and pacing are functions of what an execution shows them. -/
namespace Retry

variable {T E : Type}

/-- `whole` takes from the lists `parts`, one element at a time and from each in its order, until
nothing is left in any of them. -/
inductive Merges {α : Type} : (Nat → List α) → List α → Prop where
  | nil : Merges (fun _ => []) []
  | cons {parts : Nat → List α} {whole rest : List α} {a : α} (i : Nat)
      (first : parts i = a :: rest) (merged : Merges (Function.update parts i rest) whole) :
      Merges parts (a :: whole)

/-- What is gathered from a tagged log merges what is gathered under each tag. -/
theorem Merges.filterMap {α β : Type} (g : α → Option β) (log : List (Nat × α)) :
    Merges (fun i => (log.filterMap fun (j, a) => if j = i then some a else none).filterMap g)
      (log.filterMap fun (_, a) => g a) := by
  induction log with
  | nil => exact .nil
  | cons entry log ih =>
    obtain ⟨j, a⟩ := entry
    cases found : g a with
    | none =>
      convert ih using 1
      · funext i
        by_cases own : j = i <;> simp [own, found]
      · simp [found]
    | some b =>
      have whole : ((j, a) :: log).filterMap (fun (_, a) => g a) =
          b :: log.filterMap fun (_, a) => g a := List.filterMap_cons_some found
      have own : (((j, a) :: log).filterMap fun (k, a) => if k = j then some a else none).filterMap
          g = b :: (log.filterMap fun (k, a) => if k = j then some a else none).filterMap g := by
        simp [found]
      rw [whole]
      refine .cons j own ?_
      convert ih using 1
      funext i
      by_cases own : i = j
      · subst own
        simp
      · simp [own, Ne.symm own]

namespace Fleet

variable {r : Rules T E} {f : Fleet T E} {i j : Nat}

def share? (f : Fleet T E) (i : Nat) : Option (Share T E) :=
  f.tasks[i]?.map fun t => ⟨t, f.actionsOf i⟩

/-- The execution with number `i` has nothing left to do. -/
def Finished (f : Fleet T E) (i : Nat) : Prop := ∃ t, f.tasks[i]? = some t ∧ t.finished = true

theorem progress?_eq (f : Fleet T E) (i : Nat) :
    f.progress? i = (f.share? i).map Share.progress := by
  simp [progress?, share?, Share.progress, Function.comp_def]

theorem finished_of_share? {s : Share T E} (stands : f.share? i = some s) :
    f.Finished i ↔ s.task.finished = true := by
  obtain ⟨t, member, rfl⟩ := Option.map_eq_some_iff.mp stands
  simp [Finished, member]

theorem actionsOf_of_share? {s : Share T E} (stands : f.share? i = some s) :
    f.actionsOf i = s.done := by
  obtain ⟨t, _, rfl⟩ := Option.map_eq_some_iff.mp stands
  rfl

theorem step_of_lt (r : Rules T E) (f : Fleet T E) (member : i < f.tasks.size) :
    f.step r i = ⟨f.tasks.set i (f.tasks[i].step r).1,
      f.log ++ (f.tasks[i].step r).2.toList.map (i, ·)⟩ := by
  rw [step, dif_pos member]
  rcases f.tasks[i].step r with ⟨task, _ | action⟩ <;> simp

theorem step_of_not_lt (r : Rules T E) (f : Fleet T E) (outside : ¬ i < f.tasks.size) :
    f.step r i = f :=
  dif_neg outside

/-- A step of an execution is a turn of its own. -/
theorem share?_step_self (r : Rules T E) (f : Fleet T E) (i : Nat) :
    (f.step r i).share? i = (f.share? i).map (Share.turn r) := by
  by_cases member : i < f.tasks.size
  · rw [step_of_lt r f member]
    rcases performed : (f.tasks[i].step r).2 with _ | action <;>
      simp [share?, actionsOf, Share.turn, member, performed]
  · have outside : f.tasks[i]? = none := Array.getElem?_eq_none (Nat.not_lt.mp member)
    simp [step_of_not_lt r f member, share?, outside]

theorem tasks_step_of_ne (r : Rules T E) (f : Fleet T E) (other : j ≠ i) :
    (f.step r j).tasks[i]? = f.tasks[i]? := by
  by_cases member : j < f.tasks.size
  · rw [step_of_lt r f member, Array.getElem?_set_ne member other]
  · rw [step_of_not_lt r f member]

theorem actionsOf_step_of_ne (r : Rules T E) (f : Fleet T E) (other : j ≠ i) :
    (f.step r j).actionsOf i = f.actionsOf i := by
  by_cases member : j < f.tasks.size
  · rw [step_of_lt r f member]
    rcases (f.tasks[j].step r).2 with _ | action <;> simp [actionsOf, other]
  · rw [step_of_not_lt r f member]

/-- A step of one execution leaves the others where they are. -/
theorem share?_step_of_ne (r : Rules T E) (f : Fleet T E) (other : j ≠ i) :
    (f.step r j).share? i = f.share? i := by
  rw [share?, tasks_step_of_ne r f other, actionsOf_step_of_ne r f other, share?]

/-- Whatever the schedule, an execution stands where its own turns alone have brought it. -/
theorem share?_follow (r : Rules T E) (f : Fleet T E) (schedule : List Nat) (i : Nat) :
    (f.follow r schedule).share? i = (f.share? i).map (Share.turn r)^[schedule.count i] := by
  induction schedule generalizing f with
  | nil => simp [follow]
  | cons j schedule ih =>
    have next : f.follow r (j :: schedule) = (f.step r j).follow r schedule := rfl
    rw [next, ih]
    by_cases own : j = i
    · subst own
      rw [share?_step_self, List.count_cons_self, Option.map_map, Function.iterate_succ]
    · rw [share?_step_of_ne r f own, List.count_cons_of_ne own]

/-- Nothing is done under a number that no execution has. -/
theorem actionsOf_follow_of_none (r : Rules T E) (f : Fleet T E) (schedule : List Nat)
    (absent : f.tasks[i]? = none) : (f.follow r schedule).actionsOf i = f.actionsOf i := by
  induction schedule generalizing f with
  | nil => rfl
  | cons j schedule ih =>
    have next : f.follow r (j :: schedule) = (f.step r j).follow r schedule := rfl
    by_cases own : j = i
    · subst own
      have still := step_of_not_lt r f (Nat.not_lt.mpr (Array.getElem?_eq_none_iff.mp absent))
      rw [next, still, ih f absent]
    · rw [next, ih _ ((tasks_step_of_ne r f own).trans absent), actionsOf_step_of_ne r f own]

theorem share?_launch (x : Executor T E) (members : List (Member T E))
    (i : Nat) : (launch x members).share? i = members[i]?.map fun m => ⟨.start x m, []⟩ := by
  simp [launch, share?, actionsOf, Function.comp_def]

/-- The events that execution `i` has told. -/
def eventsOf (f : Fleet T E) (i : Nat) : List Event := (f.actionsOf i).filterMap Action.event?

theorem events_of_progress? {p : Progress T E} (stands : f.progress? i = some p) :
    f.eventsOf i = p.events := by
  obtain ⟨t, _, rfl⟩ := Option.map_eq_some_iff.mp stands
  rfl

variable [TextCarrier T] [Chained E]

/-- Execution `i` does in the fleet what `m` does alone, as far as `turns` turns of its own
reach: `n` rounds are done when it has had a turn for each of them and for each of their
actions. -/
structure GoesAlone (f : Fleet T E) (x : Executor T E) (m : Member T E) (i turns : Nat) :
    Prop where
  behind : ∃ p n, f.progress? i = some p ∧ p.log.toList <+: (m.alone x n).log.toList ∧
    (f.Finished i → p = m.alone x n ∧ ∃ e, (m.alone x n).stage = .ended e)
  keeps_up : ∀ n, n + (m.alone x n).log.size ≤ turns →
    (m.alone x n).log.toList <+: f.actionsOf i ∧
      ((∃ e, (m.alone x n).stage = .ended e) → f.Finished i)

theorem GoesAlone.of_at {s : Share T E} {x : Executor T E} {m : Member T E} {turns n : Nat}
    (stands : f.share? i = some s) (here : s.At x m turns n) : f.GoesAlone x m i turns where
  behind := by
    refine ⟨s.progress, n, ?_, here.done_prefix, ?_⟩
    · rw [progress?_eq, stands]
      rfl
    · rw [finished_of_share? stands]
      exact here.progress_of_finished
  keeps_up k enough := by
    rw [actionsOf_of_share? stands, finished_of_share? stands]
    exact here.keeps_up enough

/-- Under every schedule each execution does what it does alone: the same calls, the same
questions with the same contexts, the same events and, once it has finished, the same result. The
events that the shared observer is told are those of the executions, merged. -/
theorem interleaving_of_alone (x : Executor T E) (members : List (Member T E))
    (schedule : List Nat) :
    let f := (launch x members).follow x.rules schedule
    (∀ i m, members[i]? = some m → f.GoesAlone x m i (schedule.count i)) ∧
    ∃ told : Nat → List Event, Merges told f.events ∧
      (∀ i, members[i]? = none → told i = []) ∧
      ∀ i m, members[i]? = some m → ∃ n, told i <+: (m.alone x n).events ∧
        (f.Finished i → told i = (m.alone x n).events ∧ ∃ e, (m.alone x n).stage = .ended e) := by
  intro f
  have each : ∀ i m, members[i]? = some m → f.GoesAlone x m i (schedule.count i) := by
    intro i m member
    obtain ⟨n, here⟩ := Share.At.iterate x m (schedule.count i)
    refine .of_at ?_ here
    rw [share?_follow, share?_launch, member]
    rfl
  refine ⟨each, f.eventsOf, .filterMap Action.event? f.log.toList, ?_, ?_⟩
  · intro i absent
    have outside : (launch x members).tasks[i]? = none := by
      simpa [launch] using absent
    rw [eventsOf, actionsOf_follow_of_none x.rules _ schedule outside]
    rfl
  · intro i m member
    obtain ⟨p, n, stands, begun, done⟩ := (each i m member).behind
    rw [events_of_progress? stands]
    refine ⟨n, begun.filterMap Action.event?, fun finished => ?_⟩
    obtain ⟨rfl, ended⟩ := done finished
    exact ⟨rfl, ended⟩

end Fleet

/-- An execution that starts 2 ms late, so that its token is cancelled at the end of its first
wait. -/
def lateMember : Member String Cause := ⟨.cancellable, interrupted, .ofMillis 2⟩

def mixedMembers : List (Member String Cause) := [⟨.plain, slowStart, .zero⟩, lateMember]

def unevenSchedule : List Nat := [0, 0, 1, 0] ++ (List.replicate 12 [1, 1, 0]).flatten

theorem lateMember_interleaving :
    let f := (Fleet.launch patient mixedMembers).follow patient.rules unevenSchedule
    mixedMembers[1]? = some lateMember ∧ f.GoesAlone patient lateMember 1 25 ∧
      1 + (lateMember.alone patient 1).log.size ≤ 25 ∧ f.Finished 1 ∧
      f.progress? 1 = some (lateMember.alone patient 1) ∧
      ∃ told, Merges told f.events ∧ told 1 =
        [⟨1, .retriableError, some (.ofMillis 5), .zero, some (.error "no answer")⟩] := by
  intro f
  have member : mixedMembers[1]? = some lateMember := rfl
  have enough : 1 + (lateMember.alone patient 1).log.size ≤ 25 := by decide
  obtain ⟨each, told, merged, _, own⟩ :=
    Fleet.interleaving_of_alone patient mixedMembers unevenSchedule
  have goes : f.GoesAlone patient lateMember 1 25 := each 1 lateMember member
  have finished := (goes.keeps_up 1 enough).2 ⟨_, rfl⟩
  obtain ⟨p, m, stands, _, done⟩ := goes.behind
  obtain ⟨rfl, _, ended⟩ := done finished
  obtain ⟨n, _, whole⟩ := own 1 lateMember member
  obtain ⟨same, _, last⟩ := whole finished
  rw [Member.alone_eq_of_ended ended (l := 1) rfl] at stands
  rw [Member.alone_eq_of_ended last (l := 1) rfl] at same
  exact ⟨member, goes, enough, finished, stands, told, merged, same⟩

end Retry
