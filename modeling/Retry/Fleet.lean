import Retry.Executor

/-! Executions side by side on one executor. Their actions are interleaved one by one:
a step lets one execution perform its next action, and the log keeps all actions in
the order in which they were performed, each with the number of its execution. -/
namespace Retry

/-- An execution to be made: how it is driven, what it depends on, and when it starts. -/
structure Member (T E : Type) where
  mode : Mode
  scenario : Scenario T E
  begins : Duration

/-- An execution whose current round is performed in part. -/
structure Task (T E : Type) where
  scenario : Scenario T E
  watched : Bool
  due : List (Action T E)
  stage : Stage T E

namespace Task

variable {T E : Type}

def start (x : Executor T E) (m : Member T E) : Task T E where
  scenario := m.scenario
  watched := m.mode.watches
  due := (x.start m.scenario m.begins).log.toList
  stage := (x.start m.scenario m.begins).stage

def finished (t : Task T E) : Bool :=
  match t.due, t.stage with
  | [], .ended _ => true
  | _, _ => false

/-- Performs the next action, and begins a round where none is due. -/
def step (r : Rules T E) (t : Task T E) : Task T E × Option (Action T E) :=
  match t.due, t.stage with
  | action :: due, _ => ({ t with due := due }, some action)
  | [], .paused pause =>
    let next := r.round t.scenario t.watched pause
    ({ t with due := next.actions, stage := next.stage }, none)
  | [], .ended _ => (t, none)

end Task

structure Fleet (T E : Type) where
  tasks : Array (Task T E)
  log : Array (Nat × Action T E)

namespace Fleet

variable {T E : Type}

/-- Executions that start at moments of their own. Until its first step an execution has not
done anything. -/
def launch (x : Executor T E) (members : List (Member T E)) : Fleet T E :=
  ⟨(members.map (Task.start x)).toArray, #[]⟩

/-- Executions that all start with the clock at zero. -/
def start (x : Executor T E) (members : List (Mode × Scenario T E)) : Fleet T E :=
  .launch x (members.map fun (mode, w) => ⟨mode, w, .zero⟩)

/-- One step of the execution with number `i`. -/
def step (r : Rules T E) (f : Fleet T E) (i : Nat) : Fleet T E :=
  if h : i < f.tasks.size then
    match f.tasks[i].step r with
    | (task, some action) => ⟨f.tasks.set i task, f.log.push (i, action)⟩
    | (task, none) => ⟨f.tasks.set i task, f.log⟩
  else f

/-- The steps of a schedule. -/
def follow (r : Rules T E) (f : Fleet T E) (schedule : List Nat) : Fleet T E :=
  schedule.foldl (step r) f

/-- Steps in turn, until all executions have ended or `n` turns are taken. -/
def settle (r : Rules T E) : Nat → Fleet T E → Fleet T E
  | 0, f => f
  | n + 1, f =>
    if f.tasks.all Task.finished then f
    else settle r n (f.follow r (List.range f.tasks.size))

/-- The actions of the execution with number `i`. -/
def actionsOf (f : Fleet T E) (i : Nat) : List (Action T E) :=
  f.log.toList.filterMap fun (j, action) => if j = i then some action else none

/-- The execution with number `i` by itself. -/
def progress? (f : Fleet T E) (i : Nat) : Option (Progress T E) :=
  f.tasks[i]?.map fun task => ⟨(f.actionsOf i).toArray, task.stage⟩

/-- What an observer of all executions is told. -/
def events (f : Fleet T E) : List Event := f.log.toList.filterMap fun (_, action) => action.event?

end Fleet
end Retry
