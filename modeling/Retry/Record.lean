import Retry.Execution.Event
import Retry.Settings.Basic

/-! Structured log records. A record is determined by what it reports, and its
numbers keep the low 64 bits. -/
namespace Retry

inductive Level where
  | trace
  | debug
  | warn
deriving DecidableEq

def Level.name : Level → String
  | .trace => "TRACE"
  | .debug => "DEBUG"
  | .warn => "WARN"

/-- A span opens around an execution; all else is an event. -/
inductive RecordForm where
  | span
  | event
deriving DecidableEq

inductive FieldValue where
  | number (n : UInt64)
  | flag (b : Bool)
  | text (s : String)
deriving DecidableEq

structure Record where
  form : RecordForm
  title : String
  level : Level
  fields : List (String × FieldValue)
deriving DecidableEq

namespace Record

/-- An execution starts. -/
def started (s : Strategy) : Record :=
  ⟨.span, "run", .debug, [("strategy", .text (inspect s))]⟩

def cancelled (attempt : Attempt) : Record :=
  ⟨.event, "Retry cancelled while waiting", .debug, [("attempt", .number attempt.toUInt64)]⟩

/-- An executor has been put together. -/
def built (s : Strategy) : Record :=
  ⟨.event, "Built retry executor", .trace, [("strategy", .text (inspect s))]⟩

/-- Settings have been read from the environment. -/
def loaded (s : Settings) : Record :=
  ⟨.event, "Loaded retry configuration from environment", .debug, [("config", .text (inspect s))]⟩

def millis (d : Duration) : FieldValue := .number (.ofNat d.millis)

/-- The record of an attempt. -/
def ofEvent (e : Event) : Record :=
  let who := [("attempt", .number e.attempt.toUInt64), ("outcome", .text e.outcome.name)]
  let failure := (e.failure.map fun f => ("failure", FieldValue.text f.message)).toList
  match e.outcome, e.delay with
  | .accepted, _ => ⟨.event, "Attempt accepted", .debug, who ++ [("elapsed_ms", millis e.elapsed)]⟩
  | _, some delay =>
    ⟨.event, "Attempt failed, retrying", .warn,
      who ++ [("retrying", .flag true), ("delay_ms", millis delay)] ++ failure⟩
  | .nonRetriableError, none =>
    ⟨.event, "Attempt failed with non-retriable error", .debug,
      who ++ [("retrying", .flag false)] ++ failure⟩
  | _, none =>
    ⟨.event, "Retries exhausted", .warn,
      who ++ [("retrying", .flag false), ("elapsed_ms", millis e.elapsed)] ++ failure⟩

end Record
end Retry
