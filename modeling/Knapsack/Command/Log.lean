import Knapsack.Event

/-!
The log. It goes to the error output record by record: with `--verbose` every record of the program,
else those that the environment asks for, and only warnings if it asks for none. How a record is
written, with the time and with how long the work took, is up to the log.
-/

namespace Knapsack

/-- The levels that occur, the most important first. -/
inductive Level where
  | warn
  | info
  | debug
deriving DecidableEq, Repr

def Level.rank : Level → Nat
  | .warn => 0
  | .info => 1
  | .debug => 2

def Level.name : Level → String
  | .warn => "WARN"
  | .info => "INFO"
  | .debug => "DEBUG"

def LogRecord.level : LogRecord → Level
  | .solving _ _ => .info
  | .event _ => .debug
  | .timed _ => .debug

structure Log where
  /-- The records that the environment asks for, if it asks for any. -/
  asked? : Option (LogRecord → Bool) := none
  /-- What is written for a record, by how many were written before it. -/
  write : Nat → LogRecord → String

namespace Log

/-- Whether a log up to a level has the record. -/
def upTo (limit : Level) (record : LogRecord) : Bool :=
  record.level.rank ≤ limit.rank

def shows (log : Log) (verbose : Bool) : LogRecord → Bool :=
  if verbose then upTo .debug else log.asked?.getD (upTo .warn)

/-- What is written for records, of which `count` were written before. -/
def textFrom (log : Log) (count : Nat) : List LogRecord → String
  | [] => ""
  | record :: records => log.write count record ++ log.textFrom (count + 1) records

/-- What is written for those of the records that are shown. -/
def text (log : Log) (verbose : Bool) (records : List LogRecord) : String :=
  log.textFrom 0 (records.filter (log.shows verbose))

/-- A log without a clock. -/
def plain : Log where
  write _ record := s!"{record.level.name} {record.message}\n"

end Log

end Knapsack
