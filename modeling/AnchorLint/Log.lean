import AnchorLint.Text.Basic

/-!
# Log entries

What a run has to say beside its results, with the part of the program that
says it.
-/

namespace AnchorLint

inductive LogLevel where
  | info
  | warning
deriving DecidableEq

def LogLevel.name : LogLevel → Text
  | info => "INFO".toList
  | warning => "WARNING".toList

/-- A remark of a part of the program. -/
structure LogEntry where
  level : LogLevel
  source : Text
  message : Text
deriving DecidableEq

def LogEntry.write (entry : LogEntry) : Text :=
  entry.level.name ++ ' ' :: "lintmark.".toList ++ entry.source
    ++ ": ".toList ++ entry.message

/-- A computation that makes remarks and may fail.  The remarks before a
failure stay. -/
abbrev Logged (ε α : Type) := ExceptT ε (StateM (List LogEntry)) α

namespace Logged

variable {ε α : Type}

/-- Makes a remark. -/
def remark (entry : LogEntry) : Logged ε Unit :=
  modify fun log => log ++ [entry]

/-- A result or a failure, without a remark. -/
def ofExcept (result : Except ε α) : Logged ε α :=
  match result with
  | .ok value => pure value
  | .error error => throw error

/-- The result and the remarks. -/
def result (computation : Logged ε α) : Except ε α × List LogEntry :=
  computation.run.run []

end Logged

end AnchorLint
