/-
# Refusals

Why an operation of the agent was refused, and the text that says so; and why a file could
not be used.
-/

namespace SipStills

/-- Why an operation was refused. -/
inductive Fault where
  /-- The engine rejected a command with this status. -/
  | engine (operation : String) (status : Int)
  /-- An account may not hold more than `most` credentials. -/
  | tooManyCredentials (most : Nat)
  /-- The engine does not hold the account. -/
  | invalidAccount (account : Int)
  /-- The agent is being torn down, or is gone. -/
  | closing
  /-- A consumer is installed already. -/
  | consumerAlreadySet
  /-- The pipeline runs, so its consumer is fixed. -/
  | pipelineActive
deriving DecidableEq

namespace Fault

/-- The text of a refusal. -/
def message : Fault → String
  | .engine operation status => operation ++ " error: " ++ toString status
  | .tooManyCredentials most =>
    "too many credentials, at most " ++ toString most ++ " allowed"
  | .invalidAccount account => "invalid account " ++ toString account
  | .closing => "context is closing"
  | .consumerAlreadySet => "consumer already set"
  | .pipelineActive => "consumer cannot change once the pipeline is active"

/-- The engine's status, where the engine is the cause. -/
def status? : Fault → Option Int
  | .engine _ status => some status
  | _ => none

end Fault

/-- Why a file could not be used. -/
inductive FileFault where
  /-- There is no such file. -/
  | notFound
  /-- Its bytes are not valid text. -/
  | notText
deriving DecidableEq

end SipStills
