import Backstep.Machine.Fault

/-!
# Errors of a session

A step fails because its instruction did, or because the snapshot after it
found no room. A move along the history fails when there is nothing to move to.
-/
namespace Backstep

inductive MoveFault where
  | atBeginning
  | atEnd
  | nothingRecorded
  | notRecorded
  deriving DecidableEq

def MoveFault.message : MoveFault → String
  | .atBeginning => "Already at the beginning of execution"
  | .atEnd => "No more snapshots available (execution finished)"
  | .nothingRecorded => "No snapshots available"
  | .notRecorded => "Snapshot not found in history"

inductive RunError where
  | fault (cause : Fault) (site : Site)
  | logFull (used limit : Nat)
  | move (cause : MoveFault)
  deriving DecidableEq

namespace RunError

def site? : RunError → Option Site
  | .fault _ site => some site
  | .logFull .. => none
  | .move _ => none

def message : RunError → String
  | .fault cause site => cause.message site
  | .logFull used limit =>
    s!"Snapshot memory limit exceeded: {used} bytes used, limit is {limit}"
  | .move cause => s!"History operation failed: {cause.message}"

end RunError
end Backstep
