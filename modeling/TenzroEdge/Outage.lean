import TenzroEdge.Client

/-!
# Outages

Tenzro counts as unreachable when a call ends without a connection, with an error of the
transport, or not in time. Each trait implementation passes the text of such an error on.
-/

namespace TenzroEdge

inductive Outage where
  | connection (message : String)
  | rpc (message : String)
  | timeout
deriving DecidableEq

namespace Outage

def error : Outage → SdkError
  | .connection message => .connectionError message
  | .rpc message => .rpcError message
  | .timeout => .timeout

/-- The text of an outage, in the errors of the traits. -/
def message : Outage → String
  | .connection message => message
  | .rpc message => message
  | .timeout => "timeout"

def of : SdkError → Option Outage
  | .connectionError message => some (.connection message)
  | .rpcError message => some (.rpc message)
  | .timeout => some .timeout
  | _ => none

theorem error_of_eq_some {error : SdkError} {outage : Outage} (isOutage : of error = some outage) :
    outage.error = error := by
  cases error <;> cases isOutage <;> rfl

def ofReply {α : Type} : Except SdkError α → Option Outage
  | .error error => of error
  | .ok _ => none

end Outage

end TenzroEdge
