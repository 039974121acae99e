namespace GracefulDrain

/-- Why a drain failed or could not be set up. -/
inductive DrainError
  | timeout (inflight : UInt32) (lbActive : Bool)
  | invalidConfig (reason : String)
  deriving DecidableEq, Repr

def DrainError.message : DrainError → String
  | timeout inflight lbActive =>
    "Drain timed out with " ++ toString inflight.toNat ++
      " in-flight request(s), load balancers still active: " ++
      (if lbActive then "true" else "false")
  | invalidConfig reason => "Invalid drain configuration: " ++ reason

def DrainError.isTimeout : DrainError → Bool
  | timeout _ _ => true
  | invalidConfig _ => false

/-- Every failure that ends the service. -/
inductive AppError
  | drain (e : DrainError)
  | config (text : String)
  | io (text : String)
  | metrics (text : String)
  deriving DecidableEq, Repr

namespace AppError

def message : AppError → String
  | drain e => e.message
  | config text => "Configuration error: " ++ text
  | io text => "I/O error: " ++ text
  | metrics text => "Metrics error: " ++ text

/-- For failures of the drain, whether it was the timeout. -/
def isTimeout? : AppError → Option Bool
  | drain e => some e.isTimeout
  | _ => none

/-- The text of the failure behind this one, where there is one. -/
def cause? : AppError → Option String
  | config text | io text => some text
  | drain _ | metrics _ => none

end AppError

end GracefulDrain
