import Chronicle.Fault
/-!
# The gate

Logs are printed only if every service has run at least once. The services are asked for in order,
up to the first that has not.
-/

namespace Chronicle

/-- Why a service is kept out. -/
inductive GateFault where
  | lookUp (service : String) (fault : Fault)
  | notStarted (service : String)
deriving DecidableEq, Repr

/-- The texts of a failure, the outermost first. -/
def GateFault.causes : GateFault → List Cause
  | .lookUp service fault => .said ("look up " ++ service) :: fault.causes
  | .notStarted service => [.said (service ++ " has not started yet")]

/-- Asks for each service whether it has ever run. -/
def ensureStarted {m : Type → Type} [Monad m] (hasStarted : String → m (Except Fault Bool)) :
    List String → m (Except GateFault Unit)
  | [] => return .ok ()
  | service :: rest => do
    match ← hasStarted service with
    | .error fault => return .error (.lookUp service fault)
    | .ok false => return .error (.notStarted service)
    | .ok true => ensureStarted hasStarted rest

end Chronicle
