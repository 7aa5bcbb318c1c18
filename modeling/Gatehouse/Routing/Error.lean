/-!
# Registration errors

Why a handler could not be registered: its program is missing or not executable, its module is
unknown, its worker endpoint could not be bound, or its path is taken.
-/

namespace Gatehouse.Routing

/-- A failed registration. -/
inductive RegistrationError where
  /-- The program at this path does not exist. -/
  | notFound (path : String)
  /-- The program at this path is not an executable regular file. -/
  | notExecutable (path : String)
  /-- No builtin module has this name. -/
  | unknownModule (name : String)
  /-- The worker endpoint at this path could not be bound, for this reason. -/
  | endpointBind (endpoint reason : String)
  /-- A handler of the same kind is registered at this path already. -/
  | duplicatePath (path : String)
  deriving DecidableEq, Repr

/-- The wording of each error. -/
def RegistrationError.message : RegistrationError → String
  | .notFound p => "Handler " ++ p ++ " does not exist"
  | .notExecutable p => "Handler " ++ p ++ " is not an executable file"
  | .unknownModule n => "Unknown module: " ++ n
  | .endpointBind e r => "Unable to bind endpoint " ++ e ++ ": " ++ r
  | .duplicatePath p => "A handler is already registered at " ++ p

end Gatehouse.Routing
