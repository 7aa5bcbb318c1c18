/-!
# Server errors

Why the server cannot start or serve: the system failed, the configuration is invalid, the
listening address cannot be bound, or logging cannot be set up.
-/

namespace Gatehouse.Settings

/-- A failure of the server as a whole. -/
inductive ServerError where
  /-- The system failed with this message. -/
  | io (message : String)
  /-- The configuration is invalid, for this reason. -/
  | config (reason : String)
  /-- The address could not be listened on, for this reason. -/
  | bind (address reason : String)
  /-- Logging could not be set up, for this reason. -/
  | logging (reason : String)
  deriving DecidableEq, Repr

/-- The wording of each error. -/
def ServerError.message : ServerError → String
  | .io m => "I/O error: " ++ m
  | .config r => "Invalid configuration: " ++ r
  | .bind a r => "Unable to listen on " ++ a ++ ": " ++ r
  | .logging r => "Unable to initialize logging: " ++ r

end Gatehouse.Settings
