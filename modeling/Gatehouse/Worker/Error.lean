/-!
# Errors of the worker channel

What can go wrong between the server and a worker process: the channel itself, encoding or
decoding a request, a frame whose payload is too large, or an endpoint with no worker.
-/

namespace Gatehouse.Worker

/-- A failure on the worker channel. -/
inductive ChannelError where
  /-- The channel failed with this system message. -/
  | io (message : String)
  /-- A request could not be encoded. -/
  | encode (message : String)
  /-- A request could not be decoded; the message says where and why. -/
  | decode (message : String)
  /-- A frame declares or carries a payload of this many bytes, more than allowed. -/
  | frameTooLarge (length : Nat)
  /-- No worker is connected to the endpoint at this path. -/
  | notConnected (endpoint : String)
  deriving DecidableEq, Repr

/-- The wording of each error. -/
def ChannelError.message : ChannelError → String
  | .io m => "I/O error: " ++ m
  | .encode m => "Unable to encode request: " ++ m
  | .decode m => "Unable to decode request: " ++ m
  | .frameTooLarge n => "Frame payload of " ++ toString n ++ " bytes is too large"
  | .notConnected p => "No worker connected to " ++ p

end Gatehouse.Worker
