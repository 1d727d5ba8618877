import LineTunnel.Config

/-! Why something that a session was asked for was not done. -/

namespace LineTunnel

inductive FileError where
  | errno (code : Int)
  | notUtf8
  deriving DecidableEq, Repr

def FileError.message : FileError → String
  | errno code => Errno.describe code
  | notUtf8 => "stream did not contain valid UTF-8"

inductive Activity where
  | connecting
  | sending
  deriving DecidableEq, Repr

def Activity.name : Activity → String
  | connecting => "connecting"
  | sending => "sending"

inductive SessionError where
  | link (cause : Failure)
  | config (cause : ConfigError)
  | file (cause : FileError)
  | timeout (activity : Activity)
  | notConnected
  deriving DecidableEq, Repr

def SessionError.message : SessionError → String
  | link cause => s!"link error: {cause.message}"
  | config cause => s!"client configuration error: {cause.message}"
  | file cause => s!"client IO error: {cause.message}"
  | timeout activity => s!"timed out while {activity.name}"
  | notConnected => "session is not connected"

end LineTunnel
