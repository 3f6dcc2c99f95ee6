import HostWatch.Storage.FileFault

/-!
# Failures of the shared configuration

Why a value of the shared configuration could not be read or written, and the
text of each failure. A failure whose text belongs to the transport, the decoder
or the file system has none here.
-/

namespace HostWatch

/-- Why a configuration value could not be read or written. -/
inductive ConfigError where
  /-- The key has never been written. -/
  | notFound (key : String)
  /-- The service answered with an unexpected status. -/
  | status (key : String) (code : Nat)
  /-- The request did not reach the service, or its answer did not come back. -/
  | transport
  /-- The stored value does not decode. -/
  | undecodable (fault : Json.Fault)
  /-- The service's address cannot address keys. -/
  | invalidUrl (text : String)
  /-- The store could not be saved in its file. -/
  | storage (fault : FileFault)
  deriving DecidableEq, Repr

/-- The text of a failure, where it is this program's own. -/
def ConfigError.message? : ConfigError → Option String
  | .notFound key => some ("config key '" ++ key ++ "' not found")
  | .status key code =>
    some ("config service returned " ++ toString code ++ " for key '" ++ key ++ "'")
  | .invalidUrl text => some ("invalid config service URL: " ++ text)
  | .transport => none
  | .undecodable _ => none
  | .storage _ => none

end HostWatch
