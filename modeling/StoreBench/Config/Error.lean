import StoreBench.Settings.Fault

namespace StoreBench

/-! What can be wrong with the configuration of a benchmark. All of it is found
before any worker starts. A store operation that fails is not an error: it comes
back as a status and is only counted. -/

inductive ConfigError where
  | missingKey (key : String)
  | invalidValue (key value expected : String)
  | unknownDistribution (property name : String)
  | outOfBounds (what : String) (value lower upper : UInt64)
  | emptyOperationMix
  | unknownStore (name : String)
  | storeOption (name : String) (fault : OptionFault)
  | settings (fault : SettingsFault)
  | unreadable (path reason : String)

def ConfigError.message : ConfigError → String
  | .missingKey key => "missing required property `" ++ key ++ "`"
  | .invalidValue key value expected =>
      "invalid value for property `" ++ key ++ "`: expected " ++ expected ++
        ", got `" ++ value ++ "`"
  | .unknownDistribution property name =>
      "unknown distribution `" ++ name ++ "` for property `" ++ property ++ "`"
  | .outOfBounds what value lower upper =>
      what ++ " out of bounds: " ++ toString value.toNat ++ " not in [" ++
        toString lower.toNat ++ ", " ++ toString upper.toNat ++ "]"
  | .emptyOperationMix => "no operation has a positive proportion"
  | .unknownStore name => "store `" ++ name ++ "` not found in registry"
  | .storeOption name fault =>
      "invalid options for store `" ++ name ++ "`: " ++ fault.message ++ "\n"
  | .settings fault => "configuration error: " ++ fault.message
  | .unreadable path reason => "failed to read " ++ path ++ ": " ++ reason

end StoreBench
