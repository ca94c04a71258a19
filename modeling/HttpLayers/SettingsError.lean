import HttpLayers.Text.Shown

namespace HttpLayers

inductive SettingsError where
  -- the value given for `name` cannot be read
  | unreadable (name problem : String)
  -- a value that was read does not make sense
  | unfit (problem : String)
  -- certificates are given in parts, twice, or for no domain
  | certificates (problem : String)
  deriving DecidableEq, Repr

namespace SettingsError

def message : SettingsError → String
  | unreadable name problem => "Invalid " ++ name ++ ": " ++ problem
  | unfit problem => "Configuration validation failed: " ++ problem
  | certificates problem => "TLS configuration error: " ++ problem

def shown : SettingsError → Text.Shown
  | unreadable name problem =>
    .record "InvalidValue" [("name",.quote name),("message",.quote problem)]
  | unfit problem => .tagged "Validation" (.quote problem)
  | certificates problem => .tagged "Tls" (.quote problem)

end SettingsError

end HttpLayers
