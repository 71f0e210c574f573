import TokenGate.Config.Basic
import TokenGate.Text.Decimal
/-!
Configurations overlaid with variables of the environment. A variable that cannot be read leaves
its field as it is.
-/
namespace TokenGate.Config

/-- The values of variables that are set. -/
abbrev Environment := String → Option String

def portOf? (s : String) : Option UInt16 := (Text.unsigned? (0x1_0000) s).map UInt16.ofNat

def secondsOf? (s : String) : Option Duration :=
  (Text.unsigned? (0x1_0000_0000_0000_0000) s).bind fun n => Duration.ofParts? n 0

/-- The variables that replace fields of a configuration. -/
def overlayEnv (c : Config) (env : Environment) : Config where
  http := { c.http with port := ((env "QC_HTTP_PORT").bind portOf?).getD c.http.port }
  websocket := { c.websocket with port := ((env "QC_WS_PORT").bind portOf?).getD c.websocket.port }
  auth :=
    { host := ((env "QC_AUTH_ADDR").bind Net.IpAddr.parse?).getD c.auth.host
      port := ((env "QC_AUTH_PORT").bind portOf?).getD c.auth.port
      secretPath := (env "QC_JWT_SECRET").getD c.auth.secretPath
      tolerance := ((env "QC_CLOCK_SKEW_SECS").bind secondsOf?).getD c.auth.tolerance }

end TokenGate.Config
