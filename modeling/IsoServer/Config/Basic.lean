-- The configuration of the server. Every setting has a default, so a configuration that
-- says nothing is complete.
import IsoServer.Files.Serve
import IsoServer.Net.IpAddress

namespace IsoServer

/-- Where the server listens, and how it waits for a port that is taken. -/
structure ListenerConfig where
  host : String := "0.0.0.0"
  port : UInt16 := 8000
  /-- The wait between two attempts, in milliseconds. -/
  bindRetryDelayMs : UInt64 := 2000
  /-- The number of attempts after which the server gives up; without it, it never does. -/
  maxBindAttempts : Option UInt32 := none
  deriving DecidableEq, Repr

/-- How addresses are fetched for a client. -/
structure ProxyConfig where
  userAgent : String := "curl/7.88.1"
  connectTimeoutSecs : UInt64 := 10
  /-- The longest wait for the next bytes of a reply, in seconds. -/
  readTimeoutSecs : UInt64 := 30
  /-- The number of redirects that are followed. -/
  maxRedirects : UInt64 := 10
  /-- Whether proxies that the environment names are used. -/
  useEnvProxy : Bool := true
  deriving DecidableEq, Repr

/-- What is written to the log. -/
structure LogConfig where
  logLevel : String := "info"
  deriving DecidableEq, Repr

/-- The whole configuration. -/
structure ServeConfig where
  listener : ListenerConfig := {}
  files : FilesConfig := {}
  proxy : ProxyConfig := {}
  observability : LogConfig := {}
  deriving DecidableEq, Repr

/-- The address to listen on; none if the host is not an IP address. -/
def ListenerConfig.address? (c : ListenerConfig) : Option SocketAddress :=
  (IpAddress.parse? (Bytes.ofString c.host)).map fun ip => ⟨ip, c.port⟩

/-- The filter of the log, unless the environment has another one. -/
def LogConfig.filter (c : LogConfig) : String :=
  "coi_serve=" ++ c.logLevel ++ ",tower_http=" ++ c.logLevel

end IsoServer
