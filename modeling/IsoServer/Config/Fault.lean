-- What can be wrong with a configuration that could be read.
import IsoServer.Config.Basic
import IsoServer.Text.Quoted

namespace IsoServer

/-- A rule that a configuration breaks. -/
inductive ConfigFault where
  | invalidHost (host : String)
  | zeroRetryDelay
  | zeroBindAttempts
  | rootNotDirectory (root : Bytes)
  | invalidUserAgent
  | zeroReadTimeout
  deriving DecidableEq, Repr

/-- The text of a fault. -/
def ConfigFault.message : ConfigFault → String
  | .invalidHost host => "listener.host " ++ Text.quote host ++ " is not an IP address"
  | .zeroRetryDelay => "listener.bind_retry_delay_ms must be greater than zero"
  | .zeroBindAttempts => "listener.max_bind_attempts must be greater than zero"
  | .rootNotDirectory root => "files.root " ++ Utf8.decodeLossy root ++ " is not a directory"
  | .invalidUserAgent => "proxy.user_agent is not a valid header value"
  | .zeroReadTimeout => "proxy.read_timeout_secs must be greater than zero"

/-- The text of several faults. -/
def ConfigFault.summary (faults : List ConfigFault) : String :=
  "Validation failed: " ++ String.intercalate ", " (faults.map message)

/-- Whether the user agent can be sent in a header field. -/
def ProxyConfig.agentIsValue (c : ProxyConfig) : Bool :=
  Headers.isValue (Bytes.ofString c.userAgent)

/-- All rules that a configuration breaks, in a fixed order. -/
def ServeConfig.faults (fs : FileSystem) (who : Visitor) (c : ServeConfig) : List ConfigFault :=
  (if c.listener.address?.isNone then [.invalidHost c.listener.host] else []) ++
  (if c.listener.bindRetryDelayMs == 0 then [.zeroRetryDelay] else []) ++
  (if c.listener.maxBindAttempts == some 0 then [.zeroBindAttempts] else []) ++
  (if !fs.isDir who c.files.root then [.rootNotDirectory c.files.root] else []) ++
  (if !c.proxy.agentIsValue then [.invalidUserAgent] else []) ++
  (if c.proxy.readTimeoutSecs == 0 then [.zeroReadTimeout] else [])

end IsoServer
