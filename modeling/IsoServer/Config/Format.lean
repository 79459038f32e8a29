-- The JSON form of a configuration: the names of all settings and the kinds of their values.
import IsoServer.Config.Basic
import IsoServer.Config.Setting

namespace IsoServer

namespace Config

/-- A path of the file system, as text. -/
def Kind.path : Kind Bytes where
  read
    | .text s => .ok (Bytes.ofString s)
    | v => .error (.invalidType v "path string")
  write s := .text (Utf8.decodeLossy s)

end Config

open Config

def ListenerConfig.record : Record ListenerConfig where
  settings := [
    { name := "host", kind := .text, get := (·.host), set := fun v c => { c with host := v } },
    { name := "port", kind := .word16, get := (·.port), set := fun v c => { c with port := v } },
    { name := "bind_retry_delay_ms", kind := .word64, get := (·.bindRetryDelayMs)
      set := fun v c => { c with bindRetryDelayMs := v } },
    { name := "max_bind_attempts", kind := .optional .word32, get := (·.maxBindAttempts)
      set := fun v c => { c with maxBindAttempts := v } }]
  complete := by
    intro ⟨_, _, _, _⟩ ⟨_, _, _, _⟩ h
    simpa using h

def FilesConfig.record : Record FilesConfig where
  settings := [
    { name := "root", kind := .path, get := (·.root), set := fun v c => { c with root := v } },
    { name := "directory_listing", kind := .bool, get := (·.directoryListing)
      set := fun v c => { c with directoryListing := v } }]
  complete := by
    intro ⟨_, _⟩ ⟨_, _⟩ h
    simpa using h

def ProxyConfig.record : Record ProxyConfig where
  settings := [
    { name := "user_agent", kind := .text, get := (·.userAgent)
      set := fun v c => { c with userAgent := v } },
    { name := "connect_timeout_secs", kind := .word64, get := (·.connectTimeoutSecs)
      set := fun v c => { c with connectTimeoutSecs := v } },
    { name := "read_timeout_secs", kind := .word64, get := (·.readTimeoutSecs)
      set := fun v c => { c with readTimeoutSecs := v } },
    { name := "max_redirects", kind := .count, get := (·.maxRedirects)
      set := fun v c => { c with maxRedirects := v } },
    { name := "use_env_proxy", kind := .bool, get := (·.useEnvProxy)
      set := fun v c => { c with useEnvProxy := v } }]
  complete := by
    intro ⟨_, _, _, _, _⟩ ⟨_, _, _, _, _⟩ h
    simpa using h

def LogConfig.record : Record LogConfig where
  settings := [
    { name := "log_level", kind := .text, get := (·.logLevel)
      set := fun v c => { c with logLevel := v } }]
  complete := by
    intro ⟨_⟩ ⟨_⟩ h
    simpa using h

namespace ServeConfig

/-- The sections of a configuration. -/
def record : Record ServeConfig where
  settings := [
    { name := "listener", kind := .record "ListenerConfig" ListenerConfig.record {}
      get := (·.listener), set := fun v c => { c with listener := v } },
    { name := "files", kind := .record "FilesConfig" FilesConfig.record {}
      get := (·.files), set := fun v c => { c with files := v } },
    { name := "proxy", kind := .record "ProxyConfig" ProxyConfig.record {}
      get := (·.proxy), set := fun v c => { c with proxy := v } },
    { name := "observability", kind := .record "ObservabilityConfig" LogConfig.record {}
      get := (·.observability), set := fun v c => { c with observability := v } }]
  complete := by
    intro ⟨_, _, _, _⟩ ⟨_, _, _, _⟩ h
    simpa using h

def kind : Kind ServeConfig := .record "ServeConfig" record {}

/-- Reads a configuration. -/
def ofJson (v : Json) : Except ReadError ServeConfig := kind.read v

/-- Writes a configuration with all its settings. -/
def toJson (c : ServeConfig) : Json := kind.write c

end ServeConfig

end IsoServer
