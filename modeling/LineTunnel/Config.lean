import LineTunnel.Framing
import LineTunnel.Socks.Server

/-! How a session is configured: where its link goes and how it is framed, and the proxy to go
through. Every value has a default. -/

namespace LineTunnel

structure LinkSettings where
  host : String := "127.0.0.1"
  port : UInt16 := 7902
  bindAddress : Option String := none
  terminator : UInt8 := 10
  strip : Option UInt8 := some 13
  connectTimeout : UInt64 := 10000
  receiveTimeout : UInt64 := 5000
  deriving DecidableEq, Repr

structure ProxySettings where
  host : String := "127.0.0.1"
  port : UInt16 := 1080
  version : UInt8 := 5
  numericUid : Bool := false
  user : Option String := none
  authUser : Option String := none
  authPassword : Option String := none
  deriving DecidableEq, Repr

structure Config where
  link : LinkSettings := {}
  proxy : Option ProxySettings := none
  deriving DecidableEq, Repr

inductive ConfigError where
  | unsupportedVersion (version : UInt8)
  | emptyProxyHost
  | malformed
  | unsuitable (key : String)
  | outOfRange
  deriving DecidableEq, Repr

def ConfigError.message : ConfigError → String
  | unsupportedVersion version => s!"unsupported SOCKS version {version}"
  | emptyProxyHost => "SOCKS host is empty"
  | malformed => "malformed document"
  | unsuitable key => s!"unsuitable value for {key}"
  | outOfRange => "out-of-range value for integer"

def LinkSettings.framing (link : LinkSettings) : Framing := ⟨link.terminator, link.strip⟩

def ProxySettings.server (proxy : ProxySettings) : Except ConfigError Socks.Server :=
  match Socks.Version.ofNumber? proxy.version.toNat with
  | none => .error (.unsupportedVersion proxy.version)
  | some version =>
    if proxy.host.isEmpty then .error .emptyProxyHost
    else .ok {
      name := proxy.host
      port := proxy.port
      version
      numericUid := proxy.numericUid
      user := proxy.user
      authUser := proxy.authUser
      authPassword := proxy.authPassword }

end LineTunnel
