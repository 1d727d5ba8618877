import LineTunnel.Config
import LineTunnel.Text

/-! The command line: options that override the configuration, and the messages to send. -/

namespace LineTunnel

inductive UsageError where
  | unknownOption (word : String)
  | missingValue (option : String)
  | repeated (option : String)
  | invalidValue (option value : String)
  deriving DecidableEq, Repr

def UsageError.message : UsageError → String
  | unknownOption word => s!"unexpected argument {Text.quote word}"
  | missingValue option => s!"a value is required for --{option}"
  | repeated option => s!"--{option} cannot be given more than once"
  | invalidValue option value => s!"invalid value {Text.quote value} for --{option}"

structure Arguments where
  config : Option String := none
  host : Option String := none
  port : Option UInt16 := none
  bindAddress : Option String := none
  proxyHost : Option String := none
  proxyPort : Option UInt16 := none
  proxyVersion : Option UInt8 := none
  proxyUser : Option String := none
  proxyAuthUser : Option String := none
  proxyAuthPassword : Option String := none
  logLevel : Option String := none
  messages : List String := []
  deriving DecidableEq, Repr

namespace Arguments

def readNumber (low high : Nat) (s : String) : Option Nat :=
  let (negative, digits) := match s.toList with
    | '+' :: ds => (false, ds)
    | '-' :: ds => (true, ds)
    | ds => (false, ds)
  if digits.isEmpty || !digits.all Char.isDigit then none
  else
    let n := digits.foldl (fun n c => 10 * n + (c.toNat - '0'.toNat)) 0
    if (negative && n != 0) || n < low || high < n then none else some n

def readPort (s : String) : Option UInt16 := (readNumber 0 65535 s).map Nat.toUInt16

def readVersion (s : String) : Option UInt8 := (readNumber 4 5 s).map Nat.toUInt8

def readPath (s : String) : Option String := if s.isEmpty then none else some s

def once {α : Type} (option value : String) (read : String → Option α) (old : Option α) :
    Except UsageError (Option α) :=
  match old, read value with
  | some _, _ => .error (.repeated option)
  | none, none => .error (.invalidValue option value)
  | none, some a => .ok (some a)

def set (a : Arguments) (option value : String) : Except UsageError Arguments :=
  match option with
  | "config" => do return { a with config := ← once option value readPath a.config }
  | "host" => do return { a with host := ← once option value some a.host }
  | "port" => do return { a with port := ← once option value readPort a.port }
  | "bind" => do return { a with bindAddress := ← once option value some a.bindAddress }
  | "socks-host" => do return { a with proxyHost := ← once option value some a.proxyHost }
  | "socks-port" => do return { a with proxyPort := ← once option value readPort a.proxyPort }
  | "socks-version" => do
    return { a with proxyVersion := ← once option value readVersion a.proxyVersion }
  | "socks-user" => do return { a with proxyUser := ← once option value some a.proxyUser }
  | "socks-auth-user" => do
    return { a with proxyAuthUser := ← once option value some a.proxyAuthUser }
  | "socks-auth-password" => do
    return { a with proxyAuthPassword := ← once option value some a.proxyAuthPassword }
  | "log-level" => do return { a with logLevel := ← once option value some a.logLevel }
  | _ => .error (.unknownOption ("--" ++ option))

def options : List String := [
  "config", "host", "port", "bind", "socks-host", "socks-port", "socks-version", "socks-user",
  "socks-auth-user", "socks-auth-password", "log-level"]

def isOption (word : String) : Bool := word.startsWith "-" && word != "-"

def splitOption (word : String) : String × Option String :=
  let cs := word.toList.drop 2
  match cs.dropWhile (· != '=') with
  | [] => (String.ofList cs, none)
  | _ :: value => (String.ofList (cs.takeWhile (· != '=')), some (String.ofList value))

def ofWords : Arguments → List String → Except UsageError Arguments
  | a, [] => .ok a
  | a, word :: rest =>
    if word = "--" then .ok { a with messages := a.messages ++ rest }
    else if !isOption word then ofWords { a with messages := a.messages ++ [word] } rest
    else if !word.startsWith "--" then .error (.unknownOption word)
    else
      match splitOption word with
      | (option, some value) =>
        match a.set option value with
        | .ok a => ofWords a rest
        | .error e => .error e
      | (option, none) =>
        if !options.contains option then .error (.unknownOption word)
        else
          match rest with
          | [] => .error (.missingValue option)
          | value :: rest =>
            if isOption value then .error (.missingValue option)
            else
              match a.set option value with
              | .ok a => ofWords a rest
              | .error e => .error e

def parse (words : List String) : Except UsageError Arguments := ofWords {} words

def proxy (a : Arguments) (configured : Option ProxySettings) : Option ProxySettings :=
  let named := match a.proxyHost with
    | none => configured
    | some host => some { configured.getD {} with host }
  named.map fun proxy => {
    proxy with
    port := a.proxyPort.getD proxy.port
    version := a.proxyVersion.getD proxy.version
    user := a.proxyUser.or proxy.user
    authUser := a.proxyAuthUser.or proxy.authUser
    authPassword := a.proxyAuthPassword.or proxy.authPassword }

def override (a : Arguments) (c : Config) : Config where
  link := { c.link with
    host := a.host.getD c.link.host
    port := a.port.getD c.link.port
    bindAddress := a.bindAddress.or c.link.bindAddress }
  proxy := a.proxy c.proxy

end Arguments

end LineTunnel
