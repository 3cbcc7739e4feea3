import Parlance.Core.Validation
import Parlance.Network.Discovery.Engine

namespace Parlance.App

open Validation Discovery Str

/-- `PeerConfig`, the one table of `Config`: the peer timeout and the announce interval, in
    seconds. -/
structure Config where
  timeoutSecs : Nat
  announceIntervalSecs : Nat
deriving DecidableEq, Repr

def Config.default : Config := ⟨15, 5⟩

def fromSecs (secs : Nat) : Duration := secs * 1000000000

def Config.peerTimeout (config : Config) : Duration := fromSecs config.timeoutSecs

def Config.announceInterval (config : Config) : Duration := fromSecs config.announceIntervalSecs

inductive ConfigError where
  | ioError (path source : String)
  | parseError (path source : String)
  | serializeError (source : String)
deriving DecidableEq, Repr

def ConfigError.message : ConfigError → String
  | .ioError path source => "Failed to read config file " ++ path ++ ": " ++ source
  | .parseError path source => "Failed to parse config file " ++ path ++ ": " ++ source
  | .serializeError source => "Failed to serialize config: " ++ source

/-- The file system and the TOML library as `main` meets them: the contents of a path or the
    display of the `io::Error`; `toml::from_str`; `toml::to_string_pretty`; `fs::write`. -/
structure Host where
  read : String → Except String String
  parse : String → Except String Config
  render : Config → Except String String
  write : String → String → Except String Unit

def Config.fromFile (host : Host) (path : String) : Except ConfigError Config :=
  match host.read path with
  | .error e => .error (.ioError path e)
  | .ok contents =>
    match host.parse contents with
    | .error e => .error (.parseError path e)
    | .ok config => .ok config

def Config.writeDefault (host : Host) (path : String) : Except ConfigError Unit :=
  match host.render Config.default with
  | .error e => .error (.serializeError e)
  | .ok toml =>
    match host.write path toml with
    | .error e => .error (.ioError path e)
    | .ok () => .ok ()

structure Args where
  nickname : String
  config : Option String
  generateConfig : Option String

inductive Startup where
  | generated (path : String)
  | failed (message : String)
  | running (nickname : String) (config : Config)
deriving DecidableEq, Repr

def loadConfig (host : Host) (args : Args) : Except ConfigError Config :=
  match args.config with
  | some path => Config.fromFile host path
  | none => .ok Config.default

def main (host : Host) (args : Args) : Startup :=
  match args.generateConfig with
  | some path =>
    match Config.writeDefault host path with
    | .error e => .failed e.message
    | .ok () => .generated path
  | none =>
    match loadConfig host args with
    | .error e => .failed e.message
    | .ok config =>
      match validate args.nickname with
      | .error e => .failed ("Invalid nickname: " ++ e.message)
      | .ok () => .running args.nickname config

def discoveryConfig (nickname : String) (tcpPort : UInt16) (config : Config) : DiscoveryConfig :=
  ⟨nickname, tcpPort, config.peerTimeout⟩

theorem main_eq_running_iff (host : Host) (args : Args) (nickname : String) (config : Config) :
    main host args = .running nickname config ↔
      args.generateConfig = none ∧ loadConfig host args = .ok config ∧ validate args.nickname = .ok () ∧
        nickname = args.nickname := by
  unfold main
  rcases args with ⟨given, file, generate⟩
  cases generate with
  | some path => cases written : Config.writeDefault host path <;> simp [written]
  | none =>
    cases loaded : loadConfig host ⟨given, file, none⟩ with
    | error e => simp [loaded]
    | ok loaded' =>
      cases valid : validate given with
      | error e => simp [loaded, valid]
      | ok _ => simp [loaded, valid, and_comm, eq_comm]

end Parlance.App
