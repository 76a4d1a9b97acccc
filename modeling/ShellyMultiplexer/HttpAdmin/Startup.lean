import ShellyMultiplexer.HttpAdmin.Requests

/-! # The start of the process

The configuration is loaded, the command line goes over it and the environment lends its token. What
the command line has changed is saved the way an update is, but the process goes on whether or not
that succeeds.
-/
namespace ShellyMultiplexer
open Foundation

/-- The options that go over the file; an add-on passes them on every start. -/
structure Cli where
  realShellyHost : Option IpAddr := none
  realShellyUdpPort : Option UInt16 := none

namespace Cli

def override (cli : Cli) (cfg : Config) : Config :=
  { cfg with realShelly := { cfg.realShelly with
      host := cli.realShellyHost.getD cfg.realShelly.host
      udpPort := cli.realShellyUdpPort.getD cfg.realShelly.udpPort } }

/-- Some option says something else than the file. -/
def dirty (cli : Cli) (cfg : Config) : Bool :=
  cli.realShellyHost.any (fun host => cfg.realShelly.host != host) ||
    cli.realShellyUdpPort.any (fun port => cfg.realShelly.udpPort != port)

end Cli

namespace AdminEnv

def load (env : AdminEnv) : ConfigFile → Except String Config
  | .damaged => .error s!"parsing config at {env.configPath}"
  | .toml cfg => do
    cfg.validate env.isSocketAddr
    return cfg

/-- The errors are logged; the file is written without the token. -/
def persistOverrides (env : AdminEnv) (disk : AdminDisk) (cfg : Config) (io : IoOutcome) :
    AdminDisk :=
  match writeTmp env disk cfg io with
  | (disk,.error _) => disk
  | (disk,.ok ()) => (renameTmp env disk io).1

/-- What `main` does before it spawns the tasks. -/
def boot (env : AdminEnv) (cli : Cli) (disk : AdminDisk) (io : IoOutcome) :
    Except String AdminSystem := do
  let cfg ← env.load disk.file
  let live := env.atStartup (cli.override cfg)
  return {
    live := live
    disk := if cli.dirty cfg then env.persistOverrides disk live io else disk
    app := AppState.fromConfig live }

/-- The configuration that the admin UI is shown. All numbers here are finite, so JSON carries it to
the UI and back unchanged; an infinite one would be shown as null, and refused if put back. -/
def apiGetConfig (env : AdminEnv) (sys : AdminSystem) : Config := env.forDisk sys.live

end AdminEnv

/-! ## Kills and restarts -/

/-- A process that is not running leaves nothing but its disk. -/
structure AdminProcess extends RequestSystem where
  running : Bool

inductive ProcessEvent
  /-- The process is started, and clients make new requests. -/
  | start (updates : ℕ → SectionUpdate) (io : IoOutcome)
  | request (e : RequestEvent)
  | kill

/-- A start that fails leaves everything as it is. -/
def processStep (env : AdminEnv) (cli : Cli) (p : AdminProcess) : ProcessEvent → AdminProcess
  | .start updates io =>
    if p.running then p
    else match env.boot cli p.disk io with
      | .error _ => p
      | .ok sys => { sys with requests := fun i => { update := updates i }, running := true }
  | .request e =>
    if p.running then { requestStep env p.toRequestSystem e with running := true } else p
  | .kill => { p with running := false }

/-- Before the first start. -/
def AdminProcess.off (cfg : Config) : AdminProcess where
  live := cfg
  disk := { file := .toml cfg }
  app := AppState.fromConfig cfg
  requests _ := { update := .unknown "" }
  running := false

end ShellyMultiplexer
