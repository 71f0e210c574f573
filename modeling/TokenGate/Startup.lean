import TokenGate.Config.Environment
import TokenGate.Node.Basic
import TokenGate.Report
import TokenGate.SecretFile
/-!
The start of the program: the configuration is checked, the secret is read or made, and the
listeners are opened. The first stage that fails ends it.
-/
namespace TokenGate.Startup

open Os (FileSystem Network)

inductive Error where
  | configuration (e : Config.Error)
  | secret (path : String) (e : Secret.LoadError)
  | node (e : Node.Error)
  | listeners (e : Node.Error)
  deriving Repr, DecidableEq

/-- What is behind an error of the file of the secret. -/
def secretSource : Secret.LoadError → List String
  | .io _ cause => [cause.message]
  | .parse (.invalidHex fault) => [fault.message]
  | .parse (.invalidLength _) => []

/-- What is behind an error of a node. -/
def nodeSource : Node.Error → List String
  | .configuration e => [e.message]
  | .bind _ cause => [cause.message]
  | _ => []

def Error.report : Error → Report
  | .configuration e => ⟨"invalid gateway configuration", [e.message]⟩
  | .secret path e => ⟨"failed to load JWT secret from " ++ path, e.message :: secretSource e⟩
  | .node e => ⟨e.message, nodeSource e⟩
  | .listeners e => ⟨"failed to start gateway", e.message :: nodeSource e⟩

/-- Starts a node with a configuration and a secret. -/
def openNode (c : Config) (secret : Secret) (net : Network) : Except Error Node × Network :=
  match Node.new c secret with
  | .error e => (.error (.node e), net)
  | .ok n =>
    match n.tryStart net with
    | (.ok (), n, net) => (.ok n, net)
    | (.error e, _, net) => (.error (.listeners e), net)

/-- Starts the program in an environment; the fresh secret is used if there is none yet. Whether a
node runs or a stage has failed, there are the listeners and the files that this has left. -/
def boot (env : Config.Environment) (fresh : Secret) (net : Network) (fs : FileSystem) :
    Except Error Node × Network × FileSystem :=
  let c := ({} : Config).overlayEnv env
  match c.validate with
  | .error e => (.error (.configuration e), net, fs)
  | .ok () =>
    match Secret.loadOrGenerate fresh c.auth.secretPath fs with
    | (.error e, fs) => (.error (.secret c.auth.secretPath e), net, fs)
    | (.ok secret, fs) =>
      let (r, net) := openNode c secret net
      (r, net, fs)

/-- A start of the program: the node that runs, and the listeners that it has opened. A start that
fails leaves only files behind. -/
def run (env : Config.Environment) (fresh : Secret) (net : Network) (fs : FileSystem) :
    Except Error (Node × Network) × FileSystem :=
  let (r, net, fs) := boot env fresh net fs
  (r.map fun n => (n, net), fs)

end TokenGate.Startup
