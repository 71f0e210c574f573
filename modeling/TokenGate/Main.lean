import TokenGate.Startup
/-!
The program: it starts a node as the environment says, and tells where the node can be reached, or
why there is none.
-/
namespace TokenGate.Main

open Os (Entry FileSystem Network Path)

def variableNames : List String :=
  ["QC_HTTP_PORT", "QC_WS_PORT", "QC_AUTH_PORT", "QC_AUTH_ADDR", "QC_JWT_SECRET",
    "QC_CLOCK_SKEW_SECS"]

def readEnvironment : IO Config.Environment := do
  let values ← variableNames.filterMapM fun key => do
    return (← IO.getEnv key).map fun value => (key, value)
  return fun key => values.lookup key

/-- What stands at a path of the machine. -/
def readEntry (path : String) : IO (Option Entry) := do
  try
    let bytes ← IO.FS.readBinFile path
    return some (.file ⟨bytes.data.toList, Os.defaultMode⟩)
  catch
    | .noFileOrDirectory .. => return none
    | .inappropriateType .. => return some .directory
    | e => throw e

/-- The part of the file system on the way to a path. -/
def readFileSystem (path : String) : IO FileSystem := do
  let directory : Path := ⟨toString (← IO.currentDir)⟩
  let p : Path := ⟨path⟩
  let mut fs : FileSystem := { workingDirectory := directory.names }
  let mut text := ""
  let mut loc : Os.Location := []
  for name in (if p.isAbsolute then [] else directory.names) ++ p.names do
    text := text ++ "/" ++ name
    loc := FileSystem.follow loc name
    if let some e ← readEntry text then fs := fs.put loc e
  return fs

/-- Writes a new secret to the machine. -/
def persist (path text : String) : IO Unit := do
  if let some above := (Os.Path.mk path).ancestors.tail.head? then IO.FS.createDirAll above.text
  IO.FS.writeFile path text
  IO.setAccessRights path ⟨⟨true, true, false⟩, ⟨false, false, false⟩, ⟨false, false, false⟩⟩

/-- A secret of random bytes. -/
def randomSecret : IO Secret := do
  match Secret.ofBytes (← IO.getRandomBytes 32).data.toList with
  | .ok s => return s
  | .error e => throw (IO.userError e.message)

def printEndpoint (name : String) (endpoint : Except Node.Error String) : IO Unit :=
  match endpoint with
  | .ok url => IO.println s!"{name}: {url}"
  | .error e => IO.println s!"{name}: {e.message}"

/-- Starts a node, and returns the exit code. -/
def run : IO UInt32 := do
  let env ← readEnvironment
  let path := (({} : Config).overlayEnv env).auth.secretPath
  let before ← readFileSystem path
  let (result, after) := Startup.run env (← randomSecret) {} before
  if !before.existsAt ⟨path⟩ then
    if let .ok text := after.readText ⟨path⟩ then persist path text
  match result with
  | .error e =>
    IO.eprint e.report.text
    return 1
  | .ok (node, _) =>
    printEndpoint "http" node.httpEndpoint
    printEndpoint "ws" node.websocketEndpoint
    printEndpoint "http-auth" node.httpAuthEndpoint
    printEndpoint "ws-auth" node.websocketAuthEndpoint
    return 0

end TokenGate.Main

def main : IO UInt32 := TokenGate.Main.run
