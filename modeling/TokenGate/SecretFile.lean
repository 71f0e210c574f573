import TokenGate.Os.FileSystem
import TokenGate.Secret
/-!
The file that holds the secret of a node. It is made when it is missing, and only its owner may
read it; a file that is there is never written to.
-/
namespace TokenGate.Secret

open Os (FileSystem Path)

inductive LoadError where
  | io (path : String) (cause : Os.Error)
  | parse (e : ParseError)
  deriving Repr, DecidableEq

def LoadError.message : LoadError → String
  | .io path cause => s!"failed to access secret file {path}: {cause.message}"
  | .parse e => e.message

/-- Reads the secret from a file. -/
def load (path : String) (fs : FileSystem) : Except LoadError Secret :=
  match fs.readText ⟨path⟩ with
  | .error cause => .error (.io path cause)
  | .ok text => (parse text).mapError .parse

/-- The permission bits of a file with a secret. -/
def fileMode : Nat := 0o600

/-- Writes the secret where its owner alone can read it, once the directory is there. -/
def storeAt (s : Secret) (p : Path) (fs : FileSystem) : Except Os.Error Unit × FileSystem :=
  match fs.write p (Utf8.encode s.toHex) with
  | .error cause => (.error cause, fs)
  | .ok fs =>
    match fs.setMode p fileMode with
    | .error cause => (.error cause, fs)
    | .ok fs => (.ok (), fs)

/-- Writes the secret to a file, and makes the directories above it. -/
def store (s : Secret) (path : String) (fs : FileSystem) :
    Except LoadError Unit × FileSystem :=
  match FileSystem.makeDirectories (Os.Path.mk path).ancestors.tail fs with
  | (.error cause, fs) => (.error (.io path cause), fs)
  | (.ok (), fs) =>
    let (r, fs) := s.storeAt ⟨path⟩ fs
    (r.mapError (.io path), fs)

/-- Reads the secret from a file; when nothing is there, the fresh secret is written to it. -/
def loadOrGenerate (fresh : Secret) (path : String) (fs : FileSystem) :
    Except LoadError Secret × FileSystem :=
  if fs.existsAt ⟨path⟩ then (load path fs, fs)
  else
    match store fresh path fs with
    | (.error e, fs) => (.error e, fs)
    | (.ok (), fs) => (.ok fresh, fs)

end TokenGate.Secret
