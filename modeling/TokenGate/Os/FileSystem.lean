import TokenGate.Os.Error
import TokenGate.Text.Utf8
/-!
A tree of directories and files, and the operations on it that programs call by paths.
-/
namespace TokenGate.Os

structure File where
  bytes : Bytes
  mode : Nat
  deriving Repr, DecidableEq

inductive Entry where
  | file (f : File)
  | directory
  deriving Repr, DecidableEq

/-- The names on the way from the root. -/
abbrev Location := List String

/-- What stands at each location other than the root, and where paths begin that do not begin at
the root. -/
@[ext]
structure FileSystem where
  entries : Location → Option Entry := fun _ => none
  workingDirectory : Location := []

/-- The permission bits of a new file. -/
def defaultMode : Nat := 0o644

/-- A path as it is written: names with slashes between them. -/
structure Path where
  text : String
  deriving Repr, DecidableEq

namespace Path

/-- The most bytes that a name in a path has. -/
def maxNameLength : Nat := 255

/-- The most bytes that a path has. -/
def maxLength : Nat := 4095

/-- Whether a path begins at the root. -/
def isAbsolute (p : Path) : Bool := p.text.toList.head? = some '/'

/-- Whether a slash ends the path, so that only a directory can be meant. -/
def endsInSlash (p : Path) : Bool := p.text.toList.getLast? = some '/'

/-- What stands between slashes: nothing between two that follow one another. -/
def segments (p : Path) : List (List Char) := p.text.toList.splitOn '/'

/-- The names to follow. Repeated slashes count as one. -/
def names (p : Path) : List String := (p.segments.filter (· ≠ [])).map String.ofList

/-- Why nothing can be looked for at a path, whatever the file system holds. -/
def fault? (p : Path) : Option Error :=
  if p.text.toList.contains '\x00' then some .zeroByte
  else if p.text = "" then some .notFound
  else if maxLength < p.text.utf8ByteSize then some .nameTooLong
  else none

/-- The parts of the path that end with one of its names, itself first. A single point stands for
nothing. -/
def ancestors (p : Path) : List Path :=
  let ends := (List.range p.segments.length).filter fun i =>
    p.segments[i]?.any fun segment => segment ≠ [] ∧ segment ≠ ['.']
  ends.reverse.map fun i => ⟨String.ofList (['/'].intercalate (p.segments.take (i + 1)))⟩

end Path

namespace FileSystem

/-- What stands at a location; a name that is too long cannot be looked up. -/
def lookUp (fs : FileSystem) (loc : Location) : Except Error (Option Entry) :=
  if loc.getLast?.any (Path.maxNameLength < ·.utf8ByteSize) then .error .nameTooLong
  else .ok (if loc = [] then some .directory else fs.entries loc)

def put (fs : FileSystem) (loc : Location) (e : Entry) : FileSystem :=
  { fs with entries := fun other => if other = loc then some e else fs.entries other }

/-- Where a name leads from a directory. -/
def follow (here : Location) (name : String) : Location :=
  if name = "." then here else if name = ".." then here.dropLast else here ++ [name]

/-- Follows names from a location. Everything passed through has to be a directory, what the last
name leads to need not exist. -/
def walk (fs : FileSystem) : Location → List String → Except Error Location
  | here, [] => .ok here
  | here, name :: rest => do
    match ← fs.lookUp here with
    | none => .error .notFound
    | some (.file _) => .error .notDirectory
    | some .directory => fs.walk (follow here name) rest

/-- The location that a path names. -/
def locate (fs : FileSystem) (p : Path) : Except Error Location :=
  match p.fault? with
  | some e => .error e
  | none => fs.walk (if p.isAbsolute then [] else fs.workingDirectory) p.names

def stat (fs : FileSystem) (p : Path) : Except Error Entry := do
  match ← fs.lookUp (← fs.locate p) with
  | none => throw .notFound
  | some (.file f) => if p.endsInSlash then throw .notDirectory else return .file f
  | some .directory => return .directory

def existsAt (fs : FileSystem) (p : Path) : Bool := (fs.stat p).isOk

def isDirectoryAt (fs : FileSystem) (p : Path) : Bool :=
  match fs.stat p with
  | .ok .directory => true
  | _ => false

def read (fs : FileSystem) (p : Path) : Except Error Bytes := do
  match ← fs.stat p with
  | .file f => return f.bytes
  | .directory => throw .isDirectory

def readText (fs : FileSystem) (p : Path) : Except Error String := do
  match Utf8.decode? (← fs.read p) with
  | some s => return s
  | none => throw .invalidText

/-- Replaces the contents of a file, which keeps its mode, or makes a new file. -/
def write (fs : FileSystem) (p : Path) (bytes : Bytes) : Except Error FileSystem := do
  let loc ← fs.locate p
  if p.endsInSlash then throw .isDirectory
  match ← fs.lookUp loc with
  | some .directory => throw .isDirectory
  | some (.file f) => return fs.put loc (.file { f with bytes })
  | none => return fs.put loc (.file ⟨bytes, defaultMode⟩)

def setMode (fs : FileSystem) (p : Path) (mode : Nat) : Except Error FileSystem := do
  let loc ← fs.locate p
  match ← fs.stat p with
  | .file f => return fs.put loc (.file { f with mode })
  | .directory => return fs

def makeDirectory (fs : FileSystem) (p : Path) : Except Error FileSystem := do
  let loc ← fs.locate p
  match ← fs.lookUp loc with
  | some _ => throw .fileExists
  | none => return fs.put loc .directory

/-- Makes a directory; one that is there already is no error. -/
def ensureDirectory (fs : FileSystem) (p : Path) : Except Error Unit × FileSystem :=
  match fs.makeDirectory p with
  | .ok fs => (.ok (), fs)
  | .error e => (if fs.isDirectoryAt p then .ok () else .error e, fs)

/-- Makes a directory and those above it that are missing. The paths come nearest first. -/
def makeDirectories : List Path → FileSystem → Except Error Unit × FileSystem
  | [], fs => (.ok (), fs)
  | p :: above, fs =>
    if fs.makeDirectory p matches .error .notFound then
      match makeDirectories above fs with
      | (.error e, fs) => (.error e, fs)
      | (.ok (), fs) => fs.ensureDirectory p
    else fs.ensureDirectory p

end FileSystem

end TokenGate.Os
