import TunnelRelay.IoError

/-! A tree of directories and plain files, and the calls on it. A path is walked
part by part, so the first part that is missing, too long or no directory decides
the error. A call that fails changes nothing; writing a file replaces its whole
content. Besides the errors of the tree, `fault` can make any call fail. -/
namespace TunnelRelay

abbrev Parts := List String

inductive FileEntry where
  | file (content : ByteArray)
  | directory

inductive FileCall where
  | read | write | makeDirectory
  deriving DecidableEq, Repr

structure FileSystem where
  current : Parts := []
  entries : List (Parts × FileEntry) := []
  fault : FileCall → Parts → Option IoError := fun _ _ => none

structure FilePath where
  text : String
  absolute : Bool
  parts : Parts
  trailing : Bool

namespace FilePath

def ofString (text : String) : FilePath where
  text := text
  absolute := text.toList.head? == some '/'
  parts := (text.toList.splitOn '/' |>.map String.ofList).filter (· != "")
  trailing := text.toList.getLast? == some '/'

def ownParts (p : FilePath) : Parts :=
  match p.absolute, p.parts with
  | false, "." :: rest => "." :: rest.filter (· != ".")
  | _, parts => parts.filter (· != ".")

def parent (p : FilePath) : Option FilePath :=
  let own := p.ownParts
  if own.isEmpty then none
  else
    let above := own.dropLast
    some ⟨(if p.absolute then "/" else "") ++ "/".intercalate above, p.absolute, above, false⟩

def isEmpty (p : FilePath) : Bool := p.text.isEmpty

def join (dir name : String) : String :=
  if name.startsWith "/" then name
  else if dir.isEmpty || dir.endsWith "/" then dir ++ name else dir ++ "/" ++ name

end FilePath

namespace FileSystem

def nulError : IoError := .described .invalidInput "file name contained an unexpected NUL byte"

def nameLimit : Nat := 255
def pathLimit : Nat := 4096

def find? (fs : FileSystem) (path : Parts) : Option FileEntry :=
  if path.isEmpty then some .directory else fs.entries.lookup path

def put (fs : FileSystem) (path : Parts) (entry : FileEntry) : FileSystem :=
  { fs with entries := (path, entry) :: fs.entries.filter fun e => e.1 != path }

def erase (fs : FileSystem) (path : Parts) : FileSystem :=
  { fs with entries := fs.entries.filter fun e => !path.isPrefixOf e.1 }

def walk (fs : FileSystem) : Parts → Parts → Except IoError Parts
  | dir, [] => .ok dir
  | dir, part :: rest =>
      if part = "." then fs.walk dir rest
      else if part = ".." then fs.walk dir.dropLast rest
      else if nameLimit < part.utf8ByteSize then .error (.os 36)
      else
        match fs.find? (dir ++ [part]) with
        | none => .error (.os 2)
        | some (.file _) => .error (.os 20)
        | some .directory => fs.walk (dir ++ [part]) rest

def locate (fs : FileSystem) (p : FilePath) : Except IoError (Parts × Option FileEntry) := do
  if p.text.toList.contains '\x00' then throw nulError
  if p.isEmpty then throw (.os 2)
  if pathLimit ≤ p.text.utf8ByteSize then throw (.os 36)
  let start := if p.absolute then [] else fs.current
  let dir ← fs.walk start p.parts.dropLast
  match p.parts.getLast? with
  | none => return (dir, some .directory)
  | some "." => return (dir, some .directory)
  | some ".." => return (dir.dropLast, some .directory)
  | some part =>
      if nameLimit < part.utf8ByteSize then throw (.os 36)
      return (dir ++ [part], fs.find? (dir ++ [part]))

def status (fs : FileSystem) (p : FilePath) : Option FileEntry :=
  match fs.locate p with
  | .ok (_, some .directory) => some .directory
  | .ok (_, some entry) => if p.trailing then none else some entry
  | _ => none

def exists? (fs : FileSystem) (p : FilePath) : Bool := (fs.status p).isSome

def isDirectory (fs : FileSystem) (p : FilePath) : Bool :=
  match fs.status p with
  | some .directory => true
  | _ => false

def check (fs : FileSystem) (call : FileCall) (path : Parts) : Except IoError Unit :=
  match fs.fault call path with
  | some error => .error error
  | none => .ok ()

def read (fs : FileSystem) (p : FilePath) : Except IoError ByteArray := do
  let (path, entry) ← fs.locate p
  fs.check .read path
  match entry with
  | none => throw (.os 2)
  | some .directory => throw (.os 21)
  | some (.file content) => if p.trailing then throw (.os 20) else return content

def write (fs : FileSystem) (p : FilePath) (content : ByteArray) : Except IoError FileSystem := do
  let (path, entry) ← fs.locate (if p.trailing then { p with parts := p.parts.dropLast ++ ["."] } else p)
  if let some .directory := entry then throw (.os 21)
  fs.check .write path
  return fs.put path (.file content)

def makeDirectory (fs : FileSystem) (p : FilePath) : Except IoError FileSystem := do
  let (path, entry) ← fs.locate p
  if entry.isSome then throw (.os 17)
  fs.check .makeDirectory path
  return fs.put path .directory

/- Makes a directory and those above it; `n` bounds how far up it goes. A step
that fails keeps what the steps before it made. -/
def makeDirectories : Nat → FileSystem → FilePath → FileSystem × Except IoError Unit
  | n, fs, p =>
      if p.isEmpty then (fs, .ok ())
      else
        match fs.makeDirectory p with
        | .ok fs => (fs, .ok ())
        | .error error =>
            if error.kind = .notFound then
              match n, p.parent with
              | n + 1, some above =>
                  match makeDirectories n fs above with
                  | (fs, .error error) => (fs, .error error)
                  | (fs, .ok ()) =>
                      match fs.makeDirectory p with
                      | .ok fs => (fs, .ok ())
                      | .error error => if fs.isDirectory p then (fs, .ok ()) else (fs, .error error)
              | _, _ => (fs, .error (.described .uncategorized "failed to create whole tree"))
            else if fs.isDirectory p then (fs, .ok ())
            else (fs, .error error)

def makeTree (fs : FileSystem) (p : FilePath) : FileSystem × Except IoError Unit :=
  makeDirectories p.parts.length fs p

end FileSystem
end TunnelRelay
