import AdmissionHooks.Base64.Alphabet
import AdmissionHooks.Text.Quoted

/-!
# Files by path

A file system answers a path with the content of the file there, or with the reason why there is
none to be had. Nothing more is asked of it: links, rights, devices and mounts are its own matter.

A tree of files and directories is one file system. Its paths are walked name by name: a step needs
a directory to stand in, a single dot stays, a double dot goes up, and a path starts at the root or
at the working directory. Putting a file walks in the same way and makes the directories on it.
-/

namespace AdmissionHooks

/-- Why a file could not be read, by the number and the words of the system. The text of an error
names the path, unless the file was opened and then could not be read. -/
structure FileError where
  number : Nat
  reason : String
  opened : Bool := false
  deriving DecidableEq, Repr

namespace FileError

def missing : FileError := { number := 2, reason := "No such file or directory" }

def notDirectory : FileError := { number := 20, reason := "Not a directory" }

def isDirectory : FileError := { number := 21, reason := "Is a directory" }

def nameTooLong : FileError := { number := 36, reason := "File name too long" }

def message (e : FileError) (path : String) : String :=
  let told := "[Errno " ++ toString e.number ++ "] " ++ e.reason
  if e.opened then told else told ++ ": " ++ Text.quote path

end FileError

/-- What there is to be read at every path; without a word about it, nothing. -/
structure FileSystem where
  open? : String → Except FileError Bytes := fun _ => .error .missing

inductive Node where
  | file (content : Bytes)
  | directory
  deriving DecidableEq, Repr

/-- A tree of files and directories, each under its names from the root, and the directory at which
a path starts that does not start at the root. -/
structure Files where
  node? : List String → Option Node := fun _ => none
  workingDirectory : List String := []

namespace Files

def splitPath (cs : List Char) : List (List Char) :=
  cs.foldr (fun c parts =>
    if c = '/' then [] :: parts
    else match parts with
      | [] => [[c]]
      | part :: parts => (c :: part) :: parts) [[]]

/-- The names that a path goes through, without the empty ones between two slashes. -/
def pathNames (path : String) : List String :=
  ((splitPath path.toList).filter (fun part => !part.isEmpty)).map String.ofList

def start (t : Files) (path : String) : List String :=
  if path.toList.head? = some '/' then [] else t.workingDirectory

/-! ## Making a tree -/

def enter (t : Files) (place : List String) (node : Option Node) : Files :=
  { t with node? := fun names => if names = place then node else t.node? names }

@[simp] theorem node?_enter_self (t : Files) (place : List String) (node : Option Node) :
    (t.enter place node).node? place = node := if_pos rfl

theorem node?_enter_of_ne (t : Files) {place names : List String} (node : Option Node)
    (different : names ≠ place) : (t.enter place node).node? names = t.node? names :=
  if_neg different

@[simp] theorem workingDirectory_enter (t : Files) (place : List String) (node : Option Node) :
    (t.enter place node).workingDirectory = t.workingDirectory := rfl

/-- Makes the directories on a walk from a directory; also gives where the walk ends. -/
def makeDirectories (t : Files) (here : List String) : List String → Files × List String
  | [] => (t, here)
  | name :: names =>
      if name = "." then t.makeDirectories here names
      else if name = ".." then t.makeDirectories here.dropLast names
      else (t.enter (here ++ [name]) (some .directory)).makeDirectories (here ++ [name]) names

def putDirectory (t : Files) (path : String) : Files :=
  (t.makeDirectories (t.start path) (pathNames path)).1

def put (t : Files) (path : String) (content : Bytes) : Files :=
  let names := pathNames path
  let made := t.makeDirectories (t.start path) names.dropLast
  made.1.enter (made.2 ++ names.getLast?.toList) (some (.file content))

/-- Takes a name out of the working directory. -/
def remove (t : Files) (name : String) : Files := t.enter (t.workingDirectory ++ [name]) none

/-- The directories that a process finds on most systems. -/
def usualDirectories : List String :=
  ["/bin", "/boot", "/dev/shm", "/etc/ssl/certs", "/home", "/lib", "/media", "/mnt", "/opt",
    "/proc", "/root", "/run", "/sbin", "/srv", "/sys", "/tmp", "/usr/bin", "/usr/lib",
    "/usr/local", "/usr/sbin", "/usr/share", "/var/lib", "/var/log", "/var/run", "/var/tmp"]

/-- A usual tree, with the empty file that devices have and a working directory of its own. -/
def usual : Files :=
  let t : Files := (usualDirectories.foldl putDirectory {}).put "/dev/null" []
  { t.putDirectory "/tmp/work" with workingDirectory := ["tmp", "work"] }

def ofPaths (files : List (String × Bytes)) (directories : List String) : Files :=
  files.foldl (fun t f => t.put f.1 f.2) (directories.foldl putDirectory usual)

/-! ## Opening a path -/

/-- A place that a walk has reached. -/
inductive Place where
  | directory (names : List String)
  | file (content : Bytes)
  deriving Repr

def longestName : Nat := 255

def longestPath : Nat := 4095

def step (t : Files) (here : Place) (name : String) : Except FileError Place :=
  match here with
  | .file _ => .error .notDirectory
  | .directory names =>
      if name = "." then .ok here
      else if name = ".." then .ok (.directory names.dropLast)
      else if longestName < name.utf8ByteSize then .error .nameTooLong
      else match t.node? (names ++ [name]) with
        | some (.file content) => .ok (.file content)
        | some .directory => .ok (.directory (names ++ [name]))
        | none => .error .missing

def walk (t : Files) : Place → List String → Except FileError Place
  | here, [] => .ok here
  | here, name :: names => do
      let next ← t.step here name
      t.walk next names

def open? (t : Files) (path : String) : Except FileError Bytes :=
  if longestPath < path.utf8ByteSize then .error .nameTooLong
  else if path.isEmpty then .error .missing
  else
    match t.walk (.directory (t.start path)) (pathNames path) with
    | .error e => .error e
    | .ok (.file content) =>
        if path.toList.getLast? = some '/' then .error .notDirectory else .ok content
    | .ok (.directory _) => .error .isDirectory

instance : Coe Files FileSystem := ⟨fun t => ⟨t.open?⟩⟩

end Files

end AdmissionHooks
