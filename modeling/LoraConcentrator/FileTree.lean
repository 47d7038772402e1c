import LoraConcentrator.Bytes.BigEndian
import LoraConcentrator.Error

/-!
# File trees

What device paths and the names of settings files lead to. A tree has places, each a list of names
from the root, and something stands at some of them. A path is followed name by name, from the root
if it starts with a slash and else from the working directory; every place it comes through must be
a directory (`FileTree.follow`). What stands at its end decides whether it can be opened as a serial
port (`FileTree.openPort`) or read as a file (`FileTree.read`).
-/

namespace LoraConcentrator

/-! ### Faults -/

/-- Why a path does not serve. -/
inductive FileFault
  /-- Nothing stands there. -/
  | missing
  /-- The device is not there for this program. -/
  | noDevice
  /-- The path goes on from what is no directory. -/
  | notDirectory
  | isDirectory
  /-- The path holds a NUL, or the device does not know what is asked of it. -/
  | invalid
  | notTerminal
  /-- The path or one of its names is too long. -/
  | tooLong
  deriving DecidableEq, Repr

namespace FileFault

/-- The fault in words. -/
def text : FileFault → String
  | missing => "No such file or directory"
  | noDevice => "No such device or address"
  | notDirectory => "Not a directory"
  | isDirectory => "Is a directory"
  | invalid => "Invalid argument"
  | notTerminal => "Not a typewriter"
  | tooLong => "File name too long"

/-- The number that the operating system has for the fault. -/
def number : FileFault → Nat
  | missing => 2
  | noDevice => 6
  | notDirectory => 20
  | isDirectory => 21
  | invalid => 22
  | notTerminal => 25
  | tooLong => 36

/-- Every fault. -/
def all : List FileFault :=
  [missing, noDevice, notDirectory, isDirectory, invalid, notTerminal, tooLong]

/-- The fault of a number. -/
def ofNumber? (number : Nat) : Option FileFault :=
  all.find? fun fault ↦ fault.number == number

/-- The number of a fault is read back. -/
theorem ofNumber?_number (fault : FileFault) : ofNumber? fault.number = some fault := by
  cases fault <;> rfl

/-- The kind of the fault as a failure to read a file. -/
def ioKind : FileFault → IoKind
  | missing => .notFound
  | notDirectory => .notDirectory
  | isDirectory => .isDirectory
  | invalid => .invalidInput
  | tooLong => .invalidName
  | noDevice | notTerminal => .other

/-- The fault as a failure to read a file. -/
def ioFailure (fault : FileFault) : IoFailure :=
  ⟨fault.ioKind, fault.text ++ " (os error " ++ toString fault.number ++ ")"⟩

/-- The kind of the fault as a failure to open a serial port. -/
def portKind : FileFault → PortFailureKind
  | missing => .io .notFound
  | invalid => .io .invalidInput
  | noDevice | notDirectory | isDirectory | notTerminal | tooLong => .unknown

/-- The fault as a failure to open a serial port. -/
def portFailure (fault : FileFault) : PortFailure := ⟨fault.portKind, fault.text⟩

end FileFault

/-! ### Trees -/

/-- What stands at a place. -/
inductive FileEntry
  | directory
  /-- A file, or a device that is read like one, with its content. -/
  | file (content : Bytes)
  /-- A serial port or another terminal. -/
  | terminal
  /-- A device that meets every use with a fault. -/
  | refusing (fault : FileFault)
  deriving DecidableEq, Repr

/-- A file tree. Its root is a directory and stands in no list. -/
structure FileTree where
  entries : List (List String × FileEntry)
  /-- The place that paths without a slash in front start from. -/
  workingDirectory : List String := []
  deriving DecidableEq, Repr

namespace FileTree

/-- What stands at a place, if anything does. -/
def entry? (tree : FileTree) (place : List String) : Option FileEntry :=
  if place = [] then some .directory else tree.entries.lookup place

/-- The most bytes of a name. -/
def nameLimit : Nat := 255

/-- The most bytes of a path. -/
def pathLimit : Nat := 4095

/-- The place that a name leads to. An empty name leads nowhere else, so that slashes may be
doubled, and one that ends a path asks for a directory. -/
def step (tree : FileTree) (place : List String) (name : String) : Except FileFault (List String) :=
  if tree.entry? place ≠ some .directory then .error .notDirectory
  else if name = "" ∨ name = "." then .ok place
  else if name = ".." then .ok place.dropLast
  else if nameLimit < name.utf8ByteSize then .error .tooLong
  else if (tree.entry? (place ++ [name])).isNone then .error .missing
  else .ok (place ++ [name])

/-- The place that names lead to, one after the other. -/
def follow (tree : FileTree) (place : List String) (names : List String) :
    Except FileFault (List String) :=
  names.foldlM tree.step place

/-- The place that a path leads to. -/
def place (tree : FileTree) (path : String) : Except FileFault (List String) :=
  if '\x00' ∈ path.toList then .error .invalid
  else if path = "" then .error .missing
  else if pathLimit < path.utf8ByteSize then .error .tooLong
  else if path.startsWith "/" then tree.follow [] (path.splitOn "/")
  else tree.follow tree.workingDirectory (path.splitOn "/")

/-- What stands where a path leads. -/
def find (tree : FileTree) (path : String) : Except FileFault FileEntry :=
  match tree.place path with
  | .error fault => .error fault
  | .ok place =>
    match tree.entry? place with
    | none => .error .missing
    | some entry => .ok entry

/-- Opens the serial port that a path leads to. -/
def openPort (tree : FileTree) (path : String) : Except FileFault Unit :=
  match tree.find path with
  | .error fault => .error fault
  | .ok .terminal => .ok ()
  | .ok .directory => .error .isDirectory
  | .ok (.file _) => .error .notTerminal
  | .ok (.refusing fault) => .error fault

/-- The content of the file that a path leads to. Nothing is typed on a terminal. -/
def read (tree : FileTree) (path : String) : Except FileFault Bytes :=
  match tree.find path with
  | .error fault => .error fault
  | .ok .terminal => .ok []
  | .ok .directory => .error .isDirectory
  | .ok (.file content) => .ok content
  | .ok (.refusing fault) => .error fault

/-- A tree with something more at a place. -/
def add (tree : FileTree) (place : List String) (entry : FileEntry) : FileTree :=
  { tree with entries := (place, entry) :: tree.entries }

/-! ### What every machine has -/

/-- The directories that every machine has. -/
def commonDirectories : List (List String) :=
  [["bin"], ["boot"], ["dev"], ["dev", "fd"], ["dev", "pts"], ["dev", "shm"], ["etc"], ["home"],
    ["lib"], ["media"], ["mnt"], ["opt"], ["proc"], ["proc", "self"], ["root"], ["run"], ["sbin"],
    ["srv"], ["sys"], ["tmp"], ["usr"], ["usr", "bin"], ["usr", "lib"], ["usr", "local"],
    ["usr", "share"], ["var"], ["var", "log"], ["var", "tmp"]]

/-- The devices that every machine has: those that swallow or give bytes, the streams of the
program, sources of random bytes, which cannot be set up, and the terminal that a program without
one lacks. -/
def commonDevices : List (List String × FileEntry) :=
  let silent (place : List String) := (place, FileEntry.file [])
  (["null", "zero", "full", "stdin", "stdout", "stderr"].map fun name ↦ silent ["dev", name]) ++
    (["0", "1", "2"].map fun name ↦ silent ["dev", "fd", name]) ++
    (["random", "urandom"].map fun name ↦ (["dev", name], .refusing .invalid)) ++
    [(["dev", "tty"], .refusing .noDevice)]

/-- The text files that every machine has. -/
def commonFiles : List (List String × FileEntry) :=
  [(["etc", "passwd"], .file "root:x:0:0:root:/root:/bin/sh\n".toUTF8.toList),
    (["etc", "hosts"], .file "127.0.0.1\tlocalhost\n".toUTF8.toList)]

/-- The tree of a machine without serial ports and settings files. -/
def common : FileTree where
  entries := commonDirectories.map (·, .directory) ++ commonDevices ++ commonFiles
  workingDirectory := ["root"]

/-! ### Where paths lead -/

/-- Following a name and then others is following them all. -/
theorem follow_cons (tree : FileTree) (place : List String) (name : String) (names : List String) :
    tree.follow place (name :: names) =
      (tree.step place name >>= fun place ↦ tree.follow place names) := rfl

/-- A place that is no directory leads nowhere. -/
theorem follow_of_not_directory {tree : FileTree} {place : List String} {name : String}
    {names : List String} (h : tree.entry? place ≠ some .directory) :
    tree.follow place (name :: names) = .error .notDirectory := by
  rw [follow_cons, step, if_pos h]
  rfl

end FileTree

end LoraConcentrator
