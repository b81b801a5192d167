import RemoteAttestation.CommandLine.Interaction
import RemoteAttestation.Device.PlainFile

/-!
# Interactions in a Directory

An interaction can be run without a computer around it, in a directory of named files. Around
the directory is a bare system: paths lead to one of the files, to a folder, to the null
device, or nowhere. A device is a plain file of the directory, so sending a command changes
that file. Random octets are taken from a given supply, and are zeros after its end.

## Main definitions

* `Directory`: named files.
* `Folder`: the directories that a path may pass through.
* `Place`, `Directory.place`: where a path leads.
* `World`, `Interaction.runIn`: an interaction carried out in a directory.
-/

namespace RemoteAttestation

/-- Named files. The first file of a name counts. -/
structure Directory where
  /-- The names and contents of the files. -/
  files : List (String × Bytes)
  deriving Repr, DecidableEq

/-- Where a path leads. -/
inductive Place where
  /-- To a file of this name and content. -/
  | file (name : String) (content : Bytes)
  /-- Nowhere, or to what is no file. -/
  | none (fault : FileFault)
  deriving Repr, DecidableEq

/-- A directory that a path passes through. -/
inductive Folder where
  /-- The directory itself. -/
  | home
  /-- A directory above it. Nothing is known to be there but other directories above. -/
  | above
  /-- The root. -/
  | root
  /-- A directory in the root that every system has. -/
  | system (name : String)
  deriving Repr, DecidableEq

namespace Folder

/-- The names of the directories that every system has in its root. -/
def systemNames : List String :=
  ["bin", "boot", "dev", "etc", "home", "lib", "media", "mnt", "opt", "proc", "root", "run", "sbin",
   "srv", "sys", "tmp", "usr", "var"]

/-- The directory above. The root is above itself. -/
def parent : Folder → Folder
  | home => above
  | above => above
  | root => root
  | system _ => root

/-- The directory with a name inside another one. -/
def child? : Folder → String → Option Folder
  | root, name => if systemNames.contains name then some (system name) else none
  | _, _ => none

end Folder

namespace Directory

/-- The content of a file. -/
def content? (d : Directory) (name : String) : Option Bytes :=
  d.files.lookup name

/-- The directory with another content in its file of a name. -/
def replace (d : Directory) (name : String) (content : Bytes) : Directory :=
  ⟨d.files.map fun (n, old) => if n = name then (n, content) else (n, old)⟩

/-- The name of the null device, which no file of a directory has. -/
def nullDevice : String := "/dev/null"

/-- The file with a name in a folder: a file of the directory, or the null device, which is
always empty. -/
def file? (d : Directory) : Folder → String → Option (String × Bytes)
  | .home, name => (d.content? name).map (name, ·)
  | .system "dev", "null" => some (nullDevice, [])
  | _, _ => none

/-! ### Paths -/

/-- The names in a path, without those that stay in a folder. -/
def names (path : String) : List String :=
  ((Text.splitAll '/' path.toList).map String.ofList).filter fun name => name ≠ "" ∧ name ≠ "."

/-- Whether a path asks for a folder by its end. -/
def endsInFolder (path : String) : Bool :=
  match (Text.splitAll '/' path.toList).getLast? with
  | some last => last = [] ∨ last = ['.']
  | none => true

/-- The folder where a path starts. -/
def start (path : String) : Folder :=
  if path.toList.head? = some '/' then .root else .home

/-- The largest number of octets in a name. -/
def maxName : Nat := 255

/-- The largest number of octets in a path. -/
def maxPath : Nat := 4095

/-- Where some names lead from a folder. The first one that leads nowhere decides. A file is
the end of the way, and `folderOnly` tells that the way must not end there. -/
def follow (d : Directory) (folderOnly : Bool) (folder : Folder) : List String → Place
  | [] => .none .isDirectory
  | name :: rest =>
    if name = ".." then d.follow folderOnly folder.parent rest
    else if maxName < name.utf8ByteSize then .none .nameTooLong
    else match d.file? folder name, folder.child? name with
      | some (name, content), _ =>
        if rest = [] ∧ !folderOnly then .file name content else .none .notDirectory
      | none, some folder => d.follow folderOnly folder rest
      | none, none => .none .notFound

/-- Where a **path** leads. -/
def place (d : Directory) (path : String) : Place :=
  if path.toList.contains '\x00' then .none .nulInName
  else if path = "" then .none .notFound
  else if maxPath < path.utf8ByteSize then .none .nameTooLong
  else d.follow (endsInFolder path) (start path) (names path)

end Directory

/-- The state of a run: the directory, the device that was opened, and the supply of random
octets. -/
structure World where
  /-- The directory. -/
  directory : Directory
  /-- The name of the device's file, and the position in it. -/
  device : Option (String × Nat) := none
  /-- Random octets that were not drawn yet. Zeros follow them without end. -/
  supply : Bytes := []
  deriving Repr, DecidableEq

namespace World

/-- The octets of a file. -/
def fetch (w : World) (path : String) : Except FileFault Bytes :=
  match w.directory.place path with
  | .file _ content => .ok content
  | .none fault => .error fault

/-- Opens a device. -/
def openDevice (w : World) (path : String) : Except FileFault Unit × World :=
  match w.directory.place path with
  | .file name _ => (.ok (), { w with device := some (name, 0) })
  | .none fault => (.error fault, w)

/-- Sends a command to the device. Without a device there is nothing that could answer. -/
def send (w : World) (command : Bytes) : Except TransportFault Bytes × World :=
  match w.device with
  | none => (.error (.commandNotWritten .endOfData), w)
  | some (name, position) =>
    let file : PlainFile := ⟨(w.directory.content? name).getD [], position⟩
    let (response, file) := PlainFile.channel.exchange command file
    (response, { w with
      directory := w.directory.replace name file.content
      device := some (name, file.position) })

end World

/-- Carries out an **interaction** in a world, with the notices that it gives. -/
def Interaction.runIn {α : Type} (w : World) : Interaction α → Noted α × World
  | .done result => (⟨[], result⟩, w)
  | .tell notice next =>
    let (noted, w) := next.runIn w
    (⟨notice :: noted.notices, noted.result⟩, w)
  | .fetch path next => (next (w.fetch path)).runIn w
  | .openDevice path next =>
    let (answer, w) := w.openDevice path
    (next answer).runIn w
  | .send command next =>
    let (answer, w) := w.send command
    (next answer).runIn w
  | .draw count next =>
    (next ((w.supply.take count).rightpad count 0)).runIn { w with supply := w.supply.drop count }

end RemoteAttestation
