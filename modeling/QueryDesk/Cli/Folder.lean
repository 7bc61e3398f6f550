/-
**The files a program sees.**

* `Entry`, `Folder` — what opening a path comes to, and the files and folders by their paths.
* `Folder.passage` — the way through the folders of a path: one may be missing or be a
  file, or have too long a name.
* `Folder.entry`, `Folder.has`, `Folder.open`, `Folder.found?` — looking a path up; a folder is also
  there when a file inside it is.
* `Folder.refusal?`, `Folder.write` — why a file cannot be written, and the folder once it is.
-/

import QueryDesk.Text.Basic
import QueryDesk.Failure

namespace QueryDesk.Cli

/-- What opening a path for reading comes to. -/
inductive Entry where
  | folder
  | file (content : String)
  /-- It cannot be opened or read; what stands there may still show. -/
  | closed (fault : FileFault) (isSeen : Bool)
deriving DecidableEq, Repr

/-- Files by their paths, and the paths of folders besides those around files. Something stands
under an unreadable path, and it is said whether that shows. -/
structure Folder where
  files : List (String × String)
  folders : List String
  unreadable : List (String × FileFault × Bool)
  unwritable : List (String × FileFault)
deriving Repr

namespace Folder

/-- A folder whose files can all be read and written. -/
def ofFiles (files : List (String × String)) : Folder := ⟨files, [], [], []⟩

/-! ### Paths -/

/-- The bytes that one part of a path can have. -/
def partBytes : Nat := 255

/-- The bytes that a path can have. -/
def pathBytes : Nat := 4095

/-- Whether a part of a path stands for a folder wherever it is reached. -/
def isStanding (part : String) : Bool := part == "" || part == "." || part == ".."

/-- The parts of a path between slashes. -/
def parts (path : String) : List String := (Text.splitOnChar '/' path.toList).map String.ofList

/-- Why a path cannot even be looked up. -/
def pathFault? (path : String) : Option FileFault :=
  if path.toList.contains '\x00' then some .nullInside
  else if pathBytes < path.utf8ByteSize then some .nameTooLong
  else none

/-- Whether a folder is given, or a file inside it. -/
def hasFolder (folder : Folder) (path : String) : Bool :=
  folder.folders.contains path ||
    folder.files.any fun (name, _) => Text.startsWith name (path ++ "/")

/-- Passes through the folders in front of the last part of a path, from one place on. -/
def passage (folder : Folder) (reached : String) : List String → Except FileFault Unit
  | part :: next :: rest =>
    let here := reached ++ part
    if partBytes < part.utf8ByteSize then .error .nameTooLong
    else if isStanding part || folder.hasFolder here then
      folder.passage (here ++ "/") (next :: rest)
    else .error (if (folder.files.lookup here).isSome then .notDirectory else .missing)
  | _ => .ok ()

/-! ### Reading -/

/-- What stands under a path that no file is given for. -/
def place (folder : Folder) (path : String) : Entry :=
  match pathFault? path, folder.passage "" (parts path) with
  | some fault, _ => .closed fault false
  | none, .error fault => .closed fault false
  | none, .ok () =>
    let last := (parts path).getLastD ""
    if partBytes < last.utf8ByteSize then .closed .nameTooLong false
    else if path ≠ "" ∧ (isStanding last ∨ folder.hasFolder path) then .folder
    else .closed .missing false

/-- What opening a path comes to. -/
def entry (folder : Folder) (path : String) : Entry :=
  match folder.unreadable.lookup path, folder.files.lookup path with
  | some (fault, isSeen), _ => .closed fault isSeen
  | none, some content => .file content
  | none, none => folder.place path

/-- Whether it shows that something stands under a path. -/
def has (folder : Folder) (path : String) : Bool :=
  match folder.entry path with
  | .closed _ isSeen => isSeen
  | _ => true

/-- The content of a file. -/
def «open» (folder : Folder) (path : String) : Except Failure String :=
  match folder.entry path with
  | .folder => .error (.file .isDirectory path)
  | .file content => .ok content
  | .closed fault _ => .error (.file fault path)

/-- The content of a file, `none` if nothing shows under the path. -/
def found? (folder : Folder) (path : String) : Except Failure (Option String) :=
  if folder.has path then (folder.open path).map some else .ok none

/-! ### Writing -/

/-- Why a file cannot be written under a path that no file is given for. Nothing
is written behind a slash. -/
def placeRefusal? (folder : Folder) (path : String) : Option FileFault :=
  let ended := (path.toList.reverse.dropWhile (· == '/')).reverse
  match pathFault? path, folder.passage "" (parts (String.ofList ended)) with
  | some fault, _ => some fault
  | none, .error fault => some fault
  | none, .ok () =>
    if path = "" then some .missing
    else if ended.length < path.length then some .isDirectory
    else match folder.place path with
      | .folder => some .isDirectory
      | .closed fault _ => if fault = .missing then none else some fault
      | .file _ => none

/-- Why a file cannot be written. -/
def refusal? (folder : Folder) (path : String) : Option FileFault :=
  match folder.unwritable.lookup path, folder.files.lookup path with
  | some fault, _ => some fault
  | none, some _ => none
  | none, none => folder.placeRefusal? path

/-- The folder with a file of the given content, which is a text from now on. -/
def put (folder : Folder) (path content : String) : Folder :=
  { folder with
    files := (path, content) :: folder.files.filter fun (name, _) => name != path
    unreadable := folder.unreadable.filter fun (name, fault, _) =>
      name != path || fault.isOfSystem }

/-- The folder with a file of the given content, if the file can be written. -/
def write (folder : Folder) (path content : String) : Except Failure Folder :=
  match folder.refusal? path with
  | some fault => .error (.file fault path)
  | none => .ok (folder.put path content)

/-- The files that another folder has and this one has not. -/
def made (folder later : Folder) : List (String × String) :=
  later.files.filter fun (name, _) => (folder.files.lookup name).isNone

/-- A file that is put is the one found. -/
theorem lookup_put (folder : Folder) (path content : String) :
    (folder.put path content).files.lookup path = some content := by
  simp [put]

end Folder

end QueryDesk.Cli
