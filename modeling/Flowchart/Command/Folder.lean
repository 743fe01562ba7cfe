import Flowchart.Text.Quoted

/-!
# Folders

A folder with the files and folders in it, at any depth. A path names a place in it, part by part;
what stands there can be looked at, and a file can be put there.
-/

namespace Flowchart.Command

abbrev Place := List Text

inductive Item where
  | folder
  | file (s : Text)
  deriving DecidableEq, Repr

inductive Obstacle where
  | absent
  | notFolder
  | isFolder
  deriving DecidableEq, Repr

structure Folder where
  items : List (Place × Item) := []
  deriving DecidableEq, Repr

namespace Obstacle

def message : Obstacle → Text
  | absent => "[Errno 2] No such file or directory".toList
  | notFolder => "[Errno 20] Not a directory".toList
  | isFolder => "[Errno 21] Is a directory".toList

end Obstacle

namespace Folder

/-- What stands at a place. The folder itself stands at the empty one. -/
def item? (folder : Folder) (place : Place) : Option Item :=
  if place.isEmpty then some .folder else folder.items.lookup place

/-- Goes from a folder to what has a name there. A dot leaves the place as it is, and two dots lead
one up. -/
def enter (folder : Folder) (place : Place) (name : Text) : Except Obstacle Place :=
  match folder.item? place with
  | none => .error .absent
  | some (.file _) => .error .notFolder
  | some .folder =>
    .ok (if name.isEmpty || name = ['.'] then place
      else if name = ['.', '.'] then place.dropLast
      else place ++ [name])

/-- Where the names of a path lead. Repeated slashes count as one, and no path leads out of the
folder. -/
def follow (folder : Folder) (path : Text) : Except Obstacle Place :=
  if path.head?.all (· == '/') then .error .absent
  else ((Text.split '/' path).filter (!·.isEmpty)).foldlM folder.enter []

def namesFolder (path : Text) : Bool := path.getLast? == some '/'

def find (folder : Folder) (path : Text) : Except Obstacle Item := do
  match folder.item? (← folder.follow path) with
  | none => .error .absent
  | some .folder => .ok .folder
  | some (.file s) => if namesFolder path then .error .notFolder else .ok (.file s)

def target (folder : Folder) (path : Text) : Except Obstacle Place := do
  let place ← folder.follow path
  match folder.item? place with
  | some .folder => .error .isFolder
  | some (.file _) => if namesFolder path then .error .notFolder else .ok place
  | none => if namesFolder path then .error .isFolder else .ok place

def put (folder : Folder) (place : Place) (s : Text) : Folder where
  items := (place, .file s) :: folder.items.filter (·.1 != place)

theorem item?_put (folder : Folder) {place : Place} (h : place.isEmpty = false) (s : Text) :
    (folder.put place s).item? place = some (.file s) := by
  simp [item?, put, h]

end Folder

end Flowchart.Command
