import CrsExport.File
import CrsExport.Text.Utf8
/-! Files and directories as a value. Paths are followed name by name, so a path through a
file or through nothing fails where it leaves the directories. -/

namespace CrsExport

inductive Entry where
  | file (bytes : List UInt8)
  | directory
  deriving DecidableEq, Repr

abbrev Place := List Text

structure FileStore where
  entries : List (Place × Entry) := []
  here : Place := []
  deriving DecidableEq, Repr

namespace FileStore

def get? (s : FileStore) (place : Place) : Option Entry :=
  if place = [] then some .directory else s.entries.lookup place

def erase (s : FileStore) (place : Place) : FileStore :=
  { s with entries := s.entries.filter (fun e => e.1 != place) }

def put (s : FileStore) (place : Place) (entry : Entry) : FileStore :=
  { s with entries := (place, entry) :: (s.erase place).entries }

def longestName : Nat := 255

def longestPath : Nat := 4095

def walk (s : FileStore) (place : Place) : List Text → Except FileFault Place
  | [] => .ok place
  | name :: rest =>
    match s.get? place with
    | none => .error .notFound
    | some (.file _) => .error .notDirectory
    | some .directory =>
      if name = [] ∨ name = ['.'] then s.walk place rest
      else if name = ['.', '.'] then s.walk place.dropLast rest
      else if longestName < (Text.utf8 name).length then .error .nameTooLong
      else s.walk (place ++ [name]) rest

def startOf (s : FileStore) (path : Text) : Place :=
  if path.head? = some '/' then [] else s.here

def placesOn (place : Place) : List Text → List Place
  | [] => []
  | name :: rest =>
    if name = [] ∨ name = ['.'] then placesOn place rest
    else
      let place := if name = ['.', '.'] then place.dropLast else place ++ [name]
      place :: placesOn place rest

def placesOf (s : FileStore) (path : Text) : List Place :=
  placesOn [] (s.startOf path ++ Text.splitWhen (· == '/') path)

def pathFault? (path : Text) : Option FileFault :=
  if path.contains '\x00' then some .nulInPath
  else if path.isEmpty then some .notFound
  else if longestPath < (Text.utf8 path).length then some .nameTooLong
  else none

def locate (s : FileStore) (path : Text) : Except FileFault Place :=
  match pathFault? path with
  | some fault => .error fault
  | none => s.walk (s.startOf path) (Text.splitWhen (· == '/') path)

def namesDirectory (path : Text) : Bool := path.getLast? == some '/'

def namesFromEnd (path : Text) : List Text :=
  (Text.splitWhen (· == '/') path).reverse.dropWhile List.isEmpty

def lastName (path : Text) : Text := (namesFromEnd path).headD []

/-- The place of the directory that holds what a path names, be it there or not. The empty
name at the end asks that what stands there is a directory. -/
def locateParent (s : FileStore) (path : Text) : Except FileFault Place :=
  match pathFault? path with
  | some fault => .error fault
  | none => s.walk (s.startOf path) ((namesFromEnd path).tail.reverse ++ [[]])

def read (s : FileStore) (path : Text) : Except FileFault (List UInt8) :=
  match s.locate path with
  | .error fault => .error fault
  | .ok place =>
    match s.get? place with
    | none => .error .notFound
    | some .directory => .error .isDirectory
    | some (.file bytes) => .ok bytes

def readText (s : FileStore) (path : Text) : Except FileFault Text :=
  match s.read path with
  | .error fault => .error fault
  | .ok bytes =>
    match Text.ofUtf8? bytes with
    | some t => .ok t
    | none => .error .notUtf8

/-- The place of a file that is to be created or overwritten. A path that ends in a slash
names no file, not even one that is there. -/
def placeToWrite (s : FileStore) (path : Text) : Except FileFault Place :=
  if namesDirectory path then
    match s.locateParent path with
    | .error fault => .error fault
    | .ok _ => .error .isDirectory
  else
    match s.locate path with
    | .error fault => .error fault
    | .ok place =>
      if s.get? place = some .directory then .error .isDirectory else .ok place

def write (s : FileStore) (path : Text) (bytes : List UInt8) : Except FileFault FileStore :=
  (s.placeToWrite path).map fun place => s.put place (.file bytes)

def makeDirectory (s : FileStore) (path : Text) : Except FileFault FileStore :=
  match s.locateParent path with
  | .error fault => .error fault
  | .ok parent =>
    match s.walk parent [lastName path] with
    | .error fault => .error fault
    | .ok place =>
      if (s.get? place).isSome then .error .alreadyThere
      else .ok (s.put place .directory)

def remove (s : FileStore) (path : Text) : Except FileFault FileStore :=
  match s.locate path with
  | .error fault => .error fault
  | .ok place =>
    match s.get? place with
    | none => .error .notFound
    | some .directory => .error .isDirectory
    | some (.file _) => .ok (s.erase place)

def notAfter : Text → Text → Bool
  | [], _ => true
  | _ :: _, [] => false
  | a :: s, b :: t => a.toNat < b.toNat || (a == b && notAfter s t)

def names (s : FileStore) : List Text :=
  (s.entries.filterMap fun e =>
    if e.1.dropLast = s.here then e.1.getLast? else none).mergeSort notAfter

end FileStore
end CrsExport
