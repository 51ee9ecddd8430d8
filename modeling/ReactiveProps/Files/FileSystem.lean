import ReactiveProps.OrderedMap
import ReactiveProps.Text.Quoted

/-!
# File systems

The files and folders that there are, and what a path means among them. Every folder on the way to a
file exists.
-/
namespace ReactiveProps.Files

/-- The names from the topmost folder down. -/
abbrev Location := List String

/-- Whether a location lies below a folder. -/
def Location.isBelow (location folder : Location) : Bool :=
  folder.isPrefixOf location && location != folder

/-- The locations on the way to a location, and that location itself. -/
def Location.stages (location : Location) : List Location :=
  (List.range location.length).map fun last => location.take (last + 1)

structure FileSystem where
  files : OrderedMap Location ByteArray
  /-- Folders that exist even without files. -/
  folders : List Location
  /-- Where the paths start that do not start from the topmost folder. -/
  workingFolder : Location

inductive FileError
  | missing
  | isFolder
  | notFolder
  /-- A name on the path, or all of it, is too long to be looked up. -/
  | tooLong
  /-- The path holds a character that no path can hold. -/
  | nullCharacter
  deriving DecidableEq, Repr

def FileError.message (error : FileError) (path : String) : String :=
  match error with
  | missing => "[Errno 2] No such file or directory: " ++ Text.quoted path
  | isFolder => "[Errno 21] Is a directory: " ++ Text.quoted path
  | notFolder => "[Errno 20] Not a directory: " ++ Text.quoted path
  | tooLong => "[Errno 36] File name too long: " ++ Text.quoted path
  | nullCharacter => "embedded null byte"

/-- What stands at the end of a path: a file, a folder, or a folder without that name in it. -/
inductive Place
  | file (location : Location)
  | folder (location : Location)
  | vacant (location : Location)
  deriving DecidableEq, Repr

/-- The text between the slashes. -/
def components (path : String) : List String :=
  (path.toList.splitOn '/').map String.ofList

def isAbsolute (path : String) : Bool := path.toList.head? == some '/'

/-- The folder that a path starts from. -/
def startOf (workingFolder : Location) (path : String) : Location :=
  if isAbsolute path then [] else workingFolder

/-- Where a component of a path leads from a folder, whether or not that is there. -/
def goTo (current : Location) (name : String) : Location :=
  if name = "" ∨ name = "." then current
  else if name = ".." then current.dropLast
  else current ++ [name]

/-- The location that a path names if every folder on its way is there. -/
def locationOf (workingFolder : Location) (path : String) : Location :=
  (components path).foldl goTo (startOf workingFolder path)

/-- A name of more bytes cannot be looked up. -/
def longestName : Nat := 255

/-- A path of more bytes cannot be looked up. -/
def longestPath : Nat := 4095

/-- What keeps a path from being looked up at all. -/
def pathError? (path : String) : Option FileError :=
  if path.toList.contains (Char.ofNat 0) then some .nullCharacter
  else if longestPath < path.utf8ByteSize then some .tooLong
  else none

namespace FileSystem

def empty : FileSystem := ⟨.empty, [], []⟩

/-- Whether a location lies on the way to a file or folder, or is a folder itself. -/
def isFolderAt (fs : FileSystem) (location : Location) : Bool :=
  (fs.workingFolder :: fs.folders).any (location.isPrefixOf ·) ||
    fs.files.keys.any (Location.isBelow · location)

def isFileAt (fs : FileSystem) (location : Location) : Bool :=
  fs.files.contains location

/-- Follows the components of a path from a folder. -/
def follow (fs : FileSystem) (current : Location) : List String → Except FileError Place
  | [] => .ok (.folder current)
  | name :: rest =>
    if name = "" ∨ name = "." then fs.follow current rest
    else if name = ".." then fs.follow current.dropLast rest
    else
      let next := current ++ [name]
      if longestName < name.utf8ByteSize then .error .tooLong
      else if fs.isFolderAt next then fs.follow next rest
      else if fs.isFileAt next then
        if rest.isEmpty then .ok (.file next) else .error .notFolder
      else if rest.isEmpty then .ok (.vacant next) else .error .missing

def locate (fs : FileSystem) (path : String) : Except FileError Place :=
  match pathError? path with
  | some error => .error error
  | none =>
    if path = "" then .error .missing
    else fs.follow (startOf fs.workingFolder path) (components path)

def isFile (fs : FileSystem) (path : String) : Bool :=
  match fs.locate path with
  | .ok (.file _) => true
  | _ => false

def isFolder (fs : FileSystem) (path : String) : Bool :=
  match fs.locate path with
  | .ok (.folder _) => true
  | _ => false

def hasPath (fs : FileSystem) (path : String) : Bool := fs.isFile path || fs.isFolder path

def read (fs : FileSystem) (path : String) : Except FileError ByteArray :=
  match fs.locate path with
  | .ok (.file location) => .ok ((fs.files.get? location).getD .empty)
  | .ok (.folder _) => .error .isFolder
  | .ok (.vacant _) => .error .missing
  | .error error => .error error

/-- A path without the slashes at its end. -/
def withoutSlashes (path : String) : String :=
  String.ofList (path.toList.reverse.dropWhile (· == '/')).reverse

/-- Why a path that ends in a slash cannot be written. It can only name a folder, so its last name
is not looked up. -/
def folderError (fs : FileSystem) (path : String) : FileError :=
  match pathError? path with
  | some error => error
  | none =>
    match fs.follow (startOf fs.workingFolder path) (components (withoutSlashes path)).dropLast with
    | .ok (.folder _) => .isFolder
    | .ok (.file _) => .notFolder
    | .ok (.vacant _) => .missing
    | .error error => error

/-- Where a file is written. -/
def target (fs : FileSystem) (path : String) : Except FileError Location :=
  if path.endsWith "/" then .error (fs.folderError path)
  else
    match fs.locate path with
    | .ok (.file location) => .ok location
    | .ok (.vacant location) => .ok location
    | .ok (.folder _) => .error .isFolder
    | .error error => .error error

def put (fs : FileSystem) (location : Location) (content : ByteArray) : FileSystem :=
  { fs with files := fs.files.insert location content }

def write (fs : FileSystem) (path : String) (content : ByteArray) :
    Except FileError FileSystem :=
  (fs.target path).map fun location => fs.put location content

/-- What there is below a folder, files and folders, relative to it. -/
def entriesBelow (fs : FileSystem) (folder : Location) : List Location :=
  let known := fs.workingFolder :: fs.folders ++ fs.files.keys
  let ways := (known.filter (folder.isPrefixOf ·)).map (·.drop folder.length)
  (ways.flatMap Location.stages).eraseDups

end FileSystem

end ReactiveProps.Files
