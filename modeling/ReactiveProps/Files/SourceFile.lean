import ReactiveProps.Files.FileSystem
import ReactiveProps.Text.Lowercase

/-!
# Source files

How the text of a source file is read, and which files of a folder count as sources.
-/
namespace ReactiveProps.Files

/-- Every line ending as a line feed. -/
def unifyLines : List Char → List Char
  | [] => []
  | '\r' :: '\n' :: rest => '\n' :: unifyLines rest
  | c :: rest => (if c = '\r' then '\n' else c) :: unifyLines rest

/-- Bytes as text: UTF-8 if they are that, else one character for each byte. -/
def decode (bytes : ByteArray) : String :=
  match String.fromUTF8? bytes with
  | some text => text
  | none => String.ofList (bytes.data.toList.map fun byte => Char.ofNat byte.toNat)

def sourceText (bytes : ByteArray) : String :=
  String.ofList (unifyLines (decode bytes).toList)

/-- The text of a source file. -/
def FileSystem.load (fs : FileSystem) (path : String) : Except FileError String :=
  (fs.read path).map sourceText

/-- The part of a file name from its last dot on, unless that dot stands first or last. -/
def suffix (name : String) : String :=
  let ending := name.toList.reverse.takeWhile (· != '.')
  let stem := name.toList.reverse.drop (ending.length + 1)
  if ending.isEmpty || stem.isEmpty then "" else String.ofList ('.' :: ending.reverse)

/-- The order of locations, component by component. -/
def inOrder : Location → Location → Bool
  | [], _ => true
  | _ :: _, [] => false
  | a :: as, b :: bs => if a = b then inOrder as bs else decide (a < b)

/-- The names in a path, without those that lead nowhere. -/
def pathParts (path : String) : List String :=
  (components path).filter fun name => name != "" && name != "."

def vendorFolder : String := "node_modules"
def declarationEnding : String := ".d.ts"

/-- Whether a file is a source: its suffix is one of the extensions, it is no declaration file and
no part of its path is a vendor folder. -/
def isSource (extensions : List String) (parts : List String) : Bool :=
  let name := parts.getLast?.getD ""
  Text.lowercase (suffix name) ∈ extensions && !name.endsWith declarationEnding
    && vendorFolder ∉ parts

/-- The slashes in front of an absolute path. Two stay two, and more count as one. -/
def anchor (path : String) : String :=
  match path.toList with
  | '/' :: '/' :: '/' :: _ => "/"
  | '/' :: '/' :: _ => "//"
  | '/' :: _ => "/"
  | _ => ""

/-- The path at which a search from a root lists what is below it. -/
def listedPath (root : String) (entry : Location) : String :=
  anchor root ++ "/".intercalate (pathParts root ++ entry)

/-- A path without what leads nowhere; the working directory is a dot. -/
def tidyPath (path : String) : String :=
  let tidy := listedPath path []
  if tidy = "" then "." else tidy

/-- What a search found. It ends early at a path that is too long to be looked up. -/
structure Search where
  sources : List String
  tooLong? : Option String

namespace FileSystem

def isTooLong (fs : FileSystem) (path : String) : Bool :=
  match fs.locate path with
  | .error .tooLong => true
  | _ => false

/-- The folder that a search starts from, if there is one. Only a path that is too long to be looked
up is an error. -/
def root? (fs : FileSystem) (path : String) : Except FileError (Option Location) :=
  match fs.locate (tidyPath path) with
  | .ok (.folder folder) => .ok (some folder)
  | .error .tooLong => .error .tooLong
  | _ => .ok none

/-- What a search of a folder looks at, in order: what is right in it, or all that is below it. -/
def candidates (fs : FileSystem) (folder : Location) (recursive : Bool) : List Location :=
  ((fs.entriesBelow folder).filter fun entry => recursive || entry.length == 1).mergeSort inOrder

/-- Looks at the candidates of a search one after the other. -/
def look (fs : FileSystem) (extensions : List String) (root : String) (entries : List Location) :
    Search :=
  let seen := entries.takeWhile fun entry => !fs.isTooLong (listedPath root entry)
  let sources := seen.filter fun entry =>
    fs.isFile (listedPath root entry) && isSource extensions (pathParts root ++ entry)
  ⟨sources.map (listedPath root), (entries.map (listedPath root)).find? fs.isTooLong⟩

/-- The source files below a folder, or right in it. Before a full search looks at anything, it goes
through all folders. -/
def searchFrom (fs : FileSystem) (extensions : List String) (root : String) (folder : Location)
    (recursive : Bool) : Search :=
  let entries := fs.candidates folder recursive
  let scanned := entries.filter fun entry => recursive && fs.isFolderAt (folder ++ entry)
  match (scanned.map (listedPath root)).find? fs.isTooLong with
  | some path => ⟨[], some path⟩
  | none => fs.look extensions root entries

/-- The source files that a search from a path finds. -/
def search (fs : FileSystem) (extensions : List String) (root : String) (recursive : Bool) :
    Search :=
  match fs.root? root with
  | .ok (some folder) => fs.searchFrom extensions root folder recursive
  | .ok none => ⟨[], none⟩
  | .error _ => ⟨[], some (tidyPath root)⟩

end FileSystem

end ReactiveProps.Files
