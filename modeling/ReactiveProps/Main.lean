import ReactiveProps.CommandLine.Run
import ReactiveProps.SyntaxTree.ListingText

/-!
# The program

Standard input names the files of the workspace, one on a line. Beside a source file stands the
listing of its tree for each grammar, under the file's name followed by the grammar's name and
`.tree`.
-/
namespace ReactiveProps.Main

open Analysis CommandLine Files SyntaxTree

partial def readNames (stream : IO.FS.Stream) (names : List String) : IO (List String) := do
  let line ← stream.getLine
  if line.isEmpty then return names.reverse
  readNames stream (line.trimAscii.toString :: names)

def readFile? (path : String) : IO (Option ByteArray) := do
  try return some (← IO.FS.readBinFile path) catch _ => return none

/-- The tree that is listed for a source file and a grammar. -/
def readTree? (path : String) (grammar : Grammar) : IO (Option Parse) := do
  let content ← readFile? (path ++ "." ++ grammar.name ++ ".tree")
  return content.bind fun bytes => Parse.ofText? (decode bytes)

structure LoadedFile where
  path : String
  content : ByteArray
  trees : List (Grammar × Parse)

def load? (path : String) : IO (Option LoadedFile) := do
  let some content ← readFile? path | return none
  let mut trees := []
  for grammar in [Grammar.typescript, Grammar.tsx] do
    if let some tree ← readTree? path grammar then
      trees := (grammar, tree) :: trees
  return some ⟨path, content, trees⟩

/-- Finds the tree of a source text among those of the files. -/
def parserOf (files : List LoadedFile) : Parser := fun grammar text =>
  let known := files.find? fun file => sourceText file.content == text
  ((known.bind fun file => file.trees.lookup grammar)).getD .unknown

def fileSystemOf (workingFolder : Location) (files : List LoadedFile) : FileSystem where
  files := .ofPairs (files.map fun file => (locationOf workingFolder file.path, file.content))
  folders := []
  workingFolder := workingFolder

/-- Writes the files whose content a run has changed. -/
def writeChanges (before after : FileSystem) : IO Unit := do
  for (location, content) in after.files.entries do
    if before.files.get? location != some content then
      IO.FS.writeBinFile ("/" ++ "/".intercalate location) content

def runIn (names words : List String) : IO UInt32 := do
  let files := (← names.mapM load?).filterMap id
  let workingFolder := pathParts (← IO.currentDir).toString
  let workspace : Workspace := ⟨fileSystemOf workingFolder files, .default⟩
  let outcome := run (parserOf files) workspace words
  for item in outcome.console do
    for line in item.lines do
      IO.println line
  IO.print outcome.output
  for record in outcome.log do
    IO.eprint record.line
  if let some message := outcome.ending.message? then
    IO.eprintln message
  writeChanges workspace.files outcome.workspace.files
  return outcome.ending.status.toUInt32

end ReactiveProps.Main

def main (words : List String) : IO UInt32 := do
  ReactiveProps.Main.runIn (← ReactiveProps.Main.readNames (← IO.getStdin) []) words
