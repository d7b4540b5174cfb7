import AuctionHooks.Document.Codec.Config
import AuctionHooks.Document.Toml.Reader

/-!
# Loading a configuration

A configuration is loaded from a file, or from a directory whose files are merged in the order of
their names.  What there is on disk is a value (`FileTree`), so that loading is a function.

## Files

A file that does not exist configures nothing.  One that exists is read as JSON if its name ends in
`.json`, in any case, and as TOML otherwise.

## Directories

Only files directly in the directory count, and of them only those whose names end in `.toml` or
`.json`.  A name that begins with its only dot has no ending.  The first file that cannot be loaded
is the error of the whole directory.

## What is left out

The name of a file is a text here, and so is a path.  A link is not told apart from what it leads to,
and one that leads nowhere is not there.
-/

namespace AuctionHooks

/-- What there is under a path. -/
inductive FileTree where
  | text (content : String)
  /-- A file whose bytes are no text. -/
  | binary
  | directory (entries : List (String × FileTree))
  deriving Inhabited

namespace FileTree

def isDirectory : FileTree → Bool
  | directory _ => true
  | _ => false

/-- Follows the parts of a path; `above` are the directories that lead here, nearest first. -/
def follow (above : List FileTree) (here : FileTree) : List String → Option FileTree
  | [] => some here
  | part :: rest =>
    match here with
    | directory entries =>
      if part = "" ∨ part = "." then follow above here rest
      else if part = ".." then
        match above with
        | parent :: above => follow above parent rest
        | [] => none
      else
        match entries.lookup part with
        | some next => follow (here :: above) next rest
        | none => none
    | _ => none

end FileTree

namespace FilePath

def parts (path : String) : List String :=
  (path.toList.foldr split [[]]).map String.ofList
where
  /-- Puts a character in front of the first part, or a new part in front of it. -/
  split (c : Char) : List (List Char) → List (List Char)
    | [] => [[c]]
    | part :: rest => if c = '/' then [] :: part :: rest else (c :: part) :: rest

/-- The last part of a path that is a name. -/
def fileName? (path : String) : Option String :=
  match ((parts path).filter fun p => p ≠ "" ∧ p ≠ ".").getLast? with
  | some ".." => none
  | found => found

/-- The ending of a file name: what follows its last dot, unless the name begins with that dot. -/
def ending? (name : String) : Option String :=
  let reversed := name.toList.reverse
  match reversed.dropWhile (· ≠ '.') with
  | _ :: _ :: _ => some (String.ofList (reversed.takeWhile (· ≠ '.')).reverse)
  | _ => none

/-- Whether a path has a given ending, which is in lower case, in any case. -/
def hasEnding (path ending : String) : Bool :=
  ((fileName? path).bind ending?).any fun e => e.toList.map Char.toLower = ending.toList

def join (directory name : String) : String :=
  if directory.isEmpty ∨ directory.endsWith "/" then directory ++ name
  else directory ++ "/" ++ name

end FilePath

/-- What there is under a path that begins at a directory. -/
def FileTree.find? (root : FileTree) (path : String) : Option FileTree :=
  if path.isEmpty ∨ path.startsWith "/" then none else root.follow [] (FilePath.parts path)

/-- Why a file that exists could not be read. -/
inductive ReadFault where
  | isDirectory
  | notText
  deriving DecidableEq, Inhabited, Repr

def ReadFault.message : ReadFault → String
  | .isDirectory => "Is a directory (os error 21)"
  | .notText => "stream did not contain valid UTF-8"

inductive LoadError where
  | unreadable (path : String) (fault : ReadFault)
  | malformed (path : String) (format : Format) (fault : ParseFault)
  deriving DecidableEq, Inhabited, Repr

/-- What was being done when the error arose. -/
def LoadError.context : LoadError → String
  | unreadable path _ => "Failed to read hook config file: " ++ path
  | malformed path .json _ => "Failed to parse hook config file as JSON: " ++ path
  | malformed path .toml _ => "Failed to parse hook config file as TOML: " ++ path

inductive ConfigLoader where
  | file
  | directory
  deriving DecidableEq, Inhabited, Repr

namespace ConfigLoader

/-- The way of loading for what there is under a path. -/
def forTree : Option FileTree → ConfigLoader
  | some (.directory _) => directory
  | _ => file

/-- The format of a file, by its name. -/
def formatOf (path : String) : Format := if FilePath.hasEnding path "json" then .json else .toml

def loadFile (path : String) : Option FileTree → Except LoadError EngineConfig
  | none => .ok {}
  | some (.directory _) => .error (.unreadable path .isDirectory)
  | some .binary => .error (.unreadable path .notText)
  | some (.text content) =>
    match (formatOf path).read EngineConfig.decode content with
    | .ok config => .ok config
    | .error fault => .error (.malformed path (formatOf path) fault)

/-- Whether a file of a directory takes part in its configuration, by its name. -/
def isConfigName (name : String) : Bool :=
  FilePath.hasEnding name "toml" || FilePath.hasEnding name "json"

/-- The files of a directory that take part in its configuration, in ascending order of their
names. -/
def configFiles (entries : List (String × FileTree)) : List (String × FileTree) :=
  (Table.ofList (entries.filter fun e => !e.2.isDirectory && isConfigName e.1)).toList

/-- Loads the files of a directory and merges them. -/
def loadDirectory (path : String) : Option FileTree → Except LoadError EngineConfig
  | some (.directory entries) => do
    let configs ← (configFiles entries).mapM fun e =>
      loadFile (FilePath.join path e.1) (some e.2)
    .ok (EngineConfig.merge configs)
  | _ => .ok {}

def load : ConfigLoader → String → Option FileTree → Except LoadError EngineConfig
  | file => loadFile
  | directory => loadDirectory

end ConfigLoader

end AuctionHooks
