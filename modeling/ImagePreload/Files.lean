import ImagePreload.ErrorKind
import ImagePreload.Text.Lines
import ImagePreload.Text.Quoted
import ImagePreload.Text.Search
import ImagePreload.Text.Utf8

/-!
# Files

A tree of files, as far as programs look at it. A path is followed component by component from the
root, or from the working directory if it does not start with a slash; every component but the last
has to be a directory.
-/

namespace ImagePreload

inductive FileNode where
  | file (data : List UInt8)
  | directory (entries : List (String × FileNode))

instance : Inhabited FileNode := ⟨.directory []⟩

namespace FileNode

/-- Replaces or adds what is under a name. -/
def setEntry (name : String) (node : FileNode) :
    List (String × FileNode) → List (String × FileNode)
  | [] => [(name, node)]
  | (n, old) :: rest => if n == name then (n, node) :: rest else (n, old) :: setEntry name node rest

/-- Puts a node at the end of a way through directories, which are made where there are none. -/
def insert (node : FileNode) : List String → FileNode → FileNode
  | [], _ => node
  | name :: names, around =>
    let entries :=
      match around with
      | .directory entries => entries
      | .file _ => []
    .directory (setEntry name
      (insert node names ((entries.lookup name).getD (.directory []))) entries)

end FileNode

/-- Why a file cannot be opened. -/
inductive FileError where
  | missing
  | notDirectory
  | isDirectory
  | nameTooLong
  /-- A path with a null character in it. -/
  | nullCharacter
  deriving DecidableEq, Repr

namespace FileError

def kind : FileError → ErrorKind
  | .missing => .fileNotFound
  | .notDirectory => .other "NotADirectoryError"
  | .isDirectory => .other "IsADirectoryError"
  | .nameTooLong => .other "OSError"
  | .nullCharacter => .value

/-- Whether the failure is one of the system and not of the path itself. -/
def isSystem (e : FileError) : Bool := e != .nullCharacter

def message (path : String) : FileError → String
  | .missing => "[Errno 2] No such file or directory: " ++ Text.quoted path
  | .notDirectory => "[Errno 20] Not a directory: " ++ Text.quoted path
  | .isDirectory => "[Errno 21] Is a directory: " ++ Text.quoted path
  | .nameTooLong => "[Errno 36] File name too long: " ++ Text.quoted path
  | .nullCharacter => "embedded null byte"

end FileError

/-- A tree of files and a working directory in it. -/
structure Files where
  root : FileNode
  workDirectory : String

namespace Files

/-- The most bytes a component and a path may have. -/
def nameLimit : Nat := 255

def pathLimit : Nat := 4095

def isAbsolute (path : String) : Bool := path.startsWith "/"

/-- The components of a path, empty ones included. -/
def components (path : String) : List String :=
  (Text.splitOn ['/'] none path.toList).map String.ofList

/-- Follows components from a directory, the first of the given ones; those around it come behind.
-/
private def followFrom : List FileNode → List String → Except FileError FileNode
  | [], _ => .error .missing
  | node :: _, [] => .ok node
  | node :: around, name :: rest =>
    match node with
    | .file _ => .error .notDirectory
    | .directory entries =>
      if name.isEmpty || name == "." then followFrom (node :: around) rest
      else if name == ".." then
        followFrom (if around.isEmpty then [node] else around) rest
      else if name.utf8ByteSize > nameLimit then .error .nameTooLong
      else
        match entries.lookup name with
        | some inner => followFrom (inner :: node :: around) rest
        | none => .error .missing

/-- The path in full, not simplified. -/
def fullPath (f : Files) (path : String) : String :=
  if isAbsolute path then path else f.workDirectory ++ "/" ++ path

/-- A tree with files and directories at given paths. -/
def ofList (workDirectory : String) (nodes : List (String × FileNode)) : Files :=
  let empty : Files := ⟨.directory [], workDirectory⟩
  let way (path : String) := (components (empty.fullPath path)).filter (!·.isEmpty)
  let start := FileNode.insert (.directory []) (way workDirectory) (.directory [])
  ⟨nodes.foldl (fun root (path, node) => FileNode.insert node (way path) root) start,
    workDirectory⟩

/-- The file or directory at a path. -/
def find (f : Files) (path : String) : Except FileError FileNode :=
  if path.toList.contains '\x00' then .error .nullCharacter
  else if path.isEmpty then .error .missing
  else if path.utf8ByteSize > pathLimit then .error .nameTooLong
  else followFrom [f.root] (components (f.fullPath path))

/-- The bytes of a file. -/
def read (f : Files) (path : String) : Except FileError (List UInt8) :=
  match f.find path with
  | .ok (.file data) => .ok data
  | .ok (.directory _) => .error .isDirectory
  | .error e => .error e

def isFile (f : Files) (path : String) : Bool :=
  match f.find path with
  | .ok (.file _) => true
  | _ => false

/-- A path put behind a directory, unless it is in full already. -/
def join (directory path : String) : String :=
  if isAbsolute path then path
  else if directory.isEmpty || directory.endsWith "/" then directory ++ path
  else directory ++ "/" ++ path

/-- Components without empty ones, points, and what double points take back. -/
private def simplify (done : List String) : List String → List String
  | [] => done.reverse
  | name :: rest =>
    if name.isEmpty || name == "." then simplify done rest
    else if name == ".." then simplify (done.drop 1) rest
    else simplify (name :: done) rest

/-- The simplified full path. -/
def absolutePath (f : Files) (path : String) : String :=
  let full := f.fullPath path
  let front := if full.startsWith "//" && !full.startsWith "///" then "//" else "/"
  front ++ "/".intercalate (simplify [] (components full))

/-- The path of the directory that a simplified full path is in. -/
def parent (path : String) : String :=
  match Text.breakAtLast? ['/'] path.toList with
  | none => ""
  | some (front, _) =>
    if front.all (· == '/') then .ofList (front ++ ['/'])
    else .ofList front

/-- Whether a file can be written at a path, which is simplified first. -/
def isWritable (f : Files) (path : String) : Bool :=
  let path := f.absolutePath path
  match f.find path with
  | .ok (.file _) => true
  | .ok (.directory _) => false
  | .error .missing =>
    match f.find (parent path) with
    | .ok (.directory _) => true
    | _ => false
  | .error _ => false

/-- A path whose tilde stands for the home directory. -/
def expandHome (home : String) (path : String) : String :=
  if path == "~" || path.startsWith "~/" then
    let home := String.ofList ((home.toList.reverse.dropWhile (· == '/')).reverse)
    let expanded := home ++ (path.drop 1).toString
    if expanded.isEmpty then "/" else expanded
  else path

end Files

/-- Why the text of a file cannot be had. -/
inductive ReadError where
  | file (path : String) (e : FileError)
  | encoding (e : Text.Utf8Error)

namespace ReadError

def kind : ReadError → ErrorKind
  | .file _ e => e.kind
  | .encoding _ => .unicodeDecode

def message : ReadError → String
  | .file path e => e.message path
  | .encoding e => e.message

end ReadError

/-- The text of a file, with every end of a line a line feed. -/
def Files.readText (f : Files) (path : String) : Except ReadError String := do
  let data ← (f.read path).mapError (.file path)
  let text ← (Text.decodeUtf8 data).mapError .encoding
  return .ofList (Text.unifyLineEnds text.toList)

end ImagePreload
