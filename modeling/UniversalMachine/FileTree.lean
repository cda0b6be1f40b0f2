/-! Files and directories named by paths, and what goes wrong when a file is read. -/
namespace UniversalMachine

inductive FileError where
  | notFound
  | notDirectory
  | isDirectory
  | nameTooLong
  | nulInName
  | other (text : String)
  deriving DecidableEq, Repr

def FileError.text : FileError → String
  | .notFound => "No such file or directory (os error 2)"
  | .notDirectory => "Not a directory (os error 20)"
  | .isDirectory => "Is a directory (os error 21)"
  | .nameTooLong => "File name too long (os error 36)"
  | .nulInName => "file name contained an unexpected NUL byte"
  | .other text => text

/-- Whether the path names nothing at all. -/
def FileError.isAbsence : FileError → Bool
  | .notFound | .notDirectory | .nameTooLong | .nulInName => true
  | _ => false

/-- What a path can name. -/
inductive FileTree.Node where
  | directory
  | file (data : List UInt8)
  deriving DecidableEq, Repr

/-- The files and directories that were made, by place. A place is the names that lead there from
the root. -/
structure FileTree where
  entries : List (List String × FileTree.Node) := []
  /-- What the standard input holds, which is a file like others. -/
  standardInput : List UInt8 := []
  deriving Repr

namespace FileTree

/-- The most bytes that a name on a path may have. -/
def nameLimit : Nat := 255

/-- The most bytes that a whole path may have. -/
def pathLimit : Nat := 4095

/-- The steps that a path is made of. -/
def steps (path : String) : List String := path.splitOn "/"

/-- A path as seen from a directory. A path from the root is the same from everywhere. -/
def join (directory path : String) : String :=
  if path.startsWith "/" then path else directory ++ "/" ++ path

/-- Where paths start that do not start at the root. No path can spell its last name, so it cannot
be entered from above. -/
def workingDirectory : List String := ["tmp",""]

/-- The place where a path starts. -/
def origin (path : String) : List String := if path.startsWith "/" then [] else workingDirectory

/-- The place that a step leads to. An empty step stays where it is, and so does a step up from the
root. -/
def follow (place : List String) (step : String) : List String :=
  if step = "" || step = "." then place
  else if step = ".." then place.dropLast
  else place ++ [step]

/-- The places that steps pass through, the last one included. -/
def passed (place : List String) : List String → List (List String)
  | [] => []
  | step :: steps => follow place step :: passed (follow place step) steps

/-- Makes every place that the steps pass through a directory. -/
def makeDirectories (tree : FileTree) (place steps : List String) : FileTree :=
  { tree with entries := tree.entries ++ (passed place steps).map fun place => (place, .directory) }

def addDirectory (tree : FileTree) (path : String) : FileTree :=
  tree.makeDirectories (origin path) (steps path)

/-- Puts a file at the end of a path, and directories on the way. -/
def addFile (tree : FileTree) (path : String) (data : List UInt8) : FileTree :=
  let tree := tree.makeDirectories (origin path) (steps path).dropLast
  { tree with entries := ((steps path).foldl follow (origin path), .file data) :: tree.entries }

/-- The place of the standard input. -/
def inputPlace : List String := ["dev","stdin"]

/-- What every system has below its root: the usual directories, the null device, which holds
nothing, and the standard input. -/
def system (standardInput : List UInt8) : List (List String × Node) :=
  (["dev","null"], .file []) :: (inputPlace, .file standardInput) ::
    ["bin","dev","etc","home","lib","proc","root","sys","tmp","usr","var"].map fun name =>
      ([name], .directory)

/-- What is at a place. The working directory and those above it always exist. -/
def node? (tree : FileTree) (place : List String) : Option Node :=
  if place.isPrefixOf workingDirectory then some .directory
  else (tree.entries ++ system tree.standardInput).lookup place

/-- Follows steps. Each one starts from a directory and looks there for a name that is not too
long. -/
def walk (tree : FileTree) (place : List String) : List String → Except FileError Node
  | [] =>
    match tree.node? place with
    | some node => .ok node
    | none => .error .notFound
  | step :: steps =>
    match tree.node? place with
    | none => .error .notFound
    | some (.file _) => .error .notDirectory
    | some .directory =>
      if nameLimit < step.utf8ByteSize then .error .nameTooLong
      else tree.walk (follow place step) steps

/-- What a path names. -/
def locate (tree : FileTree) (path : String) : Except FileError Node :=
  if path.contains '\x00' then .error .nulInName
  else if path.isEmpty then .error .notFound
  else if pathLimit < path.utf8ByteSize then .error .nameTooLong
  else tree.walk (origin path) (steps path)

/-- The contents of a file. -/
def read (tree : FileTree) (path : String) : Except FileError (List UInt8) :=
  match tree.locate path with
  | .error error => .error error
  | .ok .directory => .error .isDirectory
  | .ok (.file data) => .ok data

/-- What is left of the standard input when a path was read. -/
def inputBehind (tree : FileTree) (path : String) : List UInt8 :=
  if (steps path).foldl follow (origin path) = inputPlace then [] else tree.standardInput

/-- The last name on a path, unless the path ends by going up. -/
def lastName? (path : String) : Option String :=
  match ((steps path).filter fun step => step != "" && step != ".").getLast? with
  | some ".." | none => none
  | some name => some name

example : passed [] ["a","..","b"] = [["a"],[],["b"]] := rfl
example : follow [] ".." = [] := rfl
example : walk { entries := [(["d","p"], .file [1]),(["d"], .directory)] } [] ["d","..","d","p"] =
    .ok (.file [1]) := rfl
example : walk { entries := [(["d"], .directory)] } [] ["d","","."] = .ok .directory := rfl
example : walk { entries := [(["p"], .file [1])] } [] ["p",""] = .error .notDirectory := rfl
example : walk {} workingDirectory ["x",".."] = .error .notFound := rfl
example : walk {} workingDirectory ["..","..","..","dev","null"] = .ok (.file []) := rfl
example : walk { standardInput := [1] } [] ["dev","stdin"] = .ok (.file [1]) := rfl

end FileTree
end UniversalMachine
