import GracefulDrain.Toml.Document

/-! Files below the root, where a place is given by the names that lead to it. There are no links,
and every file can be read; files of other formats than TOML are read by what the tree says of them.
-/
namespace GracefulDrain

/-- A format of configuration files: how their names end, and what a well-formed text holds. -/
structure FileFormat where
  extension : String
  read : List Char → Option (List (String × Value))

def FileFormat.toml : FileFormat := ⟨"toml", Toml.parse⟩

structure FileTree where
  workingDirectory : List String
  /-- Directories besides those that hold something. -/
  directories : List (List String)
  files : List (List String × String)
  /-- The formats that are known, in the order in which their extensions are tried. -/
  formats : List FileFormat

namespace FileTree

/-- The names in a path, without empty ones and those that stay in place. -/
def namesOf (path : String) : List String :=
  ((Text.splitOn '/' path.toList).map String.ofList).filter fun n => n ≠ "" && n ≠ "."

def isAbsolute (path : String) : Bool := path.toList.head? = some '/'

/-- The names from the root on: a path that does not start there starts at `here`. -/
def namesFrom (here : List String) (path : String) : List String :=
  (if isAbsolute path then [] else here) ++ namesOf path

/-- A step down, or up to the parent; the root is its own parent. -/
def step (here : List String) (name : String) : List String :=
  if name = ".." then here.dropLast else here ++ [name]

/-- The places that names lead through, from `here` on. -/
def trail (here : List String) : List String → List (List String)
  | [] => []
  | name :: rest => here :: trail (step here name) rest

/-- Files of the TOML format, named from a working directory. -/
def below (here : List String) (files : List (String × String)) : FileTree where
  workingDirectory := here
  directories := files.flatMap fun f => trail [] (namesFrom here f.1)
  files := files.map fun f => ((namesFrom here f.1).foldl step [], f.2)
  formats := [.toml]

def ofPaths (files : List (String × String)) : FileTree := below ["srv", "lbdrain"] files

def isDirectory (t : FileTree) (place : List String) : Bool :=
  place.isPrefixOf t.workingDirectory || t.directories.any (place.isPrefixOf ·) ||
    t.files.any fun f => place.isPrefixOf f.1 && place ≠ f.1

/-- The place that the names lead to: each step, also one upwards, leaves a directory. -/
def resolve (t : FileTree) (here : List String) : List String → Option (List String)
  | [] => some here
  | name :: rest => if t.isDirectory here then t.resolve (step here name) rest else none

def text? (t : FileTree) (names : List String) : Option String :=
  (t.resolve [] names).bind fun place => t.files.lookup place

/-- A path that can only mean a directory. -/
def endsAsDirectory (path : String) : Bool :=
  match (Text.splitOn '/' path.toList).getLast? with
  | some n => n = [] || n = ['.']
  | none => true

def join (dir path : String) : String :=
  if isAbsolute path || dir = "" then path
  else if dir.toList.getLast? = some '/' then dir ++ path
  else dir ++ "/" ++ path

/-- The name's part after its last point, if the point is not its first character. -/
def extension? (name : String) : Option String :=
  match (Text.splitOn '.' name.toList).reverse with
  | last :: before :: rest =>
    if before = [] ∧ rest = [] then none else some (String.ofList last)
  | _ => none

/-- The same names with an extension added to the last, if it is a name. -/
def extended? (names : List String) (extension : String) : Option (List String) :=
  match names.getLast? with
  | none | some ".." => none
  | some name => some (names.dropLast ++ [name ++ "." ++ extension])

/-- The text of the file of exactly that name. -/
def exactly? (t : FileTree) (path : String) : Option String :=
  if endsAsDirectory path then none else t.text? (namesFrom t.workingDirectory path)

/-- The configuration file of that name and its format: the file itself, which has to have the
extension of a format, or else the first that there is with an extension added. -/
def configFile? (t : FileTree) (path : String) : Option (FileFormat × String) :=
  let names := namesFrom t.workingDirectory path
  match t.exactly? path with
  | some text =>
    (t.formats.find? fun f => names.getLast?.bind extension? = some f.extension).map (·, text)
  | none =>
    t.formats.findSome? fun f => ((extended? names f.extension).bind t.text?).map (f, ·)

end FileTree

end GracefulDrain
