import SchemaSeed.Assoc
import SchemaSeed.Content
import SchemaSeed.Text.Split

/-!
# Trees of files

The files and directories of a system, and the directory that the program works in. Paths are
texts; they are followed name by name, from the root if they begin with a slash and from the
working directory if not, and each name on the way must be a directory. There are no links, and
nothing is forbidden.
-/

namespace SchemaSeed.Files

inductive Fault where
  | notFound
  | exists
  | notDirectory
  | isDirectory
  | notText
  /-- A path with the character that ends it for the operating system. -/
  | badPath
  deriving DecidableEq, Repr

def Fault.text : Fault → String
  | .notFound => "No such file or directory (os error 2)"
  | .exists => "File exists (os error 17)"
  | .notDirectory => "Not a directory (os error 20)"
  | .isDirectory => "Is a directory (os error 21)"
  | .notText => "stream did not contain valid UTF-8"
  | .badPath => "file name contained an unexpected NUL byte"

inductive Entry where
  | file (content : Content)
  | directory
  deriving DecidableEq, Repr, Inhabited

/-- The entries below the root, by the names that lead to them, and the place of the working
directory. -/
structure Tree where
  entries : List (List String × Entry)
  workingDirectory : List String
  deriving Repr, Inhabited

/-- The names in a path; those before, between and after slashes may be empty. -/
def names (path : String) : List String := (Text.split '/' path.toList).map String.ofList

/-- The path does not depend on the working directory. -/
def isAbsolute (path : String) : Bool := path.toList.head? = some '/'

namespace Tree

def bare (workingDirectory : List String) : Tree := ⟨[], workingDirectory⟩

/-- The entry at a place. The root is at the empty list. It is always there, and so are the
working directory and those that it is in. -/
def entry? (t : Tree) (place : List String) : Option Entry :=
  if place.isPrefixOf t.workingDirectory then some .directory else Assoc.find? t.entries place

def isDirectory (t : Tree) (place : List String) : Bool := t.entry? place = some .directory

def put (t : Tree) (place : List String) (e : Entry) : Tree :=
  { t with entries := Assoc.insert t.entries place e }

/-- The place that names lead to from a place. Nothing needs to be there, but all that comes
before must be a directory. -/
def walk (t : Tree) (place : List String) : List String → Except Fault (List String)
  | [] => .ok place
  | name :: rest =>
    match t.entry? place with
    | none => .error .notFound
    | some (.file _) => .error .notDirectory
    | some .directory =>
      if name = "" ∨ name = "." then walk t place rest
      -- Above the root is the root itself.
      else if name = ".." then walk t place.dropLast rest
      else walk t (place ++ [name]) rest

def start (t : Tree) (path : String) : List String :=
  if isAbsolute path then [] else t.workingDirectory

def resolve (t : Tree) (path : String) : Except Fault (List String) :=
  if path.toList.contains '\x00' then .error .badPath
  else if path.isEmpty then .error .notFound
  else t.walk (t.start path) (names path)

def exists? (t : Tree) (path : String) : Bool :=
  match t.resolve path with
  | .ok place => (t.entry? place).isSome
  | .error _ => false

def readText (t : Tree) (path : String) : Except Fault String := do
  match t.entry? (← t.resolve path) with
  | none => .error .notFound
  | some .directory => .error .isDirectory
  | some (.file content) =>
    match content.text? with
    | some text => .ok text
    | none => .error .notText

/-- The place of a file that may be created: its directory must be there, it must not be a
directory itself, and its path must not end in a slash. -/
def fileToCreate (t : Tree) (path : String) : Except Fault (List String) :=
  let name := String.ofList (path.toList.reverse.dropWhile (· = '/')).reverse
  do
    -- Of the root's path nothing would be left.
    let place ← t.resolve (if name.isEmpty then path else name)
    if name ≠ path ∨ t.isDirectory place then .error .isDirectory else .ok place

def write (t : Tree) (path : String) (content : Content) : Except Fault Tree := do
  return t.put (← t.fileToCreate path) (.file content)

def openForAppending (t : Tree) (path : String) : Except Fault Tree := do
  let place ← t.fileToCreate path
  if (t.entry? place).isSome then .ok t else .ok (t.put place (.file .empty))

/-- Creates a directory, followed to from `place`, inside one that is there. -/
def createDirectory (t : Tree) (place path : List String) : Except Fault Tree := do
  let place ← t.walk place path
  if (t.entry? place).isSome then .error .exists else .ok (t.put place .directory)

/-- Creates a directory, whose names are given from the last one on, and those it is in.
It may be there already. -/
def createDirectories (t : Tree) (place : List String) : List String → Except Fault Tree
  | [] => .ok t
  | name :: parents =>
    let path := (name :: parents).reverse
    let tolerant (t : Tree) (f : Fault) : Except Fault Tree :=
      match t.walk place path with
      | .ok place => if t.isDirectory place then .ok t else .error f
      | .error _ => .error f
    match t.createDirectory place path with
    | .ok t => .ok t
    | .error .notFound => do
      let t ← createDirectories t place parents
      match t.createDirectory place path with
      | .ok t => .ok t
      | .error f => tolerant t f
    | .error f => tolerant t f

/-- Creates the directory that a file with this path would be in. -/
def createParent (t : Tree) (path : String) : Except Fault Tree :=
  match names path with
  | [] => .ok t
  | first :: rest =>
    -- Empty names and dots count for nothing, except for a dot in front.
    let all := (if first = "" then [] else [first]) ++ rest.filter fun n => n ≠ "" ∧ n ≠ "."
    let parents := all.reverse.tail
    if parents.any (·.toList.contains '\x00') then .error .badPath
    else t.createDirectories (t.start path) parents

/-- The tree that holds the files with the given paths, in and around a working directory. -/
def ofFiles (files : List (String × Content)) : Tree :=
  files.foldl (fun t (path, content) =>
    let place := t.start path ++ (names path).filter fun n => n ≠ "" ∧ n ≠ "."
    let parents := (List.range place.length).map fun n => place.take n
    let t := parents.foldl
      (fun t p => if (t.entry? p).isSome then t else t.put p .directory) t
    t.put place (.file content)) (bare ["work"])

/-- A path that leads to a place below the root: from the working directory if it is above. -/
def pathTo (t : Tree) (place : List String) : String :=
  if t.workingDirectory.isPrefixOf place then
    "/".intercalate (place.drop t.workingDirectory.length)
  else "/" ++ "/".intercalate place

def files (t : Tree) : List (String × Content) :=
  t.entries.filterMap fun (place, e) =>
    match e with
    | .file content => some (t.pathTo place, content)
    | .directory => none

end Tree

end SchemaSeed.Files
