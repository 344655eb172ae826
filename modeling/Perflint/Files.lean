import Perflint.Text.Basic

namespace Perflint

abbrev Place := List String

inductive Entry where
  | file (bytes : List UInt8)
  | directory
  deriving Inhabited

inductive PathFault where
  | missing
  | notDirectory
  | isDirectory

def PathFault.text : PathFault → String
  | .missing => "No such file or directory"
  | .notDirectory => "Not a directory"
  | .isDirectory => "Is a directory"

structure Files where
  base : Place
  entries : List (Place × Entry) := []

namespace Place

def text (place : Place) : String :=
  "/" ++ Text.joined "/" place

def parent (place : Place) : Place :=
  place.dropLast

end Place

namespace Files

def isAbsolute (path : String) : Bool :=
  Text.startsWith path "/"

def step (place : Place) (name : String) : Place :=
  if name == "" || name == "." then place
  else if name == ".." then place.parent
  else place ++ [name]

def resolve (files : Files) (path : String) : Place :=
  (Text.pieces '/' path).foldl step (if isAbsolute path then [] else files.base)

-- The slashes before a path. Two have a meaning of their own, and more are as one.
def root (path : String) : String :=
  if Text.startsWith path "//" && !Text.startsWith path "///" then "//" else "/"

def tidy (path : String) : String :=
  let names := (Text.pieces '/' path).filter fun name => name != "" && name != "."
  if isAbsolute path then root path ++ Text.joined "/" names
  else if names.isEmpty then "."
  else Text.joined "/" names

def entry? (files : Files) (place : Place) : Option Entry :=
  match files.entries.lookup place with
  | some entry => some entry
  | none =>
    if place.isPrefixOf files.base || files.entries.any (fun (other, _) => place.isPrefixOf other) then some .directory
    else none

def isFile (files : Files) (place : Place) : Bool :=
  match files.entry? place with
  | some (.file _) => true
  | _ => false

-- Every name of a path is looked up in a directory, and so is an empty one after a last slash.
def walk (files : Files) (place : Place) : List String → Except PathFault Entry
  | [] =>
    match files.entry? place with
    | some entry => .ok entry
    | none => .error .missing
  | name :: rest =>
    match files.entry? place with
    | some .directory => walk files (step place name) rest
    | some (.file _) => .error .notDirectory
    | none => .error .missing

def look (files : Files) (path : String) : Except PathFault Entry :=
  if path.isEmpty then .error .missing
  else walk files (if isAbsolute path then [] else files.base) (Text.pieces '/' path)

def read (files : Files) (path : String) : Except PathFault (List UInt8) := do
  match ← files.look path with
  | .file bytes => .ok bytes
  | .directory => .error .isDirectory

def holdsFile (files : Files) (path : String) : Bool :=
  match files.read path with
  | .ok _ => true
  | .error _ => false

end Files
end Perflint
