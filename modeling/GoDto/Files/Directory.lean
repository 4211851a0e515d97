import GoDto.Files.Access

/-!
A directory tree held in memory, and access to its files by relative paths. Nothing outside the
tree is known: a path that leads out of it is not found.
-/

namespace GoDto

inductive Entry where
  | file (content : ByteArray)
  | folder

/-- What there is under each path from the top, which is a folder itself. -/
structure Directory where
  entries : List (List String × Entry)

namespace Directory

def entry? (directory : Directory) (place : List String) : Option Entry :=
  if place = [] then some .folder else directory.entries.lookup place

/-- What there is under a path from the top. A name that is too long is refused before it is
found missing. -/
def look (directory : Directory) (place : List String) : Except FileError Entry :=
  if place.getLast?.any (nameLimit < ·.utf8ByteSize) then .error .nameTooLong
  else
    match directory.entry? place with
    | some entry => .ok entry
    | none => .error .notFound

/-- The list with `entry` under `place`, in the position of what was there or at the end. -/
def insert (place : List String) (entry : Entry) :
    List (List String × Entry) → List (List String × Entry)
  | [] => [(place, entry)]
  | (other, old) :: rest =>
    if other = place then (place, entry) :: rest else (other, old) :: insert place entry rest

def put (directory : Directory) (place : List String) (entry : Entry) : Directory :=
  ⟨insert place entry directory.entries⟩

/-- The stretches of a path between its slashes. -/
def split : List Char → List (List Char)
  | [] => [[]]
  | c :: rest =>
    if c = '/' then [] :: split rest
    else
      match split rest with
      | [] => [[c]]
      | first :: later => (c :: first) :: later

/-- The place reached from `here` by going on step by step. Each step needs a folder to start
from, but the last one need not lead to anything. -/
def walk (directory : Directory) (here : List String) : List String → Except FileError (List String)
  | [] => .ok here
  | step :: rest =>
    match directory.look here with
    | .error error => .error error
    | .ok (.file _) => .error .notADirectory
    | .ok .folder =>
      if step = "." then walk directory here rest
      else if step = ".." then
        if here = [] then .error .notFound else walk directory here.dropLast rest
      else walk directory (here ++ [step]) rest

/-- The place that a path leads to. An empty path leads nowhere, and one from the root leads out of
the tree. -/
def resolve (directory : Directory) (path : String) : Except FileError (List String) :=
  match pathFault? path with
  | some fault => .error fault
  | none =>
    match path.toList with
    | [] => .error .notFound
    | '/' :: _ => .error .notFound
    | chars =>
      directory.walk [] (((split chars).filter (· ≠ [])).map String.ofList)

/-- Whether a path ends in a slash, as only the path of a folder may. -/
def namesFolder (path : String) : Bool := path.toList.getLast? = some '/'

def read (directory : Directory) (path : String) : Except FileError String := do
  let place ← directory.resolve path
  match ← directory.look place with
  | .folder => .error .isADirectory
  | .file content =>
    if namesFolder path then .error .notADirectory
    else
      match String.fromUTF8? content with
      | some text => .ok text
      | none => .error .notText

/-- The directory after the file under `path` has been made or emptied and filled with `text`. The
folder that it stands in is there already, or the path would lead nowhere. A path that ends in a
slash is refused before its last name is looked at. -/
def replace (directory : Directory) (path text : String) : Except FileError Directory := do
  let place ← directory.resolve path
  if namesFolder path then .error .isADirectory
  else
    match directory.look place with
    | .ok .folder => .error .isADirectory
    | .ok (.file _) | .error .notFound => .ok (directory.put place (.file text.toUTF8))
    | .error error => .error error

/-- Files in a directory that is the state of the computation. A failure leaves it as it was. -/
def access : FileAccess (StateM Directory) where
  read path := do return (← get).read path
  replace path text := do
    match (← get).replace path text with
    | .ok directory => do
      set directory
      return .ok ()
    | .error error => return .error error

end Directory

end GoDto
