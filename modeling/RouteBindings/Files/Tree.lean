import RouteBindings.Files.Fault
import RouteBindings.Files.Path
import RouteBindings.Table

namespace RouteBindings

/-- A file whose bytes are no text has no content here. -/
inductive Entry where
  | file (content : Option String)
  | directory (entries : List (String × Entry))

namespace Entry

def isDirectory : Entry → Bool
  | file _ => false
  | directory _ => true

def child? (name : String) : Entry → Option Entry
  | file _ => none
  | directory entries => Table.find? name entries

def at? (entry : Entry) : List String → Option Entry
  | [] => some entry
  | name :: rest => (entry.child? name).bind (·.at? rest)

def put (new : Entry) : List String → Entry → Entry
  | [], _ => new
  | name :: rest, directory entries =>
    directory (Table.putRow name
      (put new rest ((Table.find? name entries).getD (directory []))) entries)
  | _ :: _, file content => file content

def names : Entry → List String
  | file _ => []
  | directory entries => entries.map Prod.fst

mutual
def files : Entry → List (List String × Option String)
  | file content => [([], content)]
  | directory entries => filesOf entries

def filesOf : List (String × Entry) → List (List String × Option String)
  | [] => []
  | (name, entry) :: rest =>
    entry.files.map (fun (location, content) => (name :: location, content)) ++ filesOf rest
end

mutual
def depth : Entry → Nat
  | file _ => 0
  | directory entries => depthOf entries

def depthOf : List (String × Entry) → Nat
  | [] => 0
  | (_, entry) :: rest => Nat.max (entry.depth + 1) (depthOf rest)
end

end Entry

structure FileTree where
  root : Entry
  workingDirectory : List String

namespace FileTree

def nameLimit : Nat := 255

/-- The most bytes that a path may have, and one more. -/
def pathLimit : Nat := 4096

def checkPath (path : String) : Except FileFault Unit :=
  if path.toList.contains (Char.ofNat 0) then .error .nulInName
  else if path = "" then .error .notFound
  else if pathLimit ≤ path.utf8ByteSize then .error .nameTooLong
  else .ok ()

def start (t : FileTree) (path : String) : List String :=
  if Path.isAbsolute path then [] else t.workingDirectory

/-- The location that steps lead to from a location. Every step starts in a directory. -/
def walk (t : FileTree) (location : List String) : List Path.Step → Except FileFault (List String)
  | [] => .ok location
  | step :: rest =>
    match t.root.at? location with
    | some (.directory entries) =>
      match step with
      | .stay => t.walk location rest
      | .up => t.walk location.dropLast rest
      | .into name =>
        if nameLimit < name.utf8ByteSize then .error .nameTooLong
        else if (Table.find? name entries).isSome then t.walk (location ++ [name]) rest
        else .error .notFound
    | some (.file _) => .error .notDirectory
    | none => .error .notFound

def locate (t : FileTree) (path : String) : Except FileFault (List String) := do
  checkPath path
  t.walk (t.start path) (Path.steps path)

def find (t : FileTree) (path : String) : Except FileFault Entry := do
  let location ← t.locate path
  match t.root.at? location with
  | some entry => .ok entry
  | none => .error .notFound

def read (t : FileTree) (path : String) : Except FileFault String := do
  match ← t.find path with
  | .file (some text) => .ok text
  | .file none => .error .notText
  | .directory _ => .error .isDirectory

/-- Makes the directories that steps lead through from a location. As long as all of them are there,
the path is one question, and a file on the way is no directory to go through. Once a directory had
to be made, every step after it is made on its own, and a file stands where a directory should be. -/
def makeAlong (t : FileTree) (made : Bool) (location : List String) :
    List Path.Step → Except FileFault FileTree
  | [] => .ok t
  | step :: rest =>
    match t.root.at? location with
    | some (.directory entries) =>
      match step with
      | .stay => t.makeAlong made location rest
      | .up => t.makeAlong made location.dropLast rest
      | .into name =>
        if nameLimit < name.utf8ByteSize then .error .nameTooLong
        else
          let next := location ++ [name]
          match Table.find? name entries with
          | some (.directory _) => t.makeAlong made next rest
          | some (.file _) => .error (if made || rest = [] then .exists else .notDirectory)
          | none =>
            { t with root := Entry.put (.directory []) next t.root }.makeAlong true next rest
    | _ => .error .notDirectory

def makeDirectories (t : FileTree) (path : String) : Except FileFault FileTree :=
  if path = "" then .ok t
  else do
    checkPath path
    t.makeAlong false (t.start path) (Path.steps path)

/-- Writes a file, over what it held before. Only the file itself is made, and no directory. A path
that ends in a slash or in points asks for a directory, which is never written. -/
def write (t : FileTree) (path text : String) : Except FileFault FileTree := do
  checkPath path
  let trailing := (Path.segments path.toList).reverse
  match trailing.dropWhile List.isEmpty with
  | [] => .error .isDirectory
  | last :: before =>
    let location ← t.walk (t.start path) (before.reverse.map Path.stepOf)
    match t.root.at? location, Path.stepOf last with
    | some (.directory entries), .into name =>
      if trailing.head? = some [] then .error .isDirectory
      else if nameLimit < name.utf8ByteSize then .error .nameTooLong
      else if ((Table.find? name entries).map Entry.isDirectory).getD false then
        .error .isDirectory
      else .ok { t with root := Entry.put (.file (some text)) (location ++ [name]) t.root }
    | some (.directory _), _ => .error .isDirectory
    | _, _ => .error .notDirectory

def workingFiles (t : FileTree) : List (List String × Option String) :=
  ((t.root.at? t.workingDirectory).map Entry.files).getD []

end FileTree

end RouteBindings
