import RouteBindings.CommandLine.Run

namespace RouteBindings.Disk

/-- The faults that a tree of files knows have the codes of the operating system, which come with
either sign. -/
def faultOfCode (signedCode : UInt32) (details : String) : FileFault :=
  let code := if signedCode < 0x80000000 then signedCode else 0 - signedCode
  if code = 2 then .notFound
  else if code = 17 then .exists
  else if code = 20 then .notDirectory
  else if code = 21 then .isDirectory
  else if code = 36 then .nameTooLong
  else .other (details ++ " (os error " ++ toString code ++ ")")

def faultOf : IO.Error → FileFault
  | .noFileOrDirectory _ code details => faultOfCode code details
  | .alreadyExists _ code details => faultOfCode code details
  | .inappropriateType _ code details => faultOfCode code details
  | .invalidArgument _ code details => faultOfCode code details
  | .permissionDenied _ code details => faultOfCode code details
  | error => .other (toString error)

def isPresent (path : String) : IO Bool := do
  if path = "" then return false
  ((← IO.currentDir) / path).pathExists

def isDirectory (path : String) : IO Bool := do
  if path = "" then return false
  ((← IO.currentDir) / path).isDir

def names (path : String) : IO (List String) := do
  try
    let entries ← ((← IO.currentDir) / path).readDir
    return (entries.map (·.fileName)).toList
  catch _ => return []

def read (path : String) : IO (Except FileFault String) := do
  if path = "" then return .error .notFound
  if ← isDirectory path then return .error .isDirectory
  try
    let bytes ← IO.FS.readBinFile path
    match String.fromUTF8? bytes with
    | some text => return .ok text
    | none => return .error .notText
  catch error => return .error (faultOf error)

/-- A path of the disk has at most as many names as bytes. -/
def view : FileView IO where
  isPresent := isPresent
  isDirectory := isDirectory
  names := names
  read := read
  depth := FileTree.pathLimit

partial def makeDirectories (path : String) : IO Unit := do
  try IO.FS.createDir path
  catch error =>
    if faultOf error = .notFound then
      match Path.parent? path with
      | none => throw error
      | some "" => throw error
      | some parent =>
        makeDirectories parent
        unless ← isDirectory path do IO.FS.createDir path
    else unless ← isDirectory path do throw error

def makeParent (path : String) : IO (Except Failure Unit) := do
  match Path.parent? path with
  | none => return .ok ()
  | some "" => return .ok ()
  | some parent =>
    try
      makeDirectories parent
      return .ok ()
    catch error => return .error (.notMade parent (faultOf error))

def save (path text : String) : IO (Except Failure Unit) := do
  match ← makeParent path with
  | .error failure => return .error failure
  | .ok () =>
    if ← isDirectory path then return .error (.notWritten path .isDirectory)
    try
      IO.FS.writeFile path text
      return .ok ()
    catch error => return .error (.notWritten path (faultOf error))

end RouteBindings.Disk

open RouteBindings in
def main (arguments : List String) : IO UInt32 := do
  -- log lines are left to whoever embeds the program
  let plan ← Plan.ofArguments Disk.view .silent (fun _ => "") arguments
  let run ← plan.carryOut Disk.save
  IO.eprint run.err
  IO.print run.out
  return run.code.number.toUInt32
