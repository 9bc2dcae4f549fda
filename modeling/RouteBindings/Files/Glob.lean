import RouteBindings.Files.View
import RouteBindings.Files.Wildcard
import RouteBindings.Text.Order

/-!
Globs: wildcard patterns over whole paths. The paths of a glob come directory by directory, the
names of each in order, and every directory before what lies in it.
-/

namespace RouteBindings

/-- One segment of a glob. A plain name needs no look into the directory. -/
inductive GlobSegment where
  | name (s : String)
  | directories
  | wildcards (ws : List Wildcard)

structure Glob where
  isAbsolute : Bool
  segments : List GlobSegment
  /-- A glob that ends in a slash only matches directories. -/
  directoriesOnly : Bool

namespace GlobSegment

def plainChars? : List Wildcard → Option (List Char)
  | [] => some []
  | .char c :: rest => (plainChars? rest).map (c :: ·)
  | _ :: _ => none

def ofWildcards (ws : List Wildcard) : GlobSegment :=
  match plainChars? ws with
  | some cs => name (String.ofList cs)
  | none => if ws = [.directories] then directories else wildcards ws

def admits (s : String) : GlobSegment → Bool
  | name t => s = t
  | directories => false
  | wildcards ws => Wildcard.allMatch ws s.toList

def isDirectories : GlobSegment → Bool
  | directories => true
  | _ => false

/-- The directory itself and the one above it only match a segment that starts with a point. -/
def admitsDots (dots : String) : GlobSegment → Bool
  | wildcards (.char '.' :: ws) => Wildcard.allMatch (.char '.' :: ws) dots.toList
  | _ => false

end GlobSegment

namespace Glob

def segmentTexts (cs : List Char) : List (List Char) :=
  let all := Path.segments cs
  if all.getLast? = some [] then all.dropLast else all

def parse (pattern : String) : Except WildcardFault Glob := do
  let cs := pattern.toList
  let _ ← Wildcard.scan cs
  let isAbsolute := Path.isAbsolute pattern
  let texts := segmentTexts (if isAbsolute then cs.drop 1 else cs)
  let segments ← texts.mapM fun text => (Wildcard.scan text).map GlobSegment.ofWildcards
  return ⟨isAbsolute, segments, cs.getLast? = some '/'⟩

variable {m : Type → Type} [Monad m]

def below (directory name : String) : String :=
  if Path.isHere directory then name else Path.join directory name

abbrev Onward (m : Type → Type) := List GlobSegment → String → m (List String)

def arrive (view : FileView m) (directoriesOnly : Bool) (onward : Onward m)
    (segments : List GlobSegment) (path : String) : m (List String) :=
  match segments with
  | [] => do
    if directoriesOnly then
      if ← view.isDirectory path then return [path] else return []
    else return [path]
  | segments => onward segments path

def visit (view : FileView m) (directoriesOnly : Bool) (onward : Onward m)
    (segments : List GlobSegment) (name path : String) : m (List String) := do
  match segments.dropWhile GlobSegment.isDirectories with
  | [] =>
    if ← view.isDirectory path then
      let inside ← onward [.directories] path
      return path :: inside
    else return []
  | segment :: rest =>
    let here ←
      if segment.admits name then arrive view directoriesOnly onward rest path else pure []
    if (segments.head?.map GlobSegment.isDirectories).getD false then
      if ← view.isDirectory path then
        let inside ← onward (.directories :: segment :: rest) path
        return here ++ inside
      else return here
    else return here

/-- The paths that the segments lead to from a directory. The fuel is used up by segments and by
directories on the way down. -/
def pathsFrom (view : FileView m) (directoriesOnly : Bool) : Nat → Onward m
  | 0, _, _ => return []
  | _ + 1, [], _ => return []
  | fuel + 1, .name s :: rest, directory => do
    let next := below directory s
    let found ←
      if s = "." || s = ".." then view.isDirectory directory else view.isPresent next
    if found then arrive view directoriesOnly (pathsFrom view directoriesOnly fuel) rest next
    else return []
  | fuel + 1, segment :: rest, directory => do
    let onward := pathsFrom view directoriesOnly fuel
    if ← view.isDirectory directory then
      let dots := ["..", "."].filter fun dots => segment.admitsDots dots
      let special ← dots.mapM fun dots =>
        arrive view directoriesOnly onward rest (Path.join directory dots)
      let names := Text.sortedNames (← view.names directory)
      let children ← names.mapM fun name =>
        visit view directoriesOnly onward (segment :: rest) name (below directory name)
      return (special ++ children).flatten
    else return []

def paths (view : FileView m) (glob : Glob) : m (List String) :=
  pathsFrom view glob.directoriesOnly (glob.segments.length + view.depth + 1) glob.segments
    (if glob.isAbsolute then "/" else ".")

end Glob

end RouteBindings
