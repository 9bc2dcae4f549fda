import RouteBindings.Files.Tree

/-!
What can be asked of files without changing them. The questions are asked in a monad, so that they
are answered by a tree as well as by a disk.
-/

namespace RouteBindings

structure FileView (m : Type → Type) where
  isPresent : String → m Bool
  isDirectory : String → m Bool
  /-- The names in a directory, in any order. -/
  names : String → m (List String)
  read : String → m (Except FileFault String)
  /-- No path leads through more directories than this. -/
  depth : Nat

namespace FileTree

def isPresent (t : FileTree) (path : String) : Bool :=
  match t.find path with
  | .ok _ => true
  | .error _ => false

def isDirectory (t : FileTree) (path : String) : Bool :=
  match t.find path with
  | .ok entry => entry.isDirectory
  | .error _ => false

def names (t : FileTree) (path : String) : List String :=
  match t.find path with
  | .ok entry => entry.names
  | .error _ => []

def view (t : FileTree) : FileView Id where
  isPresent := t.isPresent
  isDirectory := t.isDirectory
  names := t.names
  read := t.read
  depth := t.root.depth

end FileTree

end RouteBindings
