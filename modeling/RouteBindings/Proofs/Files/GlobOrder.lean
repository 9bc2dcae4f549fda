import RouteBindings.Proofs.Bindings.Sources
import RouteBindings.Proofs.Files.Paths
import RouteBindings.Proofs.Text.Order
import RouteBindings.Proofs.Text.Span

namespace RouteBindings

namespace Entry

mutual
def allNames : Entry → List String
  | file _ => []
  | directory entries => allNamesOf entries

def allNamesOf : List (String × Entry) → List String
  | [] => []
  | (name, entry) :: rest => name :: (entry.allNames ++ allNamesOf rest)
end

theorem names_subset (entry : Entry) : entry.names ⊆ entry.allNames := by
  cases entry with
  | file => exact List.nil_subset _
  | directory entries =>
    change entries.map Prod.fst ⊆ allNamesOf entries
    induction entries with
    | nil => exact List.nil_subset _
    | cons row rest ih =>
      rw [allNamesOf]
      intro name member
      rcases List.mem_cons.mp member with rfl | later
      · exact List.mem_cons_self
      · exact List.mem_cons_of_mem _ (List.mem_append_right _ (ih later))

theorem allNames_child? {entry child : Entry} {name : String}
    (found : entry.child? name = some child) : child.allNames ⊆ entry.allNames := by
  cases entry with
  | file => cases found
  | directory entries =>
    change Table.find? name entries = some child at found
    change child.allNames ⊆ allNamesOf entries
    induction entries with
    | nil => cases found
    | cons row rest ih =>
      obtain ⟨key, entry⟩ := row
      rw [Table.find?] at found
      rw [allNamesOf]
      intro inner member
      refine List.mem_cons_of_mem _ (List.mem_append.mpr ?_)
      split at found
      · cases found
        exact .inl member
      · exact .inr (ih found member)

theorem allNames_at? {entry inner : Entry} {location : List String}
    (found : entry.at? location = some inner) : inner.allNames ⊆ entry.allNames := by
  induction location generalizing entry with
  | nil =>
    cases found
    exact List.Subset.refl _
  | cons name rest ih =>
    obtain ⟨child, here, found⟩ := Option.bind_eq_some_iff.mp found
    exact List.Subset.trans (ih found) (allNames_child? here)

end Entry

namespace FileTree

def WellNamed (t : FileTree) : Prop :=
  ∀ name ∈ t.root.allNames, Path.IsName name

instance (t : FileTree) : Decidable t.WellNamed :=
  inferInstanceAs (Decidable (∀ name ∈ t.root.allNames, Path.IsName name))

theorem names_subset (t : FileTree) (path : String) : t.names path ⊆ t.root.allNames := by
  rw [names, find]
  cases t.locate path with
  | error => exact List.nil_subset _
  | ok location =>
    dsimp only [bind, Except.bind]
    cases found : t.root.at? location with
    | none => exact List.nil_subset _
    | some entry => exact List.Subset.trans entry.names_subset (Entry.allNames_at? found)

end FileTree

namespace Glob

variable {t : FileTree} {directoriesOnly : Bool}

def found (t : FileTree) (directoriesOnly : Bool) (fuel : Nat) (segments : List GlobSegment)
    (directory : String) : List String :=
  Id.run (pathsFrom t.view directoriesOnly fuel segments directory)

def arrived (t : FileTree) (directoriesOnly : Bool) (fuel : Nat) :
    List GlobSegment → String → List String
  | [], path => if directoriesOnly && !t.isDirectory path then [] else [path]
  | segments, path => found t directoriesOnly fuel segments path

theorem run_arrive (fuel : Nat) (segments : List GlobSegment) (path : String) :
    Id.run (arrive t.view directoriesOnly (pathsFrom t.view directoriesOnly fuel) segments path) =
      arrived t directoriesOnly fuel segments path := by
  cases segments with
  | nil =>
    cases directoriesOnly with
    | false => rfl
    | true =>
      change (if t.isDirectory path then [path] else []) =
        if !t.isDirectory path then [] else [path]
      cases t.isDirectory path <;> rfl
  | cons => rfl

def isFound (t : FileTree) (directory s : String) : Bool :=
  if s = "." || s = ".." then t.isDirectory directory else t.isPresent (below directory s)

theorem found_name (fuel : Nat) (s : String) (rest : List GlobSegment) (directory : String) :
    found t directoriesOnly (fuel + 1) (.name s :: rest) directory =
      if isFound t directory s then arrived t directoriesOnly fuel rest (below directory s)
      else [] := by
  rw [← run_arrive, found, pathsFrom, isFound]
  by_cases dots : (s = "." || s = "..") = true
  · rw [if_pos dots, if_pos dots]
    rfl
  · rw [if_neg dots, if_neg dots]
    rfl

def visited (t : FileTree) (directoriesOnly : Bool) (fuel : Nat) (segments : List GlobSegment)
    (name path : String) : List String :=
  match segments.dropWhile GlobSegment.isDirectories with
  | [] =>
    if t.isDirectory path then path :: found t directoriesOnly fuel [.directories] path else []
  | segment :: rest =>
    let here := if segment.admits name then arrived t directoriesOnly fuel rest path else []
    if (segments.head?.map GlobSegment.isDirectories).getD false && t.isDirectory path then
      here ++ found t directoriesOnly fuel (.directories :: segment :: rest) path
    else here

theorem run_visit (fuel : Nat) (segments : List GlobSegment) (name path : String) :
    Id.run (visit t.view directoriesOnly (pathsFrom t.view directoriesOnly fuel) segments name
      path) = visited t directoriesOnly fuel segments name path := by
  rw [visit, visited]
  cases segments.dropWhile GlobSegment.isDirectories with
  | nil =>
    change (if t.isDirectory path then _ else _) = _
    rfl
  | cons segment rest =>
    dsimp only
    rw [← run_arrive]
    have asked : t.view.isDirectory path = t.isDirectory path := rfl
    cases segment.admits name <;>
      cases (segments.head?.map GlobSegment.isDirectories).getD false <;>
      cases directory : t.isDirectory path <;> simp [asked, directory] <;> rfl

theorem found_other (fuel : Nat) {segment : GlobSegment} (rest : List GlobSegment)
    (directory : String) (other : ∀ s, segment ≠ .name s)
    (plain : ∀ dots ∈ ["..", "."], segment.admitsDots dots = false) :
    found t directoriesOnly (fuel + 1) (segment :: rest) directory =
      if t.isDirectory directory then
        ((Text.sortedNames (t.names directory)).map fun name =>
          visited t directoriesOnly fuel (segment :: rest) name (below directory name)).flatten
      else [] := by
  rw [found, pathsFrom]
  · have special : (["..", "."].filter fun dots => segment.admitsDots dots) = [] := by
      simp [plain]
    rw [special]
    change (if t.isDirectory directory then
      (Id.run ((Text.sortedNames (t.names directory)).mapM fun name =>
        visit t.view directoriesOnly (pathsFrom t.view directoriesOnly fuel) (segment :: rest) name
          (below directory name))).flatten else []) = _
    simp only [List.idRun_mapM, run_visit]
  · exact fun s same => other s same

/-- Globs that find paths in order: no wildcards stand for a point or two, and what names lie below
any number of directories is the last segment. -/
structure Orderly (segments : List GlobSegment) : Prop where
  pointless : ∀ segment ∈ segments, ∀ dots ∈ ["..", "."], segment.admitsDots dots = false
  shallow : ((segments.dropWhile fun s => !s.isDirectories).dropWhile
    GlobSegment.isDirectories).length ≤ 1

instance (segments : List GlobSegment) : Decidable (Orderly segments) :=
  decidable_of_iff ((∀ segment ∈ segments, ∀ dots ∈ ["..", "."], segment.admitsDots dots = false) ∧
      ((segments.dropWhile fun s => !s.isDirectories).dropWhile
        GlobSegment.isDirectories).length ≤ 1)
    ⟨fun ⟨pointless, shallow⟩ => ⟨pointless, shallow⟩,
      fun ⟨pointless, shallow⟩ => ⟨pointless, shallow⟩⟩

theorem Orderly.tail {segment : GlobSegment} {rest : List GlobSegment}
    (orderly : Orderly (segment :: rest)) (single : segment.isDirectories = false) :
    Orderly rest := by
  refine ⟨fun s member => orderly.pointless s (List.mem_cons_of_mem _ member), ?_⟩
  have shallow := orderly.shallow
  rwa [List.dropWhile_cons_of_pos (by simp [single])] at shallow

theorem orderly_directories : Orderly [.directories] :=
  ⟨by simp [GlobSegment.admitsDots], by decide⟩

/-- Behind segments for any directories there is one more segment, if any. -/
theorem Orderly.last {segments rest : List GlobSegment} {segment : GlobSegment}
    (orderly : Orderly (.directories :: segments))
    (after : (GlobSegment.directories :: segments).dropWhile GlobSegment.isDirectories =
      segment :: rest) : rest = [] ∧ Orderly [.directories, segment] := by
  have shallow := orderly.shallow
  rw [List.dropWhile_cons_of_neg (by simp [GlobSegment.isDirectories]), after] at shallow
  have single : segment.isDirectories = false := by
    have := Text.ends_dropWhile (p := GlobSegment.isDirectories) (.directories :: segments)
    rw [after] at this
    exact this segment rfl
  have member : segment ∈ GlobSegment.directories :: segments :=
    (List.dropWhile_suffix _).subset (after ▸ List.mem_cons_self)
  refine ⟨List.length_eq_zero_iff.mp (by simpa using shallow), ?_, ?_⟩
  · intro s inside
    rcases List.mem_cons.mp inside with rfl | inside
    · exact orderly_directories.pointless _ (List.mem_singleton_self _)
    · exact List.mem_singleton.mp inside ▸ orderly.pointless segment member
  · rw [List.dropWhile_cons_of_neg (by simp [GlobSegment.isDirectories]),
      List.dropWhile_cons_of_pos rfl, List.dropWhile_cons_of_neg (by simp [single])]
    exact Nat.le_refl 1

theorem arrived_below_name (fuel : Nat) (directory s : String) :
    Path.Below (Path.stem directory)
      (arrived t directoriesOnly fuel [] (below directory s)) := by
  rw [arrived]
  split
  · exact Path.below_nil
  · refine ⟨fun path member => ?_, List.pairwise_singleton _ _⟩
    obtain ⟨segment, tail, same⟩ := List.exists_cons_of_ne_nil (Path.segments_ne_nil s.toList)
    exact ⟨segment, tail, by rw [List.mem_singleton.mp member, Path.segments_below, same]⟩

/-- The last segment of a glob leads to the path that was reached, if anywhere. -/
theorem last_arrived (fuel : Nat) (admitted : Bool) (path : String) :
    (if admitted then arrived t directoriesOnly fuel [] path else []) = [] ∨
      (if admitted then arrived t directoriesOnly fuel [] path else []) = [path] := by
  rw [arrived]
  split
  · split <;> simp
  · exact .inl rfl

section

variable {fuel : Nat}
  (ordered : ∀ segments directory, Orderly segments →
    Path.Below (Path.stem directory) (found t directoriesOnly fuel segments directory))
include ordered

theorem arrived_ascending {segments : List GlobSegment} (orderly : Orderly segments)
    (path : String) :
    Path.Ascending (Path.stem path) (arrived t directoriesOnly fuel segments path) := by
  cases segments with
  | nil =>
    rw [arrived]
    split
    · exact Path.ascending_nil
    · exact Path.ascending_single (Path.stem_prefix path)
  | cons => exact (ordered _ path orderly).ascending_of

theorem visited_ascending {segments : List GlobSegment} (orderly : Orderly segments)
    (name : String) {path : String} (whole : Path.segments path.toList = Path.stem path) :
    Path.Ascending (Path.stem path) (visited t directoriesOnly fuel segments name path) := by
  rw [visited]
  split
  · split
    · exact (ordered _ path orderly_directories).cons whole
    · exact Path.ascending_nil
  · rename_i segment rest after
    dsimp only
    cases segments with
    | nil => cases after
    | cons first others =>
      cases recursive : first.isDirectories with
      | true =>
        obtain rfl : first = .directories := by
          cases first <;> first | rfl | cases recursive
        obtain ⟨rfl, orderly'⟩ := orderly.last after
        have inside := ordered _ path orderly'
        rcases last_arrived (t := t) fuel (segment.admits name) path with none | one
        · rw [none]
          split
          · exact inside.ascending_of
          · exact Path.ascending_nil
        · rw [one]
          split
          · exact inside.cons whole
          · exact Path.ascending_single (Path.stem_prefix path)
      | false =>
        rw [List.dropWhile_cons_of_neg (by simp [recursive])] at after
        cases after
        rw [List.head?_cons, Option.map_some, Option.getD_some, recursive, Bool.false_and,
          if_neg Bool.false_ne_true]
        split
        · exact arrived_ascending ordered (orderly.tail recursive) path
        · exact Path.ascending_nil

/-- Names in order have what lies behind them in order, too. -/
theorem found_other_ascending (wellNamed : t.WellNamed) {segment : GlobSegment}
    {rest : List GlobSegment} (directory : String) (other : ∀ s, segment ≠ .name s)
    (orderly : Orderly (segment :: rest)) :
    Path.Below (Path.stem directory)
      (found t directoriesOnly (fuel + 1) (segment :: rest) directory) := by
  rw [found_other fuel rest directory other (orderly.pointless segment List.mem_cons_self)]
  split
  · refine Path.below_flatten (Text.pairwise_sortedNames _) fun name member => ?_
    have isName := wellNamed name (t.names_subset directory (Text.mem_sortedNames.mp member))
    rw [← Path.stem_below_name isName]
    refine visited_ascending ordered orderly name ?_
    rw [Path.segments_below_name isName, Path.stem_below_name isName]
  · exact Path.below_nil

end

theorem found_ascending (wellNamed : t.WellNamed) (fuel : Nat) (segments : List GlobSegment)
    (directory : String) (orderly : Orderly segments) :
    Path.Below (Path.stem directory) (found t directoriesOnly fuel segments directory) := by
  induction fuel generalizing segments directory with
  | zero => exact Path.below_nil
  | succ fuel ih =>
    cases segments with
    | nil => exact Path.below_nil
    | cons segment rest =>
      cases segment with
      | name s =>
        rw [found_name]
        split
        · cases rest with
          | nil => exact arrived_below_name fuel directory s
          | cons next rest =>
            exact (ih _ (below directory s) (orderly.tail rfl)).weaken
              (Path.stem_below_prefix directory s)
        · exact Path.below_nil
      | directories | wildcards =>
        exact found_other_ascending ih wellNamed directory (fun _ => GlobSegment.noConfusion)
          orderly

/-- An orderly glob finds its paths in order, and each once. -/
theorem ascending_globPaths (wellNamed : t.WellNamed) {glob : Glob}
    (orderly : Orderly glob.segments) : (Sources.globPaths t glob).Pairwise Path.Before :=
  (found_ascending wellNamed _ glob.segments _ orderly).ascending

end Glob

end RouteBindings
