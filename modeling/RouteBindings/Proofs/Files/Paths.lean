import RouteBindings.Files.Glob

namespace RouteBindings

namespace Path

/-- The order of paths: by the first segment in which they differ, a directory before what lies in
it. -/
def Before (p q : String) : Prop :=
  segments p.toList < segments q.toList

instance (p q : String) : Decidable (Before p q) :=
  inferInstanceAs (Decidable (segments p.toList < segments q.toList))

def atMost (p q : String) : Bool :=
  !decide (Before q p)

theorem atMost_of_before {p q : String} (before : Before p q) : atMost p q = true := by
  rw [atMost, Bool.not_eq_true', decide_eq_false_iff_not]
  exact fun after => List.lt_irrefl _ (List.lt_trans before after)

theorem mergeSort_atMost {paths : List String} (ascending : paths.Pairwise Before) :
    paths.mergeSort atMost = paths :=
  List.mergeSort_of_pairwise (ascending.imp atMost_of_before)

theorem segments_ne_nil (cs : List Char) : segments cs ≠ [] := by
  cases cs with
  | nil => exact List.cons_ne_nil _ _
  | cons c rest =>
    rw [segments]
    split
    · exact List.cons_ne_nil _ _
    · split <;> exact List.cons_ne_nil _ _

theorem segments_append_slash (cs rest : List Char) :
    segments (cs ++ '/' :: rest) = segments cs ++ segments rest := by
  induction cs with
  | nil => rfl
  | cons c cs ih =>
    rw [List.cons_append, segments, segments, ih]
    by_cases slash : c = '/'
    · rw [if_pos slash, if_pos slash, List.cons_append]
    · rw [if_neg slash, if_neg slash]
      cases whole : segments cs with
      | nil => exact absurd whole (segments_ne_nil cs)
      | cons first others => rfl

theorem segments_slashless {cs : List Char} (slashless : '/' ∉ cs) : segments cs = [cs] := by
  induction cs with
  | nil => rfl
  | cons c cs ih =>
    rw [List.mem_cons, not_or] at slashless
    rw [segments, if_neg fun same => slashless.1 same.symm, ih slashless.2]

def base (directory : String) : List Char :=
  (join directory "").toList

theorem toList_join (directory name : String) :
    (join directory name).toList = base directory ++ name.toList := by
  rw [base, join, join]
  split <;> simp

theorem base_cases (directory : String) :
    base directory = [] ∧ directory = "" ∨ ∃ cs, base directory = cs ++ ['/'] ∧
      (directory.toList = cs ∧ cs ≠ [] ∨ directory.toList = cs ++ ['/']) := by
  rw [base, join]
  by_cases empty : directory = ""
  · exact .inl (by simp [empty])
  by_cases slash : directory.toList.getLast? = some '/'
  · obtain ⟨cs, same⟩ := List.getLast?_eq_some_iff.mp slash
    exact .inr ⟨cs, by simp [same], .inr same⟩
  · exact .inr ⟨directory.toList, by simp [empty, slash], .inl ⟨rfl, by simpa using empty⟩⟩

def stem (directory : String) : List (List Char) :=
  if isHere directory then [] else (segments (base directory)).dropLast

theorem segments_below (directory name : String) :
    segments (Glob.below directory name).toList = stem directory ++ segments name.toList := by
  rw [Glob.below, stem]
  by_cases here : isHere directory = true
  · rw [if_pos here, if_pos here, List.nil_append]
  rw [if_neg here, if_neg here, toList_join]
  rcases base_cases directory with ⟨empty, -⟩ | ⟨cs, same, -⟩
  · simp [empty, segments]
  · rw [same, List.append_assoc, segments_append_slash, List.singleton_append,
      segments_append_slash]
    simp [segments]

theorem isHere_iff {path : String} :
    isHere path = true ↔ path ≠ "" ∧ path.toList.head? ≠ some '/' ∧
      ∀ segment ∈ segments path.toList, stepOf segment = .stay := by
  simp [isHere, isAbsolute, steps, and_assoc]

/-- Apart from a slash at its end, a path has the segments that everything below it begins with. -/
theorem segments_eq_stem {path : String} (elsewhere : isHere path ≠ true) :
    segments path.toList = stem path ∨ segments path.toList = stem path ++ [[]] := by
  rw [stem, if_neg elsewhere]
  rcases base_cases path with ⟨empty, rfl⟩ | ⟨cs, same, whole | whole⟩
  · exact .inr (by simp [empty, segments])
  · exact .inl (by simp [same, whole.1, segments_append_slash, segments])
  · exact .inr (by simp [same, whole, segments_append_slash, segments])

theorem stem_prefix (path : String) : stem path <+: segments path.toList := by
  by_cases here : isHere path = true
  · rw [stem, if_pos here]
    exact List.nil_prefix
  rcases segments_eq_stem here with whole | whole
  · exact ⟨[], by rw [List.append_nil, whole]⟩
  · exact ⟨[[]], whole.symm⟩

/-- What is below a directory is the working directory only if the directory is. -/
theorem stem_of_isHere_below {directory name : String}
    (here : isHere (Glob.below directory name) = true) : stem directory = [] := by
  by_cases same : isHere directory = true
  · rw [stem, if_pos same]
  obtain ⟨-, relative, stays⟩ := isHere_iff.mp here
  rw [segments_below] at stays
  rw [Glob.below, if_neg same, toList_join] at relative
  rcases base_cases directory with ⟨empty, -⟩ | ⟨cs, based, whole⟩
  · simp [stem, empty, segments]
  refine absurd (isHere_iff.mpr ⟨?_, ?_, ?_⟩) same
  · rintro rfl
    rcases whole with ⟨rfl, nonempty⟩ | whole
    · exact nonempty rfl
    · simp at whole
  · intro absolute
    rw [based, List.head?_append] at relative
    rcases whole with ⟨rfl, -⟩ | whole
    · simp [absolute] at relative
    · rw [whole] at absolute
      simp [absolute] at relative
  · intro segment member
    rcases segments_eq_stem same with whole | whole
    · exact stays segment (List.mem_append_left _ (whole ▸ member))
    · rw [whole] at member
      rcases List.mem_append.mp member with inside | last
      · exact stays segment (List.mem_append_left _ inside)
      · rw [List.mem_singleton.mp last]
        rfl

theorem stem_below_prefix (directory name : String) :
    stem directory <+: stem (Glob.below directory name) := by
  by_cases here : isHere (Glob.below directory name) = true
  · rw [stem_of_isHere_below here]
    exact List.nil_prefix
  have segs := segments_below directory name
  rcases segments_eq_stem here with whole | whole
  · rw [← whole, segs]
    exact List.prefix_append _ _
  · have last : stem (Glob.below directory name) =
        stem directory ++ (segments name.toList).dropLast := by
      rw [← List.dropLast_append_of_ne_nil (segments_ne_nil _), ← segs, whole,
        List.dropLast_concat]
    rw [last]
    exact List.prefix_append _ _

structure IsName (name : String) : Prop where
  nonempty : name ≠ ""
  slashless : '/' ∉ name.toList
  proper : name ≠ "." ∧ name ≠ ".."

instance (name : String) : Decidable (IsName name) :=
  decidable_of_iff (name ≠ "" ∧ '/' ∉ name.toList ∧ name ≠ "." ∧ name ≠ "..")
    ⟨fun ⟨nonempty, slashless, proper⟩ => ⟨nonempty, slashless, proper⟩,
      fun ⟨nonempty, slashless, proper⟩ => ⟨nonempty, slashless, proper⟩⟩

theorem segments_below_name {name : String} (isName : IsName name) (directory : String) :
    segments (Glob.below directory name).toList = stem directory ++ [name.toList] := by
  rw [segments_below, segments_slashless isName.slashless]

theorem stem_below_name {name : String} (isName : IsName name) (directory : String) :
    stem (Glob.below directory name) = stem directory ++ [name.toList] := by
  have segs := segments_below_name isName directory
  have nonempty : name.toList ≠ [] := by simpa using isName.nonempty
  have moves : stepOf name.toList ≠ .stay := by
    have point : name.toList ≠ ['.'] := fun same => isName.proper.1 (String.toList_inj.mp same)
    rw [stepOf]
    simp only [nonempty, point, decide_false, Bool.or_self, Bool.false_eq_true, if_false]
    split <;> exact Step.noConfusion
  have elsewhere : isHere (Glob.below directory name) ≠ true := fun here =>
    moves ((isHere_iff.mp here).2.2 _ (by simp [segs]))
  rcases segments_eq_stem elsewhere with whole | whole
  · rw [← whole, segs]
  · have last := (List.append_inj' (segs.symm.trans whole) rfl).2
    exact absurd (List.head_eq_of_cons_eq last) nonempty

/-- Paths in order, the segments of which all begin like this. -/
structure Ascending (front : List (List Char)) (paths : List String) : Prop where
  inside : ∀ path ∈ paths, front <+: segments path.toList
  ascending : paths.Pairwise Before

/-- Paths in order that all go on behind these segments. -/
structure Below (front : List (List Char)) (paths : List String) : Prop where
  inside : ∀ path ∈ paths, ∃ segment tail, segments path.toList = front ++ segment :: tail
  ascending : paths.Pairwise Before

variable {front : List (List Char)} {paths : List String}

theorem below_nil : Below front [] :=
  ⟨fun _ member => (nomatch member), List.Pairwise.nil⟩

theorem Below.weaken {shorter : List (List Char)} (below : Below front paths)
    (isShorter : shorter <+: front) : Below shorter paths := by
  refine ⟨fun path member => ?_, below.ascending⟩
  obtain ⟨more, rfl⟩ := isShorter
  obtain ⟨segment, tail, same⟩ := below.inside path member
  cases more with
  | nil => exact ⟨segment, tail, by simpa using same⟩
  | cons next more => exact ⟨next, more ++ segment :: tail, by simpa using same⟩

theorem Below.ascending_of (below : Below front paths) : Ascending front paths :=
  ⟨fun path member => by
    obtain ⟨segment, tail, same⟩ := below.inside path member
    exact ⟨_, same.symm⟩, below.ascending⟩

theorem ascending_nil : Ascending front [] :=
  ⟨fun _ member => (nomatch member), List.Pairwise.nil⟩

theorem ascending_single {path : String} (inside : front <+: segments path.toList) :
    Ascending front [path] :=
  ⟨by simpa using inside, List.pairwise_singleton _ _⟩

/-- A directory stands before all that is below it. -/
theorem Below.cons {path : String} (below : Below front paths)
    (whole : segments path.toList = front) : Ascending front (path :: paths) := by
  refine ⟨fun other member => ?_, List.pairwise_cons.mpr ⟨fun other member => ?_, below.ascending⟩⟩
  · rcases List.mem_cons.mp member with rfl | member
    · exact whole ▸ List.prefix_refl _
    · exact below.ascending_of.inside other member
  · obtain ⟨segment, tail, same⟩ := below.inside other member
    have longer : ([] : List (List Char)) < segment :: tail := List.nil_lt_cons _ _
    have behind : front ++ [] < front ++ segment :: tail := List.append_left_lt longer
    rw [List.append_nil] at behind
    rw [Before, whole, same]
    exact behind

/-- What lies behind ascending names ascends as a whole. -/
theorem below_flatten {names : List String} {group : String → List String}
    (ascending : names.Pairwise fun a b => a.toList < b.toList)
    (each : ∀ name ∈ names, Ascending (front ++ [name.toList]) (group name)) :
    Below front (names.map group).flatten := by
  constructor
  · intro path member
    obtain ⟨paths, listed, inside⟩ := List.mem_flatten.mp member
    obtain ⟨name, given, rfl⟩ := List.mem_map.mp listed
    obtain ⟨tail, same⟩ := (each name given).inside path inside
    exact ⟨name.toList, tail, by rw [← same, List.append_assoc]; rfl⟩
  · rw [List.pairwise_flatten]
    refine ⟨fun paths listed => ?_, List.pairwise_map.mpr ?_⟩
    · obtain ⟨name, given, rfl⟩ := List.mem_map.mp listed
      exact (each name given).ascending
    · refine ascending.imp_of_mem fun first second less p hp q hq => ?_
      obtain ⟨tail, same⟩ := (each _ first).inside p hp
      obtain ⟨tail', same'⟩ := (each _ second).inside q hq
      rw [Before, ← same, ← same', List.append_assoc, List.append_assoc]
      exact List.append_left_lt (List.cons_lt_cons_iff.mpr (.inl less))

end Path

end RouteBindings
