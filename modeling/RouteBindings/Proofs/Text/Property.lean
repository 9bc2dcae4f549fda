import Mathlib.Data.List.Basic
import Mathlib.Tactic.Tauto
import RouteBindings.Proofs.Text.Token

/-! Properties of an object type, read from their text. A key is an identifier, which denotes
itself, or a quoted text; a type is passed over. What stands in the place of a key is what the key
denotes exactly if it is an identifier. -/

namespace RouteBindings.Text.Lexicon

variable (lexicon : Lexicon)

structure IsIdentifier (cs : List Char) : Prop where
  starts : ∃ c ∈ cs.head?, lexicon.isStart c = true
  parts : ∀ c ∈ cs, lexicon.isPart c = true

theorem isIdentifier_iff {cs : List Char} :
    lexicon.IsIdentifier cs ↔
      cs.head?.any lexicon.isStart = true ∧ cs.all lexicon.isPart = true := by
  rw [Option.any_eq_true, List.all_eq_true]
  exact ⟨fun ⟨starts, parts⟩ => ⟨starts, parts⟩, fun ⟨starts, parts⟩ => ⟨starts, parts⟩⟩

instance : DecidablePred lexicon.IsIdentifier := fun _ =>
  decidable_of_iff _ lexicon.isIdentifier_iff.symm

/-- What the property name at the front of a text denotes, and the text behind it: an identifier
denotes itself, and a text between double quotes what is read from it. -/
def propertyName? : List Char → Option (String × List Char)
  | [] => none
  | c :: rest =>
    if c.isWhitespace then propertyName? rest
    else if c = '"' then
      match Draft.scanText rest with
      | some (some s, after) => some (s, after)
      | _ => none
    else if lexicon.isStart c then
      some (String.ofList (c :: rest.takeWhile lexicon.isPart), rest.dropWhile lexicon.isPart)
    else none

def property? (used ending : String) (cs : List Char) : Option (String × List Char) := do
  let (key, rest) ← lexicon.propertyName? cs
  let rest ← rest.dropPrefix? (": " ++ used ++ ending).toList
  return (key, rest)

def keys? : List String → List Char → Option (List String)
  | [], _ => some []
  | [used], cs => (lexicon.property? used "\n" cs).map fun (key, _) => [key]
  | used :: others, cs => do
    let (key, rest) ← lexicon.property? used ",\n" cs
    let keys ← keys? others rest
    return key :: keys

variable {lexicon}

theorem keys?_eq_some_iff {used next key : String} {others keys : List String} {cs : List Char} :
    lexicon.keys? (used :: next :: others) cs = some (key :: keys) ↔
      ∃ rest, lexicon.property? used ",\n" cs = some (key, rest) ∧
        lexicon.keys? (next :: others) rest = some keys := by
  simp only [keys?, Option.bind_eq_bind, Option.bind_eq_some_iff, Prod.exists, Option.pure_def,
    Option.some.injEq, List.cons.injEq]
  constructor
  · rintro ⟨_, rest, read, _, later, rfl, rfl⟩
    exact ⟨rest, read, later⟩
  · rintro ⟨rest, read, later⟩
    exact ⟨key, rest, read, keys, later, rfl, rfl⟩

theorem isPart_of_isStart {c : Char} (start : lexicon.isStart c = true) :
    lexicon.isPart c = true := by
  simp only [isStart, isPart, Char.isAlphanum, Bool.or_eq_true, Bool.and_eq_true] at start ⊢
  tauto

theorem isStart_apart {c : Char} (start : lexicon.isStart c = true) :
    c.isWhitespace = false ∧ c ≠ '"' := by
  constructor
  · cases blank : c.isWhitespace with
    | false => rfl
    | true =>
      simp only [Char.isWhitespace, Bool.or_eq_true, decide_eq_true_eq, or_assoc] at blank
      rcases blank with rfl | rfl | rfl | rfl <;> simp [isStart] at start
  · rintro rfl
    simp [isStart] at start

theorem propertyName?_of_identifier {name : String} (identifier : lexicon.IsIdentifier name.toList)
    {rest : List Char} (ends : ∀ c ∈ rest.head?, lexicon.isPart c = false) :
    lexicon.propertyName? (name.toList ++ rest) = some (name, rest) := by
  obtain ⟨c, first, start⟩ := identifier.starts
  obtain ⟨tail, split⟩ := List.head?_eq_some_iff.mp first
  obtain ⟨blank, quote⟩ := isStart_apart start
  have parts : ∀ d ∈ tail, lexicon.isPart d = true :=
    fun d member => identifier.parts d (split ▸ List.mem_cons_of_mem c member)
  obtain ⟨taken, dropped⟩ := span_of_ends parts ends
  rw [split, List.cons_append, propertyName?, if_neg (by simp [blank]), if_neg quote, if_pos start,
    taken, dropped, ← split, String.ofList_toList]

theorem propertyName?_cases {cs rest : List Char} {name : String}
    (read : lexicon.propertyName? cs = some (name, rest)) :
    lexicon.IsIdentifier name.toList ∨
      ∃ front raw, cs = front ++ raw ++ '"' :: rest ∧ front.count ':' = 0 ∧ front ≠ [] ∧
        name.toList.length ≤ raw.length ∧ raw.count ':' ≤ name.toList.count ':' := by
  fun_induction propertyName? lexicon cs with
  | case1 => cases read
  | case2 c tail blank ih =>
    refine (ih read).imp_right ?_
    rintro ⟨front, raw, rfl, bare, -, kept⟩
    have other : c ≠ ':' := by
      rintro rfl
      cases blank
    exact ⟨c :: front, raw, rfl, by rw [List.count_cons_of_ne other, bare], by simp, kept⟩
  | case3 tail s after scanned =>
    cases read
    obtain ⟨raw, rfl, kept⟩ := scanText_raw scanned
    exact .inr ⟨['"'], raw, rfl, rfl, by simp, kept⟩
  | case4 => cases read
  | case5 c tail blank quote start =>
    cases read
    refine .inl ⟨⟨c, by simp, start⟩, ?_⟩
    rw [String.toList_ofList]
    intro d member
    rcases List.mem_cons.mp member with rfl | member
    · exact isPart_of_isStart start
    · exact List.mem_takeWhile_imp member
  | case6 => cases read

/-- A quoted text in front of a colon cannot denote what stands there: it would end behind the
colon, and so have more colons than what it denotes. -/
theorem identifier_of_propertyName? {name : String} {after rest : List Char}
    (read : lexicon.propertyName? (name.toList ++ ':' :: after) = some (name, rest)) :
    lexicon.IsIdentifier name.toList := by
  rcases propertyName?_cases read with identifier | ⟨front, raw, split, bare, present, long, colons⟩
  · exact identifier
  · have begun : name.toList ++ [':'] <+: front ++ raw := by
      refine List.prefix_of_prefix_length_le ⟨after, by simp⟩ ⟨'"' :: rest, split.symm⟩ ?_
      have := List.length_pos_iff.mpr present
      simp only [List.length_append, List.length_singleton]
      omega
    have more := begun.sublist.count_le ':'
    rw [List.count_append, List.count_append, List.count_singleton_self, bare] at more
    omega

theorem property_toList (verb used ending tail : String) :
    ("    " ++ verb ++ ": " ++ used ++ ending ++ tail).toList =
      "    ".toList ++ (verb.toList ++ ':' :: (" " ++ used ++ ending ++ tail).toList) := by
  simp

theorem propertyName?_indented (cs : List Char) :
    lexicon.propertyName? ("    ".toList ++ cs) = lexicon.propertyName? cs :=
  rfl

variable {verb used ending tail : String}

theorem property?_of_identifier (identifier : lexicon.IsIdentifier verb.toList) :
    lexicon.property? used ending ("    " ++ verb ++ ": " ++ used ++ ending ++ tail).toList =
      some (verb, tail.toList) := by
  have type : (':' :: (" " ++ used ++ ending ++ tail).toList).dropPrefix?
      (": " ++ used ++ ending).toList = some tail.toList := by
    have split : ':' :: (" " ++ used ++ ending ++ tail).toList =
        (": " ++ used ++ ending).toList ++ tail.toList := by simp
    rw [split, List.dropPrefix?_append_of_beq _ (beq_self_eq_true _)]
  have named : lexicon.propertyName?
      (verb.toList ++ ':' :: (" " ++ used ++ ending ++ tail).toList) =
        some (verb, ':' :: (" " ++ used ++ ending ++ tail).toList) :=
    propertyName?_of_identifier identifier (by simp [isPart])
  rw [property?, property_toList, propertyName?_indented, named]
  simp only [Option.bind_eq_bind, Option.bind_some, type]
  rfl

/-- A key denotes what stands in its place exactly if this is an identifier. -/
theorem property?_eq_some_iff {rest : List Char} :
    lexicon.property? used ending ("    " ++ verb ++ ": " ++ used ++ ending ++ tail).toList =
        some (verb, rest) ↔
      lexicon.IsIdentifier verb.toList ∧ rest = tail.toList := by
  constructor
  · intro read
    have named := read
    rw [property?, property_toList, propertyName?_indented] at named
    obtain ⟨⟨key, behind⟩, found, named⟩ := Option.bind_eq_some_iff.mp named
    obtain ⟨after, -, same⟩ := Option.bind_eq_some_iff.mp named
    cases same
    have identifier := identifier_of_propertyName? found
    rw [property?_of_identifier identifier] at read
    cases read
    exact ⟨identifier, rfl⟩
  · rintro ⟨identifier, rfl⟩
    exact property?_of_identifier identifier

end RouteBindings.Text.Lexicon
