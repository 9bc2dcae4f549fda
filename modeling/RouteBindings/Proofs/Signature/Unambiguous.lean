import RouteBindings.Proofs.Error
import RouteBindings.Proofs.Signature.Reader

/-! The reader finds the normal form of a type in its text, so that types with the same text have
the same normal form. What a text leaves behind in the reader depends on its level: behind a bare
union only its last member is still open, behind any other text the whole type is. -/

namespace RouteBindings.TypeExpr

open Text (Token Lexicon)

/-- Wherever a type may stand, this text is read as the given one. -/
def ReadsOperand (type : TypeExpr) (cs : List Char) : Prop :=
  ∀ members conjuncts frames rest, Ends rest →
    readFrom (.atType ⟨members, conjuncts, none⟩ frames) (cs ++ rest) =
      readFrom (.atType ⟨members, conjuncts, some type⟩ frames) rest

def ReadsMembers (types : List TypeExpr) (cs : List Char) : Prop :=
  ∀ members frames rest, Ends rest → ∃ level : Level, level.all = some (members ++ types) ∧
    readFrom (.atType (.start members) frames) (cs ++ rest) =
      readFrom (.atType level frames) rest

theorem step_bar {level : Level} {members : List TypeExpr} (all : level.all = some members)
    (frames : List (Frame × Level)) :
    (Reader.atType level frames).step (.mark "|") = some (.atType (.start members) frames) := by
  obtain ⟨front, conjuncts, operand⟩ := level
  cases operand with
  | none => cases all
  | some type => simp [Reader.step, Reader.suffixed, all]

/-- A mark that closes or separates takes the whole type before it. -/
theorem step_closed {level : Level} {type : TypeExpr} {mark : String}
    (whole : level.whole = some type) (frames : List (Frame × Level))
    (closes : mark ∈ [")", ",", "]", ";", "\x7d"]) :
    (Reader.atType level frames).step (.mark mark) = Reader.closed type frames mark := by
  obtain ⟨front, conjuncts, operand⟩ := level
  cases operand with
  | none => cases whole
  | some last =>
    simp only [List.mem_cons, List.not_mem_nil, or_false] at closes
    rcases closes with rfl | rfl | rfl | rfl | rfl
    all_goals simp [Reader.step, Reader.suffixed, whole]

theorem ReadsOperand.members {type : TypeExpr} {cs : List Char} (reads : ReadsOperand type cs) :
    ReadsMembers type.membersOf cs := by
  intro members frames rest ends
  exact ⟨⟨members, [], some type⟩, rfl, reads members [] frames rest ends⟩

theorem ReadsMembers.whole {type : TypeExpr} {cs : List Char} (flat : Flat type)
    (reads : ReadsMembers type.membersOf cs) (frames : List (Frame × Level)) {rest : List Char}
    (ends : Ends rest) : ∃ level : Level, level.whole = some type ∧
      readFrom (.atType (.start []) frames) (cs ++ rest) =
        readFrom (.atType level frames) rest := by
  obtain ⟨level, all, same⟩ := reads [] frames rest ends
  refine ⟨level, ?_, same⟩
  unfold Level.whole
  rw [all, Option.map_some, List.nil_append, flat.whole]

/-- The text of a type and what closes or separates it are read as one step of the reader. -/
theorem ReadsMembers.closed {type : TypeExpr} {cs : List Char} {frames : List (Frame × Level)}
    {next : Reader} (flat : Flat type) (reads : ReadsMembers type.membersOf cs)
    (text mark : String) (fixed : (text, mark) ∈ delimiters)
    (closes : mark ∈ [")", ",", "]", ";", "\x7d"])
    (stepped : Reader.closed type frames mark = some next) (rest : List Char) :
    readFrom (.atType (.start []) frames) (cs ++ (text.toList ++ rest)) = readFrom next rest := by
  obtain ⟨level, whole, same⟩ := reads.whole flat frames (ends_delimiter text mark fixed rest)
  rw [← step_closed whole frames closes] at stepped
  rw [same, readFrom_delimiter _ text mark fixed stepped]

theorem ReadsMembers.parenthesized {type : TypeExpr} {cs : List Char} (flat : Flat type)
    (reads : ReadsMembers type.membersOf cs) :
    ReadsOperand type ('(' :: cs ++ [')']) := by
  intro members conjuncts frames rest ends
  have opens := readFrom_delimiter (.atType ⟨members, conjuncts, none⟩ frames) "(" "("
    (by simp [delimiters]) rfl (cs ++ (")".toList ++ rest))
  have closes : readFrom (.atType (.start []) ((.parenthesis, ⟨members, conjuncts, none⟩) :: frames))
      (cs ++ (")".toList ++ rest)) =
        readFrom (.atType ⟨members, conjuncts, some type⟩ frames) rest :=
    reads.closed flat ")" ")" (by simp [delimiters]) (by simp) rfl rest
  calc
    _ = readFrom (.atType ⟨members, conjuncts, none⟩ frames)
        ("(".toList ++ (cs ++ (")".toList ++ rest))) := by simp
    _ = _ := by rw [opens, closes]

def Readable (type : TypeExpr) : Prop :=
  ∀ level cs, type.chars level = .ok cs →
    (level = 0 → ReadsMembers type.normal.membersOf cs) ∧
    (level ≠ 0 ∨ ¬ type.IsSum → ReadsOperand type.normal cs)

theorem readable_of_operand {type : TypeExpr}
    (reads : ∀ level cs, type.chars level = .ok cs → ReadsOperand type.normal cs) :
    Readable type := by
  intro level cs written
  have operand := reads level cs written
  exact ⟨fun _ => operand.members, fun _ => operand⟩

theorem charsOf_cons {level : Nat} {type : TypeExpr} {rest : List TypeExpr}
    {items : List (List Char)} (written : charsOf level (type :: rest) = .ok items) :
    ∃ first others, type.chars level = .ok first ∧ charsOf level rest = .ok others ∧
      items = first :: others := by
  rw [charsOf] at written
  obtain ⟨first, hf, written⟩ := bind_ok written
  obtain ⟨others, ho, written⟩ := bind_ok written
  cases written
  exact ⟨first, others, hf, ho, rfl⟩

theorem charsOf_nil {level : Nat} {items : List (List Char)}
    (written : charsOf level [] = .ok items) : items = [] := by
  rw [charsOf] at written
  cases written
  rfl

theorem joined_cons (separator item next : List Char) (rest : List (List Char)) :
    Text.joined separator (item :: next :: rest) =
      item ++ (separator ++ Text.joined separator (next :: rest)) := by
  rw [Text.joined, List.append_assoc]
  simp

/-- The members of a union are read one after the other, with the members of each. -/
theorem readsMembers_joined {types : List TypeExpr} (readable : ∀ type ∈ types, Readable type)
    (nonempty : types ≠ []) {items : List (List Char)} (written : charsOf 0 types = .ok items) :
    ReadsMembers ((normalAll types).flatMap membersOf) (Text.joined " | ".toList items) := by
  induction types generalizing items with
  | nil => exact absurd rfl nonempty
  | cons type others ih =>
    obtain ⟨first, texts, hf, ht, rfl⟩ := charsOf_cons written
    have reads := (readable type (by simp) 0 first hf).1 rfl
    cases others with
    | nil =>
      obtain rfl := charsOf_nil ht
      simpa [normalAll, Text.joined] using reads
    | cons next others =>
      obtain ⟨second, rest, -, -, rfl⟩ := charsOf_cons ht
      have tail := ih (fun t h => readable t (List.mem_cons_of_mem _ h)) (by simp) ht
      intro members frames after ends
      obtain ⟨level, all, front⟩ := reads members frames _ (ends_delimiter " | " "|"
        (by simp [delimiters]) (Text.joined " | ".toList (second :: rest) ++ after))
      obtain ⟨last, whole, back⟩ := tail (members ++ type.normal.membersOf) frames after ends
      refine ⟨last, ?_, ?_⟩
      · rw [whole, normalAll_cons type, List.flatMap_cons, List.append_assoc]
      · rw [joined_cons, List.append_assoc, List.append_assoc, front,
          readFrom_delimiter _ " | " "|" (by simp [delimiters]) (step_bar all frames), back]

/-- All conjuncts but the last are closed by the marks between them. -/
theorem readsConjuncts_joined {types : List TypeExpr} (readable : ∀ type ∈ types, Readable type)
    (nonempty : types ≠ []) {items : List (List Char)} (written : charsOf 2 types = .ok items) :
    ∃ front last, front ++ [last] = normalAll types ∧ ∀ members conjuncts frames rest, Ends rest →
      readFrom (.atType ⟨members, conjuncts, none⟩ frames)
          (Text.joined " & ".toList items ++ rest) =
        readFrom (.atType ⟨members, conjuncts ++ front, some last⟩ frames) rest := by
  induction types generalizing items with
  | nil => exact absurd rfl nonempty
  | cons type others ih =>
    obtain ⟨first, texts, hf, ht, rfl⟩ := charsOf_cons written
    have reads := (readable type (by simp) 2 first hf).2 (.inl (by decide))
    cases others with
    | nil =>
      obtain rfl := charsOf_nil ht
      refine ⟨[], type.normal, rfl, ?_⟩
      intro members conjuncts frames rest ends
      rw [Text.joined, List.append_nil, reads members conjuncts frames rest ends]
    | cons next others =>
      obtain ⟨second, tail, -, -, rfl⟩ := charsOf_cons ht
      obtain ⟨front, last, same, back⟩ :=
        ih (fun t h => readable t (List.mem_cons_of_mem _ h)) (by simp) ht
      refine ⟨type.normal :: front, last, by rw [List.cons_append, same, normalAll_cons type], ?_⟩
      intro members conjuncts frames rest ends
      rw [joined_cons, List.append_assoc, List.append_assoc, reads members conjuncts frames _
        (ends_delimiter " & " "&" (by simp [delimiters]) _),
        readFrom_delimiter _ " & " "&" (by simp [delimiters]) rfl, back _ _ _ _ ends,
        List.append_assoc]
      rfl

theorem readsMembers_conjunction {types : List TypeExpr}
    (readable : ∀ type ∈ types, Readable type) (nonempty : types ≠ []) {items : List (List Char)}
    (written : charsOf 2 types = .ok items) :
    ReadsMembers (conjunction (normalAll types)).membersOf (Text.joined " & ".toList items) := by
  obtain ⟨front, last, same, reads⟩ := readsConjuncts_joined readable nonempty written
  intro members frames rest ends
  refine ⟨⟨members, front, some last⟩, ?_, reads members [] frames rest ends⟩
  rw [Level.all, Option.map_some, same]

theorem reads_word {w : String} {type : TypeExpr} (word : lexicon.Word w.toList)
    (known : ofWord w = some type) : ReadsOperand type w.toList := by
  intro members conjuncts frames rest ends
  apply readFrom_word word ends
  rw [String.ofList_toList, Reader.step, known]
  rfl

theorem reads_keyword {w : String} {type : TypeExpr} (known : (w, type) ∈ keywords) :
    ReadsOperand type w.toList := by
  obtain ⟨word, same⟩ := word_keyword known
  exact reads_word word same

theorem reads_text (s : String) :
    ReadsOperand (literal (.string s)) (Text.quotedChars s.toList) := by
  intro members conjuncts frames rest _
  exact readFrom_text rfl rest

theorem ofWord_repr (n : Nat) :
    ofWord n.repr = some (literal (.integer (Int64.ofInt n))) := by
  simp only [ofWord, number_repr]

theorem reads_integer (n : Int64) :
    ReadsOperand (literal (.integer n)) (toString n.toInt).toList := by
  rw [Int.toString_eq_repr, Int.repr_eq_if]
  split
  · rename_i positive
    apply reads_word (word_repr _)
    rw [ofWord_repr, Int.toNat_of_nonneg positive, Int64.ofInt_toInt]
  · rename_i negative
    have size : ((-n.toInt).toNat : Int) = -n.toInt := Int.toNat_of_nonneg (by omega)
    intro members conjuncts frames rest ends
    rw [String.toList_append, List.append_assoc,
      readFrom_delimiter _ "-" "-" (by simp [delimiters]) rfl]
    apply readFrom_word (word_repr _) ends
    rw [String.ofList_toList, Reader.step, number_repr, size, Option.bind_some, Int.neg_neg,
      Int64.ofInt_toInt]
    rfl

theorem ReadsOperand.optional {type : TypeExpr} {cs : List Char} {mark : String}
    (reads : ReadsOperand type cs) (fixed : (mark, "?") ∈ delimiters) :
    ReadsOperand (optional type) (cs ++ mark.toList) := by
  intro members conjuncts frames rest ends
  rw [List.append_assoc, reads _ _ _ _ (ends_delimiter mark "?" fixed rest)]
  exact readFrom_delimiter _ mark "?" fixed rfl rest

theorem ReadsOperand.array {type : TypeExpr} {cs : List Char} (reads : ReadsOperand type cs) :
    ReadsOperand (classInstance "Array" [type]) (cs ++ ("[".toList ++ "]".toList)) := by
  intro members conjuncts frames rest ends
  have opens := readFrom_delimiter (.atType ⟨members, conjuncts, some type⟩ frames)
    "[" "[" (by simp [delimiters]) rfl ("]".toList ++ rest)
  have closes := readFrom_delimiter (.atSuffix ⟨members, conjuncts, some type⟩ type frames)
    "]" "]" (by simp [delimiters]) rfl rest
  have bracket := ends_delimiter "[" "[" (by simp [delimiters]) ("]".toList ++ rest)
  rw [List.append_assoc, List.append_assoc, reads _ _ _ _ bracket, opens, closes]

theorem reads_items {types : List TypeExpr} (readable : ∀ type ∈ types, Readable type)
    (nonempty : types ≠ []) {texts : List (List Char)} (written : charsOf 0 types = .ok texts)
    (items members conjuncts : List TypeExpr) (frames : List (Frame × Level)) (rest : List Char) :
    readFrom (.atType (.start []) ((.tuple items, ⟨members, conjuncts, none⟩) :: frames))
        (Text.joined ", ".toList texts ++ (" ]".toList ++ rest)) =
      readFrom (.atType ⟨members, conjuncts, some (tuple (items ++ normalAll types))⟩ frames)
        rest := by
  induction types generalizing texts items with
  | nil => exact absurd rfl nonempty
  | cons type others ih =>
    obtain ⟨first, after, hf, ht, rfl⟩ := charsOf_cons written
    have reads := (readable type (by simp) 0 first hf).1 rfl
    have flat := flat_normal type
    cases others with
    | nil =>
      obtain rfl := charsOf_nil ht
      exact reads.closed flat " ]" "]" (by simp [delimiters]) (by simp) rfl rest
    | cons next others =>
      obtain ⟨second, tail, -, -, rfl⟩ := charsOf_cons ht
      have back := ih (fun t h => readable t (List.mem_cons_of_mem _ h)) (by simp) ht
        (items ++ [type.normal])
      rw [List.append_assoc, List.singleton_append, ← normalAll_cons type] at back
      rw [joined_cons, List.append_assoc, List.append_assoc, ← back]
      exact reads.closed flat ", " "," (by simp [delimiters]) (by simp) rfl _

theorem word_of_identifier {s : String} (valid : isIdentifier s = true) :
    lexicon.Word s.toList := by
  unfold isIdentifier at valid
  split at valid
  · cases valid
  · rename_i c rest same
    rw [Bool.and_eq_true, List.all_eq_true] at valid
    obtain ⟨first, others⟩ := valid
    rw [same]
    refine ⟨by simp, ?_⟩
    intro d member
    rcases List.mem_cons.mp member with rfl | member
    · rcases Bool.or_eq_true _ _ ▸ first with h | h
      · simp [Lexicon.isPart, Char.isAlphanum, h]
      · simp [Lexicon.isPart, of_decide_eq_true h]
    · rcases Bool.or_eq_true _ _ ▸ others d member with h | h
      · simp [Lexicon.isPart, h]
      · simp [Lexicon.isPart, of_decide_eq_true h]

/-- A key is read as its text, quoted or not. -/
theorem readFrom_key (key : FieldKey) (fields : List (RecordField TypeExpr)) (outer : Level)
    (frames : List (Frame × Level)) (rest : List Char) :
    readFrom (.atKey fields outer frames) (key.chars ++ (": ".toList ++ rest)) =
      readFrom (.atType (.start []) ((.field fields key.text, outer) :: frames)) rest := by
  have colon := readFrom_delimiter (.atColon fields key.text outer frames) ": " ":"
    (by simp [delimiters]) rfl rest
  have quoted : readFrom (.atKey fields outer frames)
      (Text.quotedChars key.text.toList ++ (": ".toList ++ rest)) =
        readFrom (.atColon fields key.text outer frames) (": ".toList ++ rest) :=
    readFrom_text rfl _
  cases key with
  | string s => exact quoted.trans colon
  | symbol s =>
    rw [FieldKey.chars]
    split
    · rename_i plain
      have valid := (Bool.and_eq_true _ _ ▸ plain).1
      have stepped : (Reader.atKey fields outer frames).step (.word (String.ofList s.toList)) =
          some (.atColon fields s outer frames) := by
        rw [String.ofList_toList]
        rfl
      rw [readFrom_word (word_of_identifier valid)
        (ends_delimiter ": " ":" (by simp [delimiters]) rest) stepped]
      exact colon
    · exact quoted.trans colon

theorem fieldChars_cons {field : RecordField TypeExpr} {rest : List (RecordField TypeExpr)}
    {texts : List (List Char)} (written : fieldChars (field :: rest) = .ok texts) :
    ∃ body others, field.type.chars 0 = .ok body ∧ fieldChars rest = .ok others ∧
      texts = (field.key.chars ++ ": ".toList ++ body) :: others := by
  rw [fieldChars] at written
  obtain ⟨body, hb, written⟩ := bind_ok written
  obtain ⟨others, ho, written⟩ := bind_ok written
  cases written
  exact ⟨body, others, hb, ho, rfl⟩

theorem fieldChars_nil {texts : List (List Char)} (written : fieldChars [] = .ok texts) :
    texts = [] := by
  rw [fieldChars] at written
  cases written
  rfl

theorem reads_fields {fields : List (RecordField TypeExpr)}
    (readable : ∀ field ∈ fields, Readable field.type) (nonempty : fields ≠ [])
    {texts : List (List Char)} (written : fieldChars fields = .ok texts)
    (before : List (RecordField TypeExpr)) (members conjuncts : List TypeExpr)
    (frames : List (Frame × Level)) (rest : List Char) :
    readFrom (.atKey before ⟨members, conjuncts, none⟩ frames)
        (Text.joined "; ".toList texts ++ (" \x7d".toList ++ rest)) =
      readFrom (.atType ⟨members, conjuncts, some (record (before ++ normalFields fields))⟩ frames)
        rest := by
  induction fields generalizing texts before with
  | nil => exact absurd rfl nonempty
  | cons field others ih =>
    obtain ⟨body, after, hb, ht, rfl⟩ := fieldChars_cons written
    have reads := (readable field (by simp) 0 body hb).1 rfl
    have flat := flat_normal field.type
    cases others with
    | nil =>
      obtain rfl := fieldChars_nil ht
      rw [Text.joined, List.append_assoc, List.append_assoc, readFrom_key]
      exact reads.closed flat " \x7d" "\x7d" (by simp [delimiters]) (by simp) rfl rest
    | cons next others =>
      obtain ⟨second, tail, -, -, rfl⟩ := fieldChars_cons ht
      generalize next.key.chars ++ ": ".toList ++ second = text at ht ⊢
      have back := ih (fun f h => readable f (List.mem_cons_of_mem _ h)) (by simp) ht
        (before ++ [⟨.string field.key.text, field.type.normal⟩])
      rw [List.append_assoc, List.singleton_append, ← normalFields_cons field] at back
      rw [joined_cons, List.append_assoc, List.append_assoc, List.append_assoc, List.append_assoc,
        readFrom_key, ← back]
      exact reads.closed flat "; " ";" (by simp [delimiters]) (by simp) rfl _

theorem reads_base {name : BaseType} {cs : List Char} (written : name.chars = .ok cs) :
    ReadsOperand (base name) cs := by
  cases name with
  | any => cases written; exact reads_keyword (by simp [keywords])
  | void => cases written; exact reads_keyword (by simp [keywords])
  | nil => cases written; exact reads_keyword (by simp [keywords])
  | bool => cases written; exact reads_keyword (by simp [keywords])
  | _ => cases written

theorem reads_literal {value : LiteralType} {cs : List Char} (written : value.chars = .ok cs) :
    ReadsOperand (literal value).normal cs := by
  cases value with
  | string s => cases written; exact reads_text s
  | symbol s => cases written; exact reads_text s
  | integer n => cases written; exact reads_integer n
  | bool b => cases b <;> cases written <;> exact reads_keyword (by simp [keywords, normal])
  | float x => cases written

theorem reads_class {name : String} {args : List TypeExpr} {level : Nat} {cs : List Char}
    (readable : ∀ arg ∈ args, Readable arg)
    (plain : classPath name.toList = "Array".toList → ∀ arg ∈ args, ¬ arg.IsSum)
    (written : (classInstance name args).chars level = .ok cs) :
    ReadsOperand (classInstance name args).normal cs := by
  match args with
  | [] =>
    rw [chars] at written
    rw [normal, normalAll]
    split at written
    · rename_i path
      cases written
      rw [path, String.ofList_toList]
      exact reads_keyword (by simp [keywords])
    split at written
    · rename_i path
      cases written
      rw [path, String.ofList_toList]
      exact reads_keyword (by simp [keywords])
    · cases written
  | [item] =>
    rw [chars] at written
    rw [normal, normalAll, normalAll]
    split at written
    · rename_i path
      obtain ⟨body, hb, written⟩ := bind_ok written
      cases written
      rw [path, String.ofList_toList]
      have operand := (readable item (by simp) 0 body hb).2 (.inr (plain path item (by simp)))
      exact operand.array
    · cases written
  | first :: second :: rest =>
    rw [chars] at written
    cases written

theorem optionalMark_fixed (type : TypeExpr) :
    ∃ mark : String, optionalMark type = mark.toList ∧ (mark, "?") ∈ delimiters := by
  unfold optionalMark
  split
  · exact ⟨" ?", by decide, by simp [delimiters]⟩
  · exact ⟨"?", by decide, by simp [delimiters]⟩

/-- Unions and intersections stand bare or in parentheses, as their level demands. -/
theorem readable_parenthesized {type : TypeExpr} {level : Nat} {body : List Char}
    (sum : type.IsSum) (reads : ReadsMembers type.normal.membersOf body) :
    (level = 0 → ReadsMembers type.normal.membersOf (parenthesized level body)) ∧
      (level ≠ 0 ∨ ¬ type.IsSum → ReadsOperand type.normal (parenthesized level body)) := by
  constructor
  · rintro rfl
    exact reads
  · rintro (inner | other)
    · rw [parenthesized, if_neg inner]
      exact reads.parenthesized (flat_normal type)
    · exact absurd sum other

theorem readable_tuple {types : List TypeExpr} (readable : ∀ type ∈ types, Readable type) :
    Readable (tuple types) := by
  apply readable_of_operand
  intro level cs written members conjuncts frames rest ends
  have opens := readFrom_delimiter (.atType ⟨members, conjuncts, none⟩ frames) "[ " "["
    (by simp [delimiters]) rfl
  cases types with
  | nil =>
    rw [chars] at written
    cases written
    have closes := readFrom_delimiter
      (.atType (.start []) ((.tuple [], ⟨members, conjuncts, none⟩) :: frames)) "]" "]"
      (by simp [delimiters]) rfl rest
    have split : "[ ]".toList = "[ ".toList ++ "]".toList := by decide
    rw [split, List.append_assoc, opens, closes]
    rfl
  | cons type others =>
    rw [chars] at written
    obtain ⟨items, hi, written⟩ := bind_ok written
    cases written
    rw [List.append_assoc, List.append_assoc, opens, reads_items readable (by simp) hi]
    rfl

theorem readable_record {fields : List (RecordField TypeExpr)}
    (readable : ∀ field ∈ fields, Readable field.type) : Readable (record fields) := by
  apply readable_of_operand
  intro level cs written members conjuncts frames rest ends
  have opens := readFrom_delimiter (.atType ⟨members, conjuncts, none⟩ frames)
    "\x7b " "\x7b" (by simp [delimiters]) rfl
  cases fields with
  | nil =>
    rw [chars] at written
    cases written
    have closes := readFrom_delimiter
      (.atKey [] ⟨members, conjuncts, none⟩ frames) "\x7d" "\x7d"
      (by simp [delimiters]) rfl rest
    have split : "\x7b \x7d".toList = "\x7b ".toList ++ "\x7d".toList := by decide
    rw [split, List.append_assoc, opens, closes]
    rfl
  | cons field others =>
    rw [chars] at written
    obtain ⟨items, hi, written⟩ := bind_ok written
    cases written
    rw [List.append_assoc, List.append_assoc, opens, reads_fields readable (by simp) hi]
    rfl

theorem readable_union {types : List TypeExpr} (readable : ∀ type ∈ types, Readable type)
    (nonempty : types ≠ []) : Readable (union types) := by
  intro level cs written
  rw [chars] at written
  obtain ⟨items, hi, written⟩ := bind_ok written
  cases written
  have reads := readsMembers_joined readable nonempty hi
  rw [← membersOf_normal_union] at reads
  exact readable_parenthesized trivial reads

theorem readable_intersection {types : List TypeExpr}
    (readable : ∀ type ∈ types, Readable type) (nonempty : types ≠ []) :
    Readable (intersection types) := by
  intro level cs written
  rw [chars] at written
  obtain ⟨items, hi, written⟩ := bind_ok written
  cases written
  have reads := readsMembers_conjunction readable nonempty hi
  rw [← normal] at reads
  exact readable_parenthesized trivial reads

theorem readable_optional {type : TypeExpr} (readable : Readable type) :
    Readable (optional type) := by
  apply readable_of_operand
  intro level cs written
  rw [chars] at written
  obtain ⟨body, hb, written⟩ := bind_ok written
  cases written
  obtain ⟨mark, spelled, fixed⟩ := optionalMark_fixed type
  have operand := (readable 1 body hb).2 (.inl (by decide))
  rw [spelled, normal]
  exact operand.optional fixed

theorem readable_unsupported {type : TypeExpr}
    (unsupported : ∀ level cs, type.chars level ≠ .ok cs) : Readable type :=
  fun level cs written => absurd written (unsupported level cs)

mutual
theorem readable : (type : TypeExpr) → type.Admissible → Readable type
  | base _, _ => readable_of_operand fun _ _ written => by
    rw [chars] at written
    exact reads_base written
  | literal _, _ => readable_of_operand fun _ _ written => by
    rw [chars] at written
    exact reads_literal written
  | tuple types, admissible => readable_tuple (readableAll types admissible)
  | record fields, admissible => readable_record (readableFields fields admissible)
  | union types, ⟨nonempty, admissible⟩ => readable_union (readableAll types admissible) nonempty
  | intersection types, ⟨nonempty, admissible⟩ =>
    readable_intersection (readableAll types admissible) nonempty
  | optional type, admissible => readable_optional (readable type admissible)
  | classInstance _ args, ⟨plain, admissible⟩ =>
    readable_of_operand fun _ _ written => reads_class (readableAll args admissible) plain written
  | function _, _ => readable_unsupported (by simp [chars])
  | interface _ _, _ => readable_unsupported (by simp [chars])
  | classSingleton _, _ => readable_unsupported (by simp [chars])
  | .variable _, _ => readable_unsupported (by simp [chars])
  | typeAlias _, _ => readable_unsupported (by simp [chars])
  | proc _, _ => readable_unsupported (by simp [chars])

theorem readableAll : (types : List TypeExpr) → AdmissibleAll types →
    ∀ type ∈ types, Readable type
  | [], _, _, member => nomatch member
  | first :: rest, ⟨admissible, others⟩, type, member => by
    rcases List.mem_cons.mp member with same | member
    · exact same ▸ readable first admissible
    · exact readableAll rest others type member

theorem readableFields : (fields : List (RecordField TypeExpr)) → AdmissibleFields fields →
    ∀ field ∈ fields, Readable field.type
  | [], _, _, member => nomatch member
  | ⟨key, type⟩ :: rest, ⟨admissible, others⟩, field, member => by
    rcases List.mem_cons.mp member with same | member
    · exact same ▸ readable type admissible
    · exact readableFields rest others field member
end

theorem readText_text {type : TypeExpr} {s : String} (admissible : type.Admissible)
    (written : type.text 0 = .ok s) : readText s = some type.normal := by
  rw [text] at written
  cases hc : type.chars 0 with
  | error => rw [hc] at written; cases written
  | ok cs =>
    rw [hc] at written
    cases written
    have reads := ((readable type admissible) 0 cs hc).1 rfl
    obtain ⟨level, whole, same⟩ := reads.whole (flat_normal type) [] ends_nil
    rw [List.append_nil] at same
    rw [readText, String.toList_ofList, same, readFrom, Lexicon.tokens]
    simpa [Reader.result] using whole

/-- The text of a type is read as the normal form of the type, so that two types with the same text
have the same normal form. -/
theorem text_unambiguous {type : TypeExpr} {s : String} (admissible : type.Admissible)
    (written : type.text 0 = .ok s) :
    readText s = some type.normal ∧
      ∀ other : TypeExpr, other.Admissible → other.text 0 = .ok s →
        other.normal = type.normal := by
  have read := readText_text admissible written
  refine ⟨read, ?_⟩
  intro other admissible' written'
  exact Option.some.inj ((readText_text admissible' written').symm.trans read)

theorem text_unambiguous_nested :
    readText "any | null | number" =
        some (union [base .any, base .nil, classInstance "Integer" []]) ∧
      (union [base .any, union [base .nil, classInstance "Integer" []]]).normal =
        (union [union [base .any, base .nil], classInstance "::Integer" []]).normal := by
  have left : (union [union [base .any, base .nil], classInstance "::Integer" []]).Admissible := by
    simp [Admissible, AdmissibleAll, IsSum]
  have right : (union [base .any, union [base .nil, classInstance "Integer" []]]).Admissible := by
    simp [Admissible, AdmissibleAll, IsSum]
  obtain ⟨read, same⟩ := text_unambiguous (s := "any | null | number") left rfl
  exact ⟨read.trans rfl, same _ right rfl⟩

end RouteBindings.TypeExpr
