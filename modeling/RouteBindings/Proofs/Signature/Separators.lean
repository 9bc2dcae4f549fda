import RouteBindings.Proofs.Signature.Unambiguous

/-! Separators in type texts. Whether a `|` or an `&` stands outside all delimiters of a text can be
seen in the type, since everything but unions and intersections without parentheses and the suffixes
behind them puts its separators into delimiters. -/

namespace RouteBindings.TypeExpr

open Text (Token Lexicon)

def opens (token : Token) : Bool :=
  token = .mark "(" || token = .mark "[" || token = .mark "\x7b"

def closes (token : Token) : Bool :=
  token = .mark ")" || token = .mark "]" || token = .mark "\x7d"

def separates (token : Token) : Bool :=
  token = .mark "|" || token = .mark "&"

/-- Whether a separator stands outside all delimiters, of which so many are open already. -/
def separated : Nat → List Token → Bool
  | _, [] => false
  | depth, token :: rest =>
    if opens token then separated (depth + 1) rest
    else if closes token then separated (depth - 1) rest
    else (depth = 0 && separates token) || separated depth rest

/-- These tokens close what they open, and whether they have a separator outside is known. -/
def Scans (shown : Bool) (ts : List Token) : Prop :=
  ∀ depth us, separated depth (ts ++ us) = ((depth = 0 && shown) || separated depth us)

namespace Scans

variable {a b : Bool} {ts us : List Token}

theorem nil : Scans false [] := by
  intro depth us
  simp

theorem token {t : Token} (opening : opens t = false) (closing : closes t = false) :
    Scans (separates t) [t] := by
  intro depth us
  simp [separated, opening, closing]

theorem append (first : Scans a ts) (second : Scans b us) : Scans (a || b) (ts ++ us) := by
  intro depth vs
  rw [List.append_assoc, first, second, ← Bool.or_assoc, ← Bool.and_or_distrib_left]

theorem delimited {opening closing : Token} (start : opens opening = true)
    (stop : opens closing = false ∧ closes closing = true) (inside : Scans a ts) :
    Scans false (opening :: (ts ++ [closing])) := by
  intro depth us
  rw [List.cons_append, List.append_assoc, separated, if_pos start, inside, List.cons_append,
    separated, if_neg (by simp [stop.1]), if_pos stop.2]
  simp

end Scans

/-- Where a word may end behind them, these characters are these tokens. -/
def Writes (cs : List Char) (ts : List Token) : Prop :=
  ∀ rest, Ends rest → lexicon.tokens (cs ++ rest) = (lexicon.tokens rest).map (ts ++ ·)

namespace Writes

variable {cs ds : List Char} {ts us : List Token}

theorem nil : Writes [] [] := by
  intro rest _
  rw [List.nil_append]
  cases lexicon.tokens rest <;> simp

theorem of_lexes (lexes : lexicon.Lexes cs ts) : Writes cs ts :=
  fun rest _ => lexes rest

theorem of_word (word : lexicon.Word cs) : Writes cs [.word (String.ofList cs)] :=
  fun _ ends => word.tokens ends

theorem append (first : Writes cs ts) (second : Writes ds us)
    (ends : ∀ rest, Ends rest → Ends (ds ++ rest)) : Writes (cs ++ ds) (ts ++ us) := by
  intro rest after
  rw [List.append_assoc, first _ (ends rest after), second rest after, Option.map_map]
  cases lexicon.tokens rest <;> simp

theorem behind {text mark : String} (fixed : (text, mark) ∈ delimiters) (second : Writes ds us) :
    Writes (text.toList ++ ds) (.mark mark :: us) := by
  intro rest after
  rw [List.append_assoc, lexes_delimiter fixed, second rest after, Option.map_map]
  cases lexicon.tokens rest <;> simp

theorem around (first : Writes cs ts) (text mark : String) (fixed : (text, mark) ∈ delimiters)
    (second : Writes ds us) : Writes (cs ++ (text.toList ++ ds)) (ts ++ .mark mark :: us) := by
  apply first.append (second.behind fixed)
  intro rest _
  rw [List.append_assoc]
  exact ends_delimiter text mark fixed (ds ++ rest)

theorem tokens (writes : Writes cs ts) : lexicon.tokens cs = some ts := by
  have alone := writes [] ends_nil
  rw [List.append_nil, Lexicon.tokens] at alone
  simpa using alone

end Writes

def Shows (shown : Bool) (cs : List Char) : Prop :=
  ∃ ts, Writes cs ts ∧ Scans shown ts

namespace Shows

variable {a b : Bool} {cs ds : List Char}

theorem unique (first : Shows a cs) (second : Shows b cs) : a = b := by
  obtain ⟨ts, writes, scans⟩ := first
  obtain ⟨us, writes', scans'⟩ := second
  obtain rfl : ts = us := Option.some.inj (writes.tokens.symm.trans writes'.tokens)
  have same := (scans 0 []).symm.trans (scans' 0 [])
  simpa [separated] using same

theorem nil : Shows false [] :=
  ⟨[], .nil, .nil⟩

theorem word (word : lexicon.Word cs) : Shows false cs :=
  ⟨_, .of_word word, Scans.token (by simp [opens]) (by simp [closes])⟩

theorem keyword {s : String} (known : s ∈ keywords.map Prod.fst) : Shows false s.toList := by
  obtain ⟨⟨s, type⟩, listed, rfl⟩ := List.mem_map.mp known
  exact .word (word_keyword listed).1

theorem quoted (s : String) : Shows false (Text.quotedChars s.toList) :=
  ⟨_, .of_lexes (Lexicon.lexes_text s), Scans.token (by simp [opens]) (by simp [closes])⟩

theorem around (first : Shows a cs) (text mark : String) (fixed : (text, mark) ∈ delimiters)
    (inner : opens (.mark mark) = false ∧ closes (.mark mark) = false) (second : Shows b ds) :
    Shows (a || (separates (.mark mark) || b)) (cs ++ (text.toList ++ ds)) := by
  obtain ⟨ts, writes, scans⟩ := first
  obtain ⟨us, writes', scans'⟩ := second
  have behind := (Scans.token inner.1 inner.2).append scans'
  exact ⟨_, writes.around text mark fixed writes', scans.append behind⟩

theorem suffix {text mark : String} (first : Shows a cs) (fixed : (text, mark) ∈ delimiters)
    (inner : opens (.mark mark) = false ∧ closes (.mark mark) = false)
    (plain : separates (.mark mark) = false) : Shows a (cs ++ text.toList) := by
  have whole := first.around text mark fixed inner .nil
  rwa [plain, Bool.or_false, Bool.or_false, List.append_nil] at whole

theorem delimited (inside : Shows a cs) (left opening right closing : String)
    (fixed : (left, opening) ∈ delimiters) (fixed' : (right, closing) ∈ delimiters)
    (start : opens (.mark opening) = true)
    (stop : opens (.mark closing) = false ∧ closes (.mark closing) = true) :
    Shows false (left.toList ++ (cs ++ right.toList)) := by
  obtain ⟨ts, writes, scans⟩ := inside
  have body := (writes.around right closing fixed' .nil).behind fixed
  rw [List.append_nil] at body
  exact ⟨_, body, scans.delimited start stop⟩

theorem array (item : Shows a cs) : Shows a (cs ++ ['[', ']']) := by
  obtain ⟨ts, writes, scans⟩ := item
  have closing : Writes "]".toList [.mark "]"] :=
    .of_lexes (lexes_delimiter (by simp [delimiters]))
  have pair := writes.around "[" "[" (by simp [delimiters]) closing
  have empty : Scans false [.mark "[", .mark "]"] := Scans.nil.delimited (by decide) (by decide)
  have shown := scans.append empty
  rw [Bool.or_false] at shown
  exact ⟨_, pair, shown⟩

end Shows

mutual
def exposed (level : Nat) : TypeExpr → Bool
  | union types => level = 0 && (1 < types.length || exposedAny 0 types)
  | intersection types => level = 0 && (1 < types.length || exposedAny 2 types)
  | optional type => type.exposed 1
  | classInstance _ args => exposedAny 0 args
  | _ => false

def exposedAny (level : Nat) : List TypeExpr → Bool
  | [] => false
  | type :: rest => type.exposed level || exposedAny level rest
end

/-- At every level the text of this type shows what the type exposes. -/
def Faithful (type : TypeExpr) : Prop :=
  ∀ level cs, type.chars level = .ok cs → Shows (type.exposed level) cs

theorem shows_joined {types : List TypeExpr} (faithful : ∀ type ∈ types, Faithful type)
    {level : Nat} {items : List (List Char)} (written : charsOf level types = .ok items)
    (text mark : String) (fixed : (text, mark) ∈ delimiters)
    (inner : opens (.mark mark) = false ∧ closes (.mark mark) = false) :
    Shows ((separates (.mark mark) && decide (1 < types.length)) || exposedAny level types)
      (Text.joined text.toList items) := by
  induction types generalizing items with
  | nil =>
    obtain rfl := charsOf_nil written
    rw [exposedAny, Text.joined]
    simpa using Shows.nil
  | cons type others ih =>
    obtain ⟨first, texts, hf, ht, rfl⟩ := charsOf_cons written
    have here := faithful type List.mem_cons_self level first hf
    cases others with
    | nil =>
      obtain rfl := charsOf_nil ht
      simpa [exposedAny, Text.joined] using here
    | cons next others =>
      obtain ⟨second, rest, -, -, rfl⟩ := charsOf_cons ht
      have tail := ih (fun t h => faithful t (List.mem_cons_of_mem _ h)) ht
      have whole := here.around text mark fixed inner tail
      rw [joined_cons, exposedAny]
      convert whole using 1
      cases separates (.mark mark) <;> simp

theorem shows_key (key : FieldKey) : Shows false key.chars := by
  cases key with
  | string s => exact .quoted s
  | symbol s =>
    rw [FieldKey.chars]
    split
    · rename_i plain
      exact .word (word_of_identifier (Bool.and_eq_true _ _ ▸ plain).1)
    · exact .quoted s

theorem shows_fields {fields : List (RecordField TypeExpr)}
    (faithful : ∀ field ∈ fields, Faithful field.type) {texts : List (List Char)}
    (written : fieldChars fields = .ok texts) :
    ∃ shown, Shows shown (Text.joined "; ".toList texts) := by
  induction fields generalizing texts with
  | nil =>
    obtain rfl := fieldChars_nil written
    exact ⟨_, .nil⟩
  | cons field others ih =>
    obtain ⟨body, after, hb, ht, rfl⟩ := fieldChars_cons written
    have type := faithful field List.mem_cons_self 0 body hb
    have here := (shows_key field.key).around ": " ":" (by simp [delimiters])
      (by decide) type
    rw [← List.append_assoc] at here
    cases others with
    | nil =>
      obtain rfl := fieldChars_nil ht
      exact ⟨_, by simpa [Text.joined] using here⟩
    | cons next others =>
      obtain ⟨second, tail, -, -, rfl⟩ := fieldChars_cons ht
      obtain ⟨shown, rest⟩ := ih (fun f h => faithful f (List.mem_cons_of_mem _ h)) ht
      rw [joined_cons]
      exact ⟨_, here.around "; " ";" (by simp [delimiters]) (by decide) rest⟩

theorem Shows.parenthesized {shown : Bool} {body : List Char} (inside : Shows shown body)
    (level : Nat) : Shows (level = 0 && shown) (parenthesized level body) := by
  rw [RouteBindings.parenthesized]
  split
  · rename_i top
    simpa [top] using inside
  · rename_i inner
    simpa [inner] using inside.delimited "(" "(" ")" ")" (by simp [delimiters])
      (by simp [delimiters]) (by decide) (by decide)

theorem shows_base {name : BaseType} {cs : List Char} (written : name.chars = .ok cs) :
    Shows false cs := by
  cases name with
  | any => cases written; exact .keyword (by simp [keywords])
  | void => cases written; exact .keyword (by simp [keywords])
  | nil => cases written; exact .keyword (by simp [keywords])
  | bool => cases written; exact .keyword (by simp [keywords])
  | _ => cases written

theorem shows_integer (n : Int64) : Shows false (toString n.toInt).toList := by
  rw [Int.toString_eq_repr, Int.repr_eq_if]
  split
  · exact .word (word_repr _)
  · rw [String.toList_append]
    exact Shows.nil.around "-" "-" (by simp [delimiters]) (by decide)
      (.word (word_repr _))

theorem shows_literal {value : LiteralType} {cs : List Char} (written : value.chars = .ok cs) :
    Shows false cs := by
  cases value with
  | string s => cases written; exact .quoted s
  | symbol s => cases written; exact .quoted s
  | integer n => cases written; exact shows_integer n
  | bool b => cases b <;> cases written <;> exact .keyword (by simp [keywords])
  | float x => cases written

theorem faithful_tuple {types : List TypeExpr} (faithful : ∀ type ∈ types, Faithful type) :
    Faithful (tuple types) := by
  intro level cs written
  have bracketed : ∀ {shown body}, Shows shown body → ∀ right, (right, "]") ∈ delimiters →
      Shows false ("[ ".toList ++ (body ++ right.toList)) := by
    intro shown body inside right fixed
    exact inside.delimited "[ " "[" right "]" (by simp [delimiters]) fixed (by decide) (by decide)
  cases types with
  | nil =>
    rw [chars] at written
    cases written
    exact bracketed .nil "]" (by simp [delimiters])
  | cons type others =>
    rw [chars] at written
    obtain ⟨items, hi, written⟩ := bind_ok written
    cases written
    rw [List.append_assoc]
    exact bracketed (shows_joined faithful hi ", " "," (by simp [delimiters]) (by decide))
      " ]" (by simp [delimiters])

theorem faithful_record {fields : List (RecordField TypeExpr)}
    (faithful : ∀ field ∈ fields, Faithful field.type) : Faithful (record fields) := by
  intro level cs written
  have braced : ∀ {shown body}, Shows shown body → ∀ right, (right, "\x7d") ∈ delimiters →
      Shows false ("\x7b ".toList ++ (body ++ right.toList)) := by
    intro shown body inside right fixed
    exact inside.delimited "\x7b " "\x7b" right "\x7d" (by simp [delimiters]) fixed (by decide)
      (by decide)
  cases fields with
  | nil =>
    rw [chars] at written
    cases written
    exact braced .nil "\x7d" (by simp [delimiters])
  | cons field others =>
    rw [chars] at written
    obtain ⟨items, hi, written⟩ := bind_ok written
    cases written
    obtain ⟨shown, inside⟩ := shows_fields faithful hi
    rw [List.append_assoc]
    exact braced inside " \x7d" (by simp [delimiters])

theorem faithful_union {types : List TypeExpr} (faithful : ∀ type ∈ types, Faithful type) :
    Faithful (union types) := by
  intro level cs written
  rw [chars] at written
  obtain ⟨items, hi, written⟩ := bind_ok written
  cases written
  have body := shows_joined faithful hi " | " "|" (by simp [delimiters]) (by decide)
  exact body.parenthesized level

theorem faithful_intersection {types : List TypeExpr}
    (faithful : ∀ type ∈ types, Faithful type) : Faithful (intersection types) := by
  intro level cs written
  rw [chars] at written
  obtain ⟨items, hi, written⟩ := bind_ok written
  cases written
  have body := shows_joined faithful hi " & " "&" (by simp [delimiters]) (by decide)
  exact body.parenthesized level

theorem faithful_optional {type : TypeExpr} (faithful : Faithful type) :
    Faithful (optional type) := by
  intro level cs written
  rw [chars] at written
  obtain ⟨body, hb, written⟩ := bind_ok written
  cases written
  obtain ⟨mark, spelled, fixed⟩ := optionalMark_fixed type
  rw [spelled, exposed]
  exact (faithful 1 body hb).suffix fixed (by decide) (by decide)

theorem faithful_class {name : String} {args : List TypeExpr}
    (faithful : ∀ arg ∈ args, Faithful arg) : Faithful (classInstance name args) := by
  intro level cs written
  match args with
  | [] =>
    rw [chars] at written
    split at written
    · cases written
      exact .keyword (by simp [keywords])
    split at written
    · cases written
      exact .keyword (by simp [keywords])
    · cases written
  | [item] =>
    rw [chars] at written
    split at written
    · obtain ⟨body, hb, written⟩ := bind_ok written
      cases written
      have shown := (faithful item List.mem_cons_self 0 body hb).array
      simpa [exposed, exposedAny] using shown
    · cases written
  | first :: second :: rest =>
    rw [chars] at written
    cases written

theorem faithful_of_unsupported {type : TypeExpr}
    (unsupported : ∀ level cs, type.chars level ≠ .ok cs) : Faithful type :=
  fun level cs written => absurd written (unsupported level cs)

mutual
theorem faithful : (type : TypeExpr) → Faithful type
  | base _ => fun _ _ written => by
    rw [chars] at written
    exact shows_base written
  | literal _ => fun _ _ written => by
    rw [chars] at written
    exact shows_literal written
  | tuple types => faithful_tuple (faithfulAll types)
  | record fields => faithful_record (faithfulFields fields)
  | union types => faithful_union (faithfulAll types)
  | intersection types => faithful_intersection (faithfulAll types)
  | optional type => faithful_optional (faithful type)
  | classInstance _ args => faithful_class (faithfulAll args)
  | function _ => faithful_of_unsupported (by simp [chars])
  | interface _ _ => faithful_of_unsupported (by simp [chars])
  | classSingleton _ => faithful_of_unsupported (by simp [chars])
  | .variable _ => faithful_of_unsupported (by simp [chars])
  | typeAlias _ => faithful_of_unsupported (by simp [chars])
  | proc _ => faithful_of_unsupported (by simp [chars])

theorem faithfulAll : (types : List TypeExpr) → ∀ type ∈ types, Faithful type
  | [], _, member => nomatch member
  | first :: rest, type, member => by
    rcases List.mem_cons.mp member with same | member
    · exact same ▸ faithful first
    · exact faithfulAll rest type member

theorem faithfulFields : (fields : List (RecordField TypeExpr)) →
    ∀ field ∈ fields, Faithful field.type
  | [], _, member => nomatch member
  | ⟨key, type⟩ :: rest, field, member => by
    rcases List.mem_cons.mp member with same | member
    · exact same ▸ faithful type
    · exact faithfulFields rest field member
end

end RouteBindings.TypeExpr
