import RouteBindings.Proofs.Signature.Normal
import RouteBindings.Proofs.Text.Token

namespace RouteBindings.TypeExpr

open Text (Token Lexicon)

/-- What has been read since the last delimiter: the members up to the last `|`, the conjuncts
behind it and the type that suffixes may follow. -/
structure Level where
  members : List TypeExpr
  conjuncts : List TypeExpr
  operand : Option TypeExpr

namespace Level

def start (members : List TypeExpr) : Level :=
  ⟨members, [], none⟩

def all (level : Level) : Option (List TypeExpr) :=
  level.operand.map fun type =>
    level.members ++ membersOf (conjunction (level.conjuncts ++ [type]))

def whole (level : Level) : Option TypeExpr :=
  level.all.map disjunction

end Level

inductive Frame where
  | parenthesis
  | tuple (items : List TypeExpr)
  | field (fields : List (RecordField TypeExpr)) (key : String)

inductive Reader where
  | atType (level : Level) (frames : List (Frame × Level))
  | atDigits (level : Level) (frames : List (Frame × Level))
  | atSuffix (level : Level) (type : TypeExpr) (frames : List (Frame × Level))
  | atKey (fields : List (RecordField TypeExpr)) (outer : Level) (frames : List (Frame × Level))
  | atColon (fields : List (RecordField TypeExpr)) (key : String) (outer : Level)
      (frames : List (Frame × Level))

def number? (s : String) : Option Int :=
  if s.toList.all Char.isDigit then some (Nat.ofDigitChars 10 s.toList 0) else none

def keywords : List (String × TypeExpr) :=
  [("any", base .any), ("void", base .void), ("null", base .nil), ("boolean", base .bool),
    ("number", classInstance "Integer" []), ("string", classInstance "String" []),
    ("true", literal (.bool true)), ("false", literal (.bool false))]

def ofWord (s : String) : Option TypeExpr :=
  match number? s with
  | some n => some (literal (.integer (Int64.ofInt n)))
  | none => keywords.lookup s

namespace Reader

def place (level : Level) (frames : List (Frame × Level)) (type : TypeExpr) : Option Reader :=
  match level.operand with
  | none => some (.atType { level with operand := some type } frames)
  | some _ => none

def opened (level : Level) (frames : List (Frame × Level)) : String → Option Reader
  | "(" => some (.atType (.start []) ((.parenthesis, level) :: frames))
  | "[" => some (.atType (.start []) ((.tuple [], level) :: frames))
  | "\x7b" => some (.atKey [] level frames)
  | "-" => some (.atDigits level frames)
  | _ => none

def suffixed (level : Level) (type : TypeExpr) (frames : List (Frame × Level)) :
    String → Option Reader
  | "?" => some (.atType { level with operand := some (optional type) } frames)
  | "[" => some (.atSuffix level type frames)
  | "&" => some (.atType ⟨level.members, level.conjuncts ++ [type], none⟩ frames)
  | "|" => level.all.map fun members => .atType (.start members) frames
  | _ => none

def closed (type : TypeExpr) : List (Frame × Level) → String → Option Reader
  | (.parenthesis, outer) :: frames, ")" => place outer frames type
  | (.tuple items, outer) :: frames, "," =>
    some (.atType (.start []) ((.tuple (items ++ [type]), outer) :: frames))
  | (.tuple items, outer) :: frames, "]" => place outer frames (tuple (items ++ [type]))
  | (.field fields key, outer) :: frames, ";" =>
    some (.atKey (fields ++ [⟨.string key, type⟩]) outer frames)
  | (.field fields key, outer) :: frames, "\x7d" =>
    place outer frames (record (fields ++ [⟨.string key, type⟩]))
  | _, _ => none

def step : Reader → Token → Option Reader
  | .atType level frames, .word s => (ofWord s).bind (place level frames)
  | .atType level frames, .text s => place level frames (literal (.string s))
  | .atType ⟨[], [], none⟩ ((.tuple [], outer) :: frames), .mark "]" =>
    place outer frames (tuple [])
  | .atType level frames, .mark s =>
    match level.operand with
    | none => opened level frames s
    | some type =>
      (suffixed level type frames s).or (level.whole.bind fun type => closed type frames s)
  | .atDigits level frames, .word s =>
    (number? s).bind fun n => place level frames (literal (.integer (Int64.ofInt (-n))))
  | .atSuffix level type frames, .mark "]" =>
    some (.atType { level with operand := some (classInstance "Array" [type]) } frames)
  | .atKey fields outer frames, .word s => some (.atColon fields s outer frames)
  | .atKey fields outer frames, .text s => some (.atColon fields s outer frames)
  | .atKey [] outer frames, .mark "\x7d" => place outer frames (record [])
  | .atColon fields key outer frames, .mark ":" =>
    some (.atType (.start []) ((.field fields key, outer) :: frames))
  | _, _ => none

def result : Reader → Option TypeExpr
  | .atType level [] => level.whole
  | _ => none

end Reader

def lexicon : Lexicon :=
  ⟨fun _ => false, fun _ => false, fun _ => false⟩

def readFrom (reader : Reader) (cs : List Char) : Option TypeExpr :=
  (lexicon.tokens cs).bind fun ts => (ts.foldlM Reader.step reader).bind Reader.result

def readText (s : String) : Option TypeExpr :=
  readFrom (.atType (.start []) []) s.toList

def Ends (cs : List Char) : Prop :=
  ∀ c ∈ cs.head?, lexicon.isPart c = false

theorem ends_nil : Ends [] := by
  simp [Ends]

theorem readFrom_token {reader next : Reader} {cs : List Char} {token : Token}
    (lexes : lexicon.Lexes cs [token]) (stepped : reader.step token = some next)
    (rest : List Char) : readFrom reader (cs ++ rest) = readFrom next rest := by
  unfold readFrom
  rw [lexes]
  cases lexicon.tokens rest with
  | none => rfl
  | some ts => simp [stepped]

theorem readFrom_text {reader next : Reader} {s : String}
    (stepped : reader.step (.text s) = some next) (rest : List Char) :
    readFrom reader (Text.quotedChars s.toList ++ rest) = readFrom next rest :=
  readFrom_token (Lexicon.lexes_text s) stepped rest

theorem readFrom_word {reader next : Reader} {cs rest : List Char} (word : lexicon.Word cs)
    (ends : Ends rest) (stepped : reader.step (.word (String.ofList cs)) = some next) :
    readFrom reader (cs ++ rest) = readFrom next rest := by
  unfold readFrom
  rw [word.tokens ends]
  cases lexicon.tokens rest with
  | none => rfl
  | some ts => simp [stepped]

def delimiters : List (String × String) :=
  [("(", "("), (")", ")"), ("[", "["), ("]", "]"), ("[ ", "["), (" ]", "]"), (", ", ","),
    ("\x7b ", "\x7b"), ("\x7d", "\x7d"), (" \x7d", "\x7d"), (": ", ":"), ("; ", ";"),
    (" | ", "|"), (" & ", "&"), ("?", "?"), (" ?", "?"), ("-", "-")]

theorem lexes_delimiter {text mark : String} (fixed : (text, mark) ∈ delimiters) :
    lexicon.Lexes text.toList [.mark mark] := by
  intro rest
  simp only [delimiters, List.mem_cons, Prod.mk.injEq, List.not_mem_nil, or_false] at fixed
  rcases fixed with ⟨rfl, rfl⟩ | ⟨rfl, rfl⟩ | ⟨rfl, rfl⟩ | ⟨rfl, rfl⟩ | ⟨rfl, rfl⟩ | ⟨rfl, rfl⟩ |
    ⟨rfl, rfl⟩ | ⟨rfl, rfl⟩ | ⟨rfl, rfl⟩ | ⟨rfl, rfl⟩ | ⟨rfl, rfl⟩ | ⟨rfl, rfl⟩ | ⟨rfl, rfl⟩ |
    ⟨rfl, rfl⟩ | ⟨rfl, rfl⟩ | ⟨rfl, rfl⟩ | ⟨rfl, rfl⟩
  all_goals simp [Lexicon.tokens, Lexicon.isPart, lexicon]

theorem readFrom_delimiter (reader : Reader) {next : Reader} (text mark : String)
    (fixed : (text, mark) ∈ delimiters) (stepped : reader.step (.mark mark) = some next)
    (rest : List Char) : readFrom reader (text.toList ++ rest) = readFrom next rest :=
  readFrom_token (lexes_delimiter fixed) stepped rest

theorem ends_delimiter (text mark : String) (fixed : (text, mark) ∈ delimiters)
    (rest : List Char) : Ends (text.toList ++ rest) := by
  simp only [delimiters, List.mem_cons, Prod.mk.injEq, List.not_mem_nil, or_false] at fixed
  rcases fixed with ⟨rfl, -⟩ | ⟨rfl, -⟩ | ⟨rfl, -⟩ | ⟨rfl, -⟩ | ⟨rfl, -⟩ | ⟨rfl, -⟩ | ⟨rfl, -⟩ |
    ⟨rfl, -⟩ | ⟨rfl, -⟩ | ⟨rfl, -⟩ | ⟨rfl, -⟩ | ⟨rfl, -⟩ | ⟨rfl, -⟩ | ⟨rfl, -⟩ | ⟨rfl, -⟩ |
    ⟨rfl, -⟩ | ⟨rfl, -⟩
  all_goals simp [Ends, Lexicon.isPart, lexicon]

theorem word_keyword {s : String} {type : TypeExpr} (known : (s, type) ∈ keywords) :
    lexicon.Word s.toList ∧ ofWord s = some type := by
  simp only [keywords, List.mem_cons, Prod.mk.injEq, List.not_mem_nil, or_false] at known
  rcases known with ⟨rfl, rfl⟩ | ⟨rfl, rfl⟩ | ⟨rfl, rfl⟩ | ⟨rfl, rfl⟩ | ⟨rfl, rfl⟩ | ⟨rfl, rfl⟩ |
    ⟨rfl, rfl⟩ | ⟨rfl, rfl⟩
  all_goals exact ⟨⟨by decide, by simp [Lexicon.isPart]⟩, rfl⟩

theorem number_repr (n : Nat) : number? n.repr = some (n : Int) := by
  have digits : (Nat.toDigits 10 n).all Char.isDigit = true := by
    rw [List.all_eq_true]
    exact fun c h => Nat.isDigit_of_mem_toDigits (by decide) (by decide) h
  unfold number?
  rw [Nat.toList_repr, if_pos digits, Nat.ofDigitChars_ten_toDigits]

theorem word_repr (n : Nat) : lexicon.Word n.repr.toList := by
  rw [Nat.toList_repr]
  refine ⟨Nat.toDigits_ne_nil, ?_⟩
  intro c h
  have digit := Nat.isDigit_of_mem_toDigits (by decide) (by decide) h
  simp [Lexicon.isPart, Char.isAlphanum, digit]

end RouteBindings.TypeExpr
