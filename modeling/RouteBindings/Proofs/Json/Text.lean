import RouteBindings.Json.Text
import RouteBindings.Proofs.Json.Numerals

namespace RouteBindings

namespace Json

mutual
def draft : Json → Draft
  | null => .null
  | bool b => .bool b
  | number n => .number n
  | string s => .string s
  | array items => .array (drafts items) true
  | object entries => .object (entryDrafts entries) true

def drafts : List Json → List Draft
  | [] => []
  | item :: rest => item.draft :: drafts rest

def entryDrafts : List (String × Json) → List (Option String × Draft)
  | [] => []
  | (name, value) :: rest => (some name, value.draft) :: entryDrafts rest
end

mutual
def numerals : Json → List Numeral
  | number n => [n]
  | array items => itemNumerals items
  | object entries => entryNumerals entries
  | _ => []

def itemNumerals : List Json → List Numeral
  | [] => []
  | item :: rest => item.numerals ++ itemNumerals rest

def entryNumerals : List (String × Json) → List Numeral
  | [] => []
  | (_, value) :: rest => value.numerals ++ entryNumerals rest
end

def entryText (entry : String × Json) : List Char :=
  Text.quotedChars entry.1.toList ++ ':' :: entry.2.text.toList

def itemTail (items : List Json) : List Char :=
  items.flatMap fun v => ',' :: v.text.toList

def entryTail (entries : List (String × Json)) : List Char :=
  entries.flatMap fun entry => ',' :: entryText entry

theorem intercalate_cons (first : List Char) (rest : List (List Char)) :
    [','].intercalate (first :: rest) = first ++ rest.flatMap (',' :: ·) := by
  induction rest generalizing first with
  | nil => simp
  | cons next rest ih =>
    rw [List.intercalate_cons_cons, ih, List.flatMap_cons, List.append_assoc]
    rfl

theorem itemTexts_eq (items : List Json) : itemTexts items = items.map text := by
  induction items with
  | nil => rfl
  | cons item rest ih => rw [itemTexts, ih, List.map_cons]

theorem entryTexts_eq (entries : List (String × Json)) :
    entryTexts entries = entries.map fun (name, v) => Text.quote name ++ ":" ++ v.text := by
  induction entries with
  | nil => rfl
  | cons entry rest ih => rw [entryTexts, ih, List.map_cons]

theorem toList_text_array (v : Json) (items : List Json) :
    (array (v :: items)).text.toList = '[' :: (v.text.toList ++ itemTail items ++ [']']) := by
  simp [text, itemTexts_eq, itemTail, intercalate_cons, List.flatMap_map]

theorem toList_text_object (entry : String × Json) (entries : List (String × Json)) :
    (object (entry :: entries)).text.toList =
      '\x7b' :: (entryText entry ++ entryTail entries ++ ['\x7d']) := by
  simp [text, entryTexts_eq, entryTail, entryText, intercalate_cons, List.flatMap_map, Text.quote]

theorem toList_text_string (s : String) : (string s).text.toList = Text.quotedChars s.toList := by
  rw [text, Text.quote, String.toList_ofList]

end Json

namespace Draft

theorem skipBlanks_skipBlanks (cs : List Char) : skipBlanks (skipBlanks cs) = skipBlanks cs := by
  unfold skipBlanks
  induction cs with
  | nil => rfl
  | cons c tail ih =>
    rw [List.dropWhile_cons]
    split
    · exact ih
    · rename_i other
      rw [List.dropWhile_cons, if_neg other]

theorem scanValue_skipBlanks (fuel : Nat) (cs : List Char) :
    scanValue fuel (skipBlanks cs) = scanValue fuel cs := by
  cases fuel with
  | zero => rfl
  | succ fuel => rw [scanValue, scanValue, skipBlanks_skipBlanks]

theorem scanItems_skipBlanks (fuel : Nat) (cs : List Char) :
    scanItems fuel (skipBlanks cs) = scanItems fuel cs := by
  cases fuel with
  | zero => rfl
  | succ fuel => rw [scanItems, scanItems, scanValue_skipBlanks]

theorem scanValue_bracket (fuel : Nat) (cs : List Char) :
    scanValue (fuel + 1) ('[' :: cs) =
      match skipBlanks cs with
      | ']' :: rest => (array [] true, some rest)
      | rest => (array (scanItems fuel rest).1 (scanItems fuel rest).2.isSome,
          (scanItems fuel rest).2) := by
  rw [scanValue]
  rfl

theorem scanValue_items (fuel : Nat) {cs tail : List Char} {c : Char}
    (skipped : skipBlanks cs = c :: tail) (other : c ≠ ']') :
    scanValue (fuel + 1) ('[' :: cs) =
      (.array (scanItems fuel cs).1 (scanItems fuel cs).2.isSome, (scanItems fuel cs).2) := by
  rw [← scanItems_skipBlanks fuel cs, scanValue_bracket, skipped]
  split
  · rename_i same
    exact (other (List.cons.inj same).1).elim
  · rfl

theorem scanValue_entries (fuel : Nat) {cs tail : List Char} (quoted : cs = '"' :: tail) :
    scanValue (fuel + 1) ('\x7b' :: cs) =
      (.object (scanEntries fuel cs).1 (scanEntries fuel cs).2.isSome,
        (scanEntries fuel cs).2) := by
  subst quoted
  rw [scanValue]
  rfl

theorem scanEntries_quote (fuel : Nat) (cs : List Char) :
    scanEntries (fuel + 1) ('"' :: cs) =
      match scanText cs with
      | none => ([], none)
      | some (name, rest) =>
        match skipBlanks rest with
        | ':' :: rest =>
          match scanValue fuel rest with
          | (value, none) => ([(name, value)], none)
          | (value, some rest) =>
            match skipBlanks rest with
            | '\x7d' :: rest => ([(name, value)], some rest)
            | ',' :: rest =>
              ((name, value) :: (scanEntries fuel rest).1, (scanEntries fuel rest).2)
            | _ => ([(name, value)], none)
        | _ => ([(name, broken)], none) := by
  rw [scanEntries]
  rfl

/-- One entry of an object, and then what follows it. -/
theorem scanEntries_entry (fuel : Nat) (name : String) {d : Draft} {cs rest : List Char}
    (read : scanValue fuel cs = (d, some rest)) :
    scanEntries (fuel + 1) (Text.quotedChars name.toList ++ ':' :: cs) =
      match skipBlanks rest with
      | '\x7d' :: rest => ([(some name, d)], some rest)
      | ',' :: rest => ((some name, d) :: (scanEntries fuel rest).1, (scanEntries fuel rest).2)
      | _ => ([(some name, d)], none) := by
  have quoted : Text.quotedChars name.toList ++ ':' :: cs =
      '"' :: (name.toList.flatMap Text.quotedChar ++ '"' :: ':' :: cs) := by
    simp [Text.quotedChars]
  have colon : skipBlanks (':' :: cs) = ':' :: cs := rfl
  rw [quoted, scanEntries_quote]
  simp only [Text.scanText_quoted, String.ofList_toList, colon, read]

/-- What follows a value inside an array or an object ends a number, too. -/
theorem endsNumber_mark {c : Char} (mark : c = ',' ∨ c = ']' ∨ c = '\x7d') (rest : List Char) :
    EndsNumber (c :: rest) := by
  rcases mark with rfl | rfl | rfl
  all_goals simp [EndsNumber]

end Draft

namespace Json

open Draft (skipBlanks scanValue scanItems scanEntries EndsNumber endsNumber_mark)

/-- A value begins with neither a blank nor a closing bracket. -/
theorem head_text (v : Json) (back : ∀ n ∈ v.numerals, n.ReadsBack) (rest : List Char) :
    ∃ c tail, skipBlanks (v.text.toList ++ rest) = c :: tail ∧ c ≠ ']' := by
  cases v with
  | null => exact ⟨'n', _, rfl, by decide⟩
  | bool b => cases b with
    | false => exact ⟨'f', _, rfl, by decide⟩
    | true => exact ⟨'t', _, rfl, by decide⟩
  | number n =>
    obtain ⟨c, tail, skipped, lead⟩ := (back n (List.mem_singleton_self n)).head rest
    refine ⟨c, tail, skipped, ?_⟩
    rintro rfl
    simp at lead
  | string s =>
    rw [toList_text_string]
    exact ⟨'"', _, rfl, by decide⟩
  | array items =>
    cases items with
    | nil => exact ⟨'[', _, rfl, by decide⟩
    | cons v items =>
      rw [toList_text_array]
      exact ⟨'[', _, rfl, by decide⟩
  | object entries =>
    cases entries with
    | nil => exact ⟨'\x7b', _, rfl, by decide⟩
    | cons entry entries =>
      rw [toList_text_object]
      exact ⟨'\x7b', _, rfl, by decide⟩

theorem length_text (v : Json) (back : ∀ n ∈ v.numerals, n.ReadsBack) :
    0 < v.text.toList.length := by
  obtain ⟨c, tail, skipped, -⟩ := head_text v back []
  rw [List.append_nil] at skipped
  refine List.length_pos_iff.mpr fun none => ?_
  rw [none] at skipped
  cases skipped

theorem scanValue_quote (fuel : Nat) (cs : List Char) :
    scanValue (fuel + 1) ('"' :: cs) =
      match Draft.scanText cs with
      | none => (Draft.broken, none)
      | some (none, rest) => (Draft.flawed, some rest)
      | some (some text, rest) => (Draft.string text, some rest) := by
  rw [scanValue]
  rfl

theorem scanValue_string (s : String) (fuel : Nat) (rest : List Char) :
    scanValue (fuel + 1) ((string s).text.toList ++ rest) = ((string s).draft, some rest) := by
  have read := Text.scanText_quoted s.toList rest
  rw [String.ofList_toList] at read
  have quoted : (string s).text.toList ++ rest =
      '"' :: (s.toList.flatMap Text.quotedChar ++ '"' :: rest) := by
    rw [toList_text_string]
    simp [Text.quotedChars]
  rw [quoted, scanValue_quote, read]
  rfl

-- By induction on the fuel. A value inside another is entered by at most two calls, and the other
-- value has at least one character more.
mutual
theorem scanValue_text : (v : Json) → (back : ∀ n ∈ v.numerals, n.ReadsBack) → (fuel : Nat) →
    2 * v.text.toList.length ≤ fuel → (rest : List Char) → EndsNumber rest →
    scanValue fuel (v.text.toList ++ rest) = (v.draft, some rest)
  | v, back, 0, enough, _, _ => by
    have nonempty := length_text v back
    omega
  | v, back, fuel + 1, enough, rest, ends => by
    cases v with
    | null => rfl
    | bool b => cases b <;> rfl
    | number n => exact (back n (List.mem_singleton_self n)).scanValue fuel ends
    | string s => exact scanValue_string s fuel rest
    | array items =>
      cases items with
      | nil => rfl
      | cons v items =>
        have bound : 2 * (v.text.toList ++ itemTail items).length + 1 ≤ fuel := by
          rw [toList_text_array] at enough
          simp only [List.length_cons, List.length_append, List.length_nil] at enough ⊢
          omega
        have read := scanItems_text v items back fuel bound rest
        obtain ⟨c, tail, skipped, other⟩ := head_text v (fun n inside => back n (by
          rw [numerals, itemNumerals]
          exact List.mem_append_left _ inside)) (itemTail items ++ ']' :: rest)
        have text : (array (v :: items)).text.toList ++ rest =
            '[' :: (v.text.toList ++ (itemTail items ++ ']' :: rest)) := by
          rw [toList_text_array]
          simp
        rw [List.append_assoc] at read
        rw [text, Draft.scanValue_items fuel skipped other, read]
        rfl
    | object entries =>
      cases entries with
      | nil => rfl
      | cons entry entries =>
        have bound : 2 * (entryText entry ++ entryTail entries).length + 1 ≤ fuel := by
          rw [toList_text_object] at enough
          simp only [List.length_cons, List.length_append, List.length_nil] at enough ⊢
          omega
        have read := scanEntries_text entry entries back fuel bound rest
        have text : (object (entry :: entries)).text.toList ++ rest =
            '\x7b' :: (entryText entry ++ entryTail entries ++ '\x7d' :: rest) := by
          rw [toList_text_object]
          simp
        obtain ⟨tail, quoted⟩ : ∃ tail, entryText entry ++ entryTail entries ++ '\x7d' :: rest =
            '"' :: tail := ⟨_, rfl⟩
        rw [text, Draft.scanValue_entries fuel quoted, read]
        rfl
termination_by structural _ _ fuel => fuel

theorem scanItems_text : (v : Json) → (items : List Json) →
    (back : ∀ n ∈ itemNumerals (v :: items), n.ReadsBack) → (fuel : Nat) →
    2 * (v.text.toList ++ itemTail items).length + 1 ≤ fuel → (rest : List Char) →
    scanItems fuel (v.text.toList ++ itemTail items ++ ']' :: rest) =
      (drafts (v :: items), some rest)
  | v, items, back, fuel + 1, enough, rest => by
    rw [List.length_append] at enough
    have inside : ∀ n ∈ v.numerals, n.ReadsBack := fun n member =>
      back n (List.mem_append_left _ member)
    match items with
    | [] =>
      have read := scanValue_text v inside fuel (by omega) (']' :: rest)
        (endsNumber_mark (.inr (.inl rfl)) rest)
      rw [scanItems, itemTail, List.flatMap_nil, List.append_nil, read]
      rfl
    | w :: items =>
      rw [itemTail, List.flatMap_cons, List.length_append, List.length_cons] at enough
      have later : ∀ n ∈ itemNumerals (w :: items), n.ReadsBack := fun n member =>
        back n (List.mem_append_right _ member)
      have first := scanValue_text v inside fuel (by omega)
        (',' :: (w.text.toList ++ itemTail items ++ ']' :: rest))
        (endsNumber_mark (.inl rfl) _)
      have others := scanItems_text w items later fuel (by
        rw [itemTail, List.length_append]
        omega) rest
      have text : v.text.toList ++ itemTail (w :: items) ++ ']' :: rest =
          v.text.toList ++ ',' :: (w.text.toList ++ itemTail items ++ ']' :: rest) := by
        simp [itemTail]
      rw [scanItems, text, first]
      change ((v.draft :: (scanItems fuel _).1, (scanItems fuel _).2) :
        List Draft × Option (List Char)) = _
      rw [others]
      rfl

theorem scanEntries_text : (entry : String × Json) → (entries : List (String × Json)) →
    (back : ∀ n ∈ entryNumerals (entry :: entries), n.ReadsBack) → (fuel : Nat) →
    2 * (entryText entry ++ entryTail entries).length + 1 ≤ fuel → (rest : List Char) →
    scanEntries fuel (entryText entry ++ entryTail entries ++ '\x7d' :: rest) =
      (entryDrafts (entry :: entries), some rest)
  | (name, v), entries, back, fuel + 1, enough, rest => by
    simp only [entryText, List.length_append, List.length_cons] at enough
    have inside : ∀ n ∈ v.numerals, n.ReadsBack := fun n member =>
      back n (List.mem_append_left _ member)
    match entries with
    | [] =>
      have read := scanValue_text v inside fuel (by omega) ('\x7d' :: rest)
        (endsNumber_mark (.inr (.inr rfl)) rest)
      have text : entryText (name, v) ++ entryTail [] ++ '\x7d' :: rest =
          Text.quotedChars name.toList ++ ':' :: (v.text.toList ++ '\x7d' :: rest) := by
        simp [entryText, entryTail]
      rw [text, Draft.scanEntries_entry fuel name read]
      rfl
    | next :: entries =>
      rw [entryTail, List.flatMap_cons, List.length_append, List.length_cons] at enough
      have later : ∀ n ∈ entryNumerals (next :: entries), n.ReadsBack := fun n member =>
        back n (List.mem_append_right _ member)
      have first := scanValue_text v inside fuel (by omega)
        (',' :: (entryText next ++ entryTail entries ++ '\x7d' :: rest))
        (endsNumber_mark (.inl rfl) _)
      have others := scanEntries_text next entries later fuel (by
        rw [entryTail, List.length_append]
        omega) rest
      have text : entryText (name, v) ++ entryTail (next :: entries) ++ '\x7d' :: rest =
          Text.quotedChars name.toList ++ ':' :: (v.text.toList ++
            ',' :: (entryText next ++ entryTail entries ++ '\x7d' :: rest)) := by
        simp [entryText, entryTail]
      rw [text, Draft.scanEntries_entry fuel name first]
      change (((some name, v.draft) :: (scanEntries fuel _).1, (scanEntries fuel _).2) :
        List (Option String × Draft) × Option (List Char)) = _
      rw [others]
      rfl
end

theorem scan_text (v : Json) (back : ∀ n ∈ v.numerals, n.ReadsBack) :
    Draft.scan v.text = (v.draft, some []) := by
  have read := scanValue_text v back (2 * v.text.length + 2) (by
    rw [String.length_toList]
    omega) [] (by simp [EndsNumber])
  rwa [List.append_nil] at read

/-- The text of a value is read back as that value. -/
theorem ofText_text (v : Json) (back : ∀ n ∈ v.numerals, n.ReadsBack) :
    Draft.ofText v.text = v.draft :=
  congrArg Prod.fst (scan_text v back)

end Json

end RouteBindings
