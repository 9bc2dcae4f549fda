import RouteBindings.Proofs.Json.Text

namespace RouteBindings

namespace Draft

theorem scanUnits_append {cs left : List Char} {units : List TextUnit} (rest : List Char)
    (read : scanUnits cs = some (units, left)) :
    scanUnits (cs ++ rest) = some (units, left ++ rest) := by
  fun_induction scanUnits cs generalizing units left with
  | case1 => cases read
  | case2 tail =>
    cases read
    rfl
  | case3 a b c d tail n units left inner hex ih =>
    cases read
    simp only [List.cons_append, scanUnits, hex, ih inner]
  | case4 => cases read
  | case5 e tail long c units left inner escaped ih =>
    cases read
    have other : e ≠ 'u' := by
      rintro rfl
      cases escaped
    rw [List.cons_append, List.cons_append,
      scanUnits.eq_4 e (tail ++ rest) (fun _ _ _ _ _ same _ => other same), escaped, ih inner]
  | case6 => cases read
  | case7 => cases read
  | case8 c tail quote long backslash plain ih =>
    obtain ⟨⟨units, after⟩, scanned, same⟩ := Option.map_eq_some_iff.mp read
    cases same
    have other : c ≠ '\\' := by
      rintro rfl
      cases tail with
      | nil => cases scanned
      | cons d tail => exact backslash d tail rfl rfl
    rw [List.cons_append, scanUnits.eq_5 c (tail ++ rest) quote
      (fun _ _ _ _ _ same _ => other same) (fun _ _ same _ => other same), if_neg plain,
      ih scanned]
    rfl

theorem scanText_append {cs left : List Char} {text : Option String} (rest : List Char)
    (read : scanText cs = some (text, left)) :
    scanText (cs ++ rest) = some (text, left ++ rest) := by
  obtain ⟨⟨units, after⟩, scanned, same⟩ := Option.map_eq_some_iff.mp read
  cases same
  rw [scanText, scanUnits_append rest scanned]
  rfl

theorem scanValue_object (fuel : Nat) (cs : List Char) :
    scanValue (fuel + 1) ('\x7b' :: cs) =
      match skipBlanks cs with
      | '\x7d' :: rest => (object [] true, some rest)
      | rest => (object (scanEntries fuel rest).1 (scanEntries fuel rest).2.isSome,
          (scanEntries fuel rest).2) := by
  rw [scanValue]
  rfl

theorem scanValue_opened (fuel : Nat) {cs tail : List Char}
    (skipped : skipBlanks cs = '"' :: tail) :
    scanValue (fuel + 1) ('\x7b' :: cs) =
      (.object (scanEntries fuel ('"' :: tail)).1 (scanEntries fuel ('"' :: tail)).2.isSome,
        (scanEntries fuel ('"' :: tail)).2) := by
  have opened := scanValue_object fuel cs
  rw [skipped] at opened
  exact opened

theorem scanItems_nil (fuel : Nat) : scanItems fuel [] = ([], none) ∨
    scanItems fuel [] = ([broken], none) := by
  cases fuel with
  | zero => exact .inl rfl
  | succ fuel => cases fuel <;> exact .inr rfl

theorem scanEntries_nil (fuel : Nat) : scanEntries fuel [] = ([], none) := by
  cases fuel <;> rfl

theorem scanEntries_skipBlanks (fuel : Nat) (cs : List Char) :
    scanEntries fuel (skipBlanks cs) = scanEntries fuel cs := by
  cases fuel with
  | zero => rfl
  | succ fuel => rw [scanEntries, scanEntries, skipBlanks_skipBlanks]

theorem skipBlanks_of_skipped {cs tail : List Char} (skipped : skipBlanks cs = tail) :
    skipBlanks tail = tail := by
  rw [← skipped, skipBlanks_skipBlanks]

/-- The name of an entry is quoted. -/
theorem scanEntries_other (fuel : Nat) {cs tail : List Char} {c : Char}
    (skipped : skipBlanks cs = c :: tail) (other : c ≠ '"') : scanEntries fuel cs = ([], none) := by
  cases fuel with
  | zero => rfl
  | succ fuel =>
    rw [scanEntries, skipped]
    split
    · rename_i same
      exact (other (List.cons.inj same).1).elim
    · rfl

/-- One entry of an object, and then what follows it. -/
theorem scanEntries_named (fuel : Nat) {cs tail after body behind : List Char}
    {name : Option String} {value : Draft} (quote : skipBlanks cs = '"' :: tail)
    (scanned : scanText tail = some (name, after)) (colon : skipBlanks after = ':' :: body)
    (first : scanValue fuel body = (value, some behind)) :
    scanEntries (fuel + 1) cs =
      match skipBlanks behind with
      | '\x7d' :: rest => ([(name, value)], some rest)
      | ',' :: rest => ((name, value) :: (scanEntries fuel rest).1, (scanEntries fuel rest).2)
      | _ => ([(name, value)], none) := by
  have entry := scanEntries_quote fuel tail
  simp only [scanned, colon, first] at entry
  rw [← scanEntries_skipBlanks, quote]
  exact entry

/-- An array that is read to its end is empty or has items. -/
theorem scanValue_bracket_some {fuel : Nat} {tail left : List Char} {d : Draft}
    (read : scanValue (fuel + 1) ('[' :: tail) = (d, some left)) :
    skipBlanks tail = ']' :: left ∧ d = array [] true ∨
      ∃ c after items, skipBlanks tail = c :: after ∧ c ≠ ']' ∧
        scanItems fuel tail = (items, some left) ∧ d = array items true := by
  cases skipped : skipBlanks tail with
  | nil =>
    rw [scanValue_bracket, skipped] at read
    rcases scanItems_nil fuel with none | none <;> simp [none] at read
  | cons c after =>
    by_cases close : c = ']'
    · subst close
      rw [scanValue_bracket, skipped] at read
      cases read
      exact .inl ⟨rfl, rfl⟩
    · rw [scanValue_items fuel skipped close] at read
      obtain ⟨same, last⟩ := Prod.mk.inj read
      rw [last] at same
      exact .inr ⟨c, after, _, rfl, close, Prod.ext rfl last, same.symm⟩

theorem scanValue_object_some {fuel : Nat} {tail left : List Char} {d : Draft}
    (read : scanValue (fuel + 1) ('\x7b' :: tail) = (d, some left)) :
    skipBlanks tail = '\x7d' :: left ∧ d = object [] true ∨
      ∃ after entries, skipBlanks tail = '"' :: after ∧
        scanEntries fuel ('"' :: after) = (entries, some left) ∧ d = object entries true := by
  rw [scanValue_object] at read
  cases skipped : skipBlanks tail with
  | nil =>
    rw [skipped] at read
    simp [scanEntries_nil] at read
  | cons c after =>
    rw [skipped] at read
    split at read
    · rename_i same
      cases same
      cases read
      exact .inl ⟨rfl, rfl⟩
    · obtain ⟨same, last⟩ := Prod.mk.inj read
      by_cases quote : c = '"'
      · subst quote
        rw [last] at same
        exact .inr ⟨after, _, rfl, Prod.ext rfl last, same.symm⟩
      · rw [scanEntries_other fuel (skipBlanks_of_skipped skipped) quote] at last
        cases last

section

variable {rest : List Char}

mutual
theorem scanValue_append (ends : EndsNumber rest) : (fuel more : Nat) → fuel ≤ more →
    {cs left : List Char} → {d : Draft} → scanValue fuel cs = (d, some left) →
    scanValue more (cs ++ rest) = (d, some (left ++ rest))
  | 0, _, _, _, _, _, read => by
    rw [scanValue] at read
    cases read
  | fuel + 1, more + 1, enough, cs, left, d, read => by
    have opened := read
    rw [← scanValue_skipBlanks] at opened
    rw [scanValue] at read
    split at read
    · rename_i skipped
      rw [scanValue, skipBlanks_append skipped]
      cases read
      rfl
    · rename_i skipped
      rw [scanValue, skipBlanks_append skipped]
      cases read
      rfl
    · rename_i skipped
      rw [scanValue, skipBlanks_append skipped]
      cases read
      rfl
    · rename_i tail skipped
      rw [← scanValue_skipBlanks, skipBlanks_append skipped, List.cons_append,
        Json.scanValue_quote]
      split at read
      · cases read
      · rename_i scanned
        cases read
        rw [scanText_append rest scanned]
      · rename_i scanned
        cases read
        rw [scanText_append rest scanned]
    · rename_i tail skipped
      rw [skipped] at opened
      rw [← scanValue_skipBlanks, skipBlanks_append skipped, List.cons_append]
      rcases scanValue_bracket_some opened with
        ⟨close, rfl⟩ | ⟨c, after, items, first, other, inner, rfl⟩
      · rw [scanValue_bracket, skipBlanks_append close]
        rfl
      · have later := scanItems_append ends fuel more (by omega) inner
        rw [scanValue_items more (skipBlanks_append first rest) other, later]
        rfl
    · rename_i tail skipped
      rw [skipped] at opened
      rw [← scanValue_skipBlanks, skipBlanks_append skipped, List.cons_append]
      rcases scanValue_object_some opened with ⟨close, rfl⟩ | ⟨after, entries, first, inner, rfl⟩
      · rw [scanValue_object, skipBlanks_append close]
        rfl
      · have later := scanEntries_append ends fuel more (by omega) inner
        have begins := skipBlanks_append first rest
        rw [List.cons_append] at begins later
        rw [scanValue_opened more begins, later]
        rfl
    · rename_i tail skipped
      rw [scanValue_minus more (skipBlanks_append skipped rest)]
      exact scanNumber_append ends read
    · obtain ⟨c, tail, skipped, digit⟩ := scanNumber_head read
      rw [scanValue_digit more digit (skipBlanks_append skipped rest)]
      rw [skipped] at read
      exact scanNumber_append ends read

theorem scanItems_append (ends : EndsNumber rest) : (fuel more : Nat) → fuel ≤ more →
    {cs left : List Char} → {ds : List Draft} → scanItems fuel cs = (ds, some left) →
    scanItems more (cs ++ rest) = (ds, some (left ++ rest))
  | 0, _, _, _, _, _, read => by
    rw [scanItems] at read
    cases read
  | fuel + 1, more + 1, enough, cs, left, ds, read => by
    rw [scanItems] at read ⊢
    split at read
    · cases read
    · rename_i item after first
      rw [scanValue_append ends fuel more (by omega) first]
      dsimp only
      split at read
      · rename_i close
        cases read
        rw [skipBlanks_append close]
        rfl
      · rename_i tail comma
        rw [skipBlanks_append comma]
        obtain ⟨same, last⟩ := Prod.mk.inj read
        have later := scanItems_append ends fuel more (by omega) (Prod.ext rfl last)
        change (item :: (scanItems more (tail ++ rest)).1, (scanItems more (tail ++ rest)).2) = _
        rw [later, same]
      · cases read

theorem scanEntries_append (ends : EndsNumber rest) : (fuel more : Nat) → fuel ≤ more →
    {cs left : List Char} → {es : List (Option String × Draft)} →
    scanEntries fuel cs = (es, some left) →
    scanEntries more (cs ++ rest) = (es, some (left ++ rest))
  | 0, _, _, _, _, _, read => by
    rw [scanEntries] at read
    cases read
  | fuel + 1, more + 1, enough, cs, left, es, read => by
    rw [scanEntries] at read
    split at read
    · rename_i tail quote
      split at read
      · cases read
      · rename_i name after scanned
        split at read
        · rename_i body colon
          split at read
          · cases read
          · rename_i value behind first
            rw [scanEntries_named more (skipBlanks_append quote rest) (scanText_append rest scanned)
              (skipBlanks_append colon rest) (scanValue_append ends fuel more (by omega) first)]
            split at read
            · rename_i close
              cases read
              rw [skipBlanks_append close]
              rfl
            · rename_i later comma
              rw [skipBlanks_append comma]
              obtain ⟨same, last⟩ := Prod.mk.inj read
              have others := scanEntries_append ends fuel more (by omega) (Prod.ext rfl last)
              change ((name, value) :: (scanEntries more (later ++ rest)).1,
                (scanEntries more (later ++ rest)).2) = _
              rw [others, same]
            · cases read
        · cases read
    · cases read
end

end

mutual
/-- A draft that has a value is the draft of that value. -/
theorem eq_draft_of_value? : (d : Draft) → {n : Nat} → {v : Json} → d.value? n = some v →
    d = v.draft
  | null, _, _, read | bool _, _, _, read | number _, _, _, read | string _, _, _, read => by
    rw [value?] at read
    cases read
    rfl
  | flawed, n, _, read | broken, n, _, read => by
    cases n <;> cases read
  | array _ closed, 0, _, read => by cases closed <;> cases read
  | object _ closed, 0, _, read => by cases closed <;> cases read
  | array _ false, n + 1, _, read => by cases read
  | object _ false, n + 1, _, read => by cases read
  | array items true, n + 1, v, read => by
    rw [value?] at read
    obtain ⟨vs, inside, same⟩ := Option.map_eq_some_iff.mp read
    rw [← same, Json.draft, eq_drafts_of_values? items inside]
  | object entries true, n + 1, v, read => by
    rw [value?] at read
    obtain ⟨vs, inside, same⟩ := Option.map_eq_some_iff.mp read
    rw [← same, Json.draft, eq_entryDrafts_of_entryValues? entries inside]

theorem eq_drafts_of_values? : (ds : List Draft) → {n : Nat} → {vs : List Json} →
    values? n ds = some vs → ds = Json.drafts vs
  | [], _, _, read => by
    cases read
    rfl
  | d :: rest, n, vs, read => by
    rw [values?] at read
    split at read
    · rename_i first others
      cases read
      rw [Json.drafts, ← eq_draft_of_value? d first, ← eq_drafts_of_values? rest others]
    · cases read

theorem eq_entryDrafts_of_entryValues? : (es : List (Option String × Draft)) → {n : Nat} →
    {vs : List (String × Json)} → entryValues? n es = some vs → es = Json.entryDrafts vs
  | [], _, _, read => by
    cases read
    rfl
  | (none, d) :: rest, n, vs, read => by
    cases d <;> cases read
  | (some name, d) :: rest, n, vs, read => by
    simp only [entryValues?] at read
    split at read
    · rename_i given first others
      cases given
      cases read
      rw [Json.entryDrafts, ← eq_draft_of_value? d first,
        ← eq_entryDrafts_of_entryValues? rest others]
    · cases read
end

end Draft

end RouteBindings
