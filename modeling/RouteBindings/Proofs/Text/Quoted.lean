import RouteBindings.Json.Scan
import RouteBindings.Text.Quoted

namespace RouteBindings.Text

open Draft (TextUnit scanUnits joinUnits scanText)

/-- How one character may be spelled between the quotes: as itself, by a letter after a backslash or
by its code point. -/
inductive Escape : List Char → Char → Prop
  | plain {c} : c ≠ '"' → c ≠ '\\' → 32 ≤ c.toNat → Escape [c] c
  | short {c e} : e ≠ 'u' → Draft.escape? e = some c → Escape ['\\', e] c
  | code {c w x y z} : c.toNat < 32 → Draft.hexUnit? w x y z = some c.toNat →
      Escape ['\\', 'u', w, x, y, z] c

theorem hexUnit_hexDigits : ∀ n < 32,
    Draft.hexUnit? (Nat.digitChar (n / 4096 % 16)) (Nat.digitChar (n / 256 % 16))
      (Nat.digitChar (n / 16 % 16)) (Nat.digitChar (n % 16)) = some n := by decide

theorem char_of_toNat {c : Char} {n : Nat} (h : c.toNat = n) : Char.ofNat n = c := by
  rw [← h, Char.ofNat_toNat]

theorem escape_quotedChar (c : Char) : Escape (quotedChar c) c := by
  unfold quotedChar
  split
  · rename_i h; subst h; exact .short (by decide) rfl
  split
  · rename_i h; subst h; exact .short (by decide) rfl
  split
  · rename_i quote backslash h; exact .plain quote backslash h
  rename_i control
  split
  · rename_i h; exact char_of_toNat h ▸ .short (by decide) rfl
  split
  · rename_i h; exact char_of_toNat h ▸ .short (by decide) rfl
  split
  · rename_i h; exact char_of_toNat h ▸ .short (by decide) rfl
  split
  · rename_i h; exact char_of_toNat h ▸ .short (by decide) rfl
  split
  · rename_i h; exact char_of_toNat h ▸ .short (by decide) rfl
  · have small : c.toNat < 32 := Nat.lt_of_not_le control
    exact .code small (hexUnit_hexDigits c.toNat small)

theorem unitOf_control {c : Char} (small : c.toNat < 32) :
    Draft.unitOf c.toNat = .whole c := by
  have low : ¬ 0xd800 ≤ c.toNat := by omega
  simp [Draft.unitOf, low]

theorem scanUnits_escape {spelled : List Char} {c : Char} (escape : Escape spelled c)
    (rest : List Char) :
    scanUnits (spelled ++ rest) =
      (scanUnits rest).map fun (units, after) => (.whole c :: units, after) := by
  cases escape with
  | plain quote backslash large =>
    have small : ¬ c.toNat < 32 := by omega
    rw [List.singleton_append, Draft.scanUnits.eq_5 c rest quote (fun _ _ _ _ _ h _ => backslash h)
      (fun _ _ h _ => backslash h), if_neg small]
  | @short c e other read =>
    rw [List.cons_append, List.singleton_append,
      Draft.scanUnits.eq_4 e rest (fun _ _ _ _ _ h _ => other h), read]
    cases scanUnits rest <;> rfl
  | code small read =>
    cases h : scanUnits rest <;> simp [scanUnits, read, h, unitOf_control small]

theorem scanUnits_quoted (cs rest : List Char) :
    scanUnits (cs.flatMap quotedChar ++ '"' :: rest) = some (cs.map .whole, rest) := by
  induction cs with
  | nil => rfl
  | cons c tail ih =>
    rw [List.flatMap_cons, List.append_assoc, scanUnits_escape (escape_quotedChar c), ih]
    rfl

theorem joinUnits_whole (cs : List Char) : joinUnits (cs.map .whole) = some cs := by
  induction cs with
  | nil => rfl
  | cons c tail ih => simp [joinUnits, ih]

/-- What a text is quoted to, without the first quote, is read as that text. -/
theorem scanText_quoted (cs rest : List Char) :
    scanText (cs.flatMap quotedChar ++ '"' :: rest) = some (some (String.ofList cs), rest) := by
  simp only [scanText, scanUnits_quoted, joinUnits_whole, Option.map_some]

theorem length_scanUnits {cs rest : List Char} {units : List TextUnit}
    (h : scanUnits cs = some (units, rest)) : rest.length < cs.length := by
  fun_induction scanUnits cs generalizing units rest with
  | case1 => cases h
  | case2 => cases h; simp
  | case3 a b c d tail n inner after scanned read ih =>
    cases h
    have := ih scanned
    simp only [List.length_cons]
    omega
  | case4 => cases h
  | case5 e tail other c inner after scanned read ih =>
    cases h
    have := ih scanned
    simp only [List.length_cons]
    omega
  | case6 => cases h
  | case7 => cases h
  | case8 c tail _ _ _ _ ih =>
    obtain ⟨⟨inner, after⟩, scanned, same⟩ := Option.map_eq_some_iff.mp h
    cases same
    exact Nat.lt_succ_of_lt (ih scanned)

theorem length_scanText {cs rest : List Char} {read : Option String}
    (h : scanText cs = some (read, rest)) : rest.length < cs.length := by
  obtain ⟨⟨units, after⟩, scanned, same⟩ := Option.map_eq_some_iff.mp h
  cases same
  exact length_scanUnits scanned

def isUnit (c : Char) : TextUnit → Bool
  | .whole d => d == c
  | .half _ => false

theorem hexUnit_colon {a b c d : Char} {n : Nat} (read : Draft.hexUnit? a b c d = some n) :
    ':' ∉ [a, b, c, d] := by
  have colon : Draft.hexValue? ':' = none := rfl
  simp only [List.mem_cons, List.not_mem_nil, or_false, not_or]
  refine ⟨?_, ?_, ?_, ?_⟩ <;> rintro rfl <;> simp [Draft.hexUnit?, colon] at read

/-- A quoted text is at least as long as what is read from it, and has no further colons: none of
them belongs to an escape. -/
theorem scanUnits_raw {cs rest : List Char} {units : List TextUnit}
    (h : scanUnits cs = some (units, rest)) :
    ∃ raw, cs = raw ++ '"' :: rest ∧ units.length ≤ raw.length ∧
      raw.count ':' ≤ units.countP (isUnit ':') := by
  fun_induction scanUnits cs generalizing units rest with
  | case1 => cases h
  | case2 => cases h; exact ⟨[], rfl, Nat.le_refl _, Nat.le_refl _⟩
  | case3 a b c d tail n inner after scanned read ih =>
    cases h
    obtain ⟨raw, rfl, long, colons⟩ := ih scanned
    refine ⟨'\\' :: 'u' :: [a, b, c, d] ++ raw, rfl, ?_, ?_⟩
    · simp only [List.length_append, List.length_cons]
      omega
    · rw [List.count_append, List.count_eq_zero.mpr (by simpa using hexUnit_colon read),
        List.countP_cons]
      omega
  | case4 => cases h
  | case5 e tail other c inner after scanned read ih =>
    cases h
    obtain ⟨raw, rfl, long, colons⟩ := ih scanned
    have escaped : e ≠ ':' := by
      rintro rfl
      cases read
    refine ⟨'\\' :: e :: raw, rfl, ?_, ?_⟩
    · simp only [List.length_cons]
      omega
    · rw [List.count_cons_of_ne (by decide), List.count_cons_of_ne escaped, List.countP_cons]
      omega
  | case6 => cases h
  | case7 => cases h
  | case8 c tail _ _ _ _ ih =>
    obtain ⟨⟨inner, after⟩, scanned, same⟩ := Option.map_eq_some_iff.mp h
    cases same
    obtain ⟨raw, rfl, long, colons⟩ := ih scanned
    refine ⟨c :: raw, rfl, Nat.succ_le_succ long, ?_⟩
    rw [List.count_cons, List.countP_cons, isUnit]
    omega

theorem joinUnits_raw {units : List TextUnit} {cs : List Char}
    (h : joinUnits units = some cs) :
    cs.length ≤ units.length ∧ units.countP (isUnit ':') ≤ cs.count ':' := by
  fun_induction joinUnits units generalizing cs with
  | case1 => cases h; exact ⟨Nat.le_refl _, Nat.le_refl _⟩
  | case2 c rest ih =>
    obtain ⟨tail, joined, rfl⟩ := Option.map_eq_some_iff.mp h
    obtain ⟨long, colons⟩ := ih joined
    refine ⟨Nat.succ_le_succ long, ?_⟩
    rw [List.count_cons, List.countP_cons, isUnit]
    omega
  | case3 high low rest pair ih =>
    obtain ⟨tail, joined, rfl⟩ := Option.map_eq_some_iff.mp h
    obtain ⟨long, colons⟩ := ih joined
    refine ⟨?_, ?_⟩
    · simp only [List.length_cons]
      omega
    · rw [List.count_cons, List.countP_cons_of_neg (by simp [isUnit]),
        List.countP_cons_of_neg (by simp [isUnit])]
      omega
  | case4 => cases h
  | case5 => cases h

theorem scanText_raw {cs rest : List Char} {s : String}
    (h : scanText cs = some (some s, rest)) :
    ∃ raw, cs = raw ++ '"' :: rest ∧ s.toList.length ≤ raw.length ∧
      raw.count ':' ≤ s.toList.count ':' := by
  obtain ⟨⟨units, after⟩, scanned, same⟩ := Option.map_eq_some_iff.mp h
  obtain ⟨joined, rfl⟩ := Prod.mk.inj same
  obtain ⟨text, whole, rfl⟩ := Option.map_eq_some_iff.mp joined
  obtain ⟨raw, split, long, colons⟩ := scanUnits_raw scanned
  obtain ⟨short, kept⟩ := joinUnits_raw whole
  rw [String.toList_ofList]
  exact ⟨raw, split, Nat.le_trans short long, Nat.le_trans colons kept⟩

end RouteBindings.Text
