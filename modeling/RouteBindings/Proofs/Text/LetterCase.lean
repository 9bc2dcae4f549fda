import Mathlib
import RouteBindings.Text.LetterCase

namespace RouteBindings.Text

namespace CaseRun

def image (run : CaseRun) (n : Nat) : Nat :=
  ((n : Int) + run.shift).toNat

theorem other?_eq_some_iff {run : CaseRun} {n m : Nat} :
    run.other? n = some m ↔
      run.first ≤ n ∧ n ≤ run.last ∧ (n - run.first) % run.step = 0 ∧ run.image n = m := by
  simp only [other?, image, Option.ite_none_right_eq_some, Bool.and_eq_true, decide_eq_true_eq,
    Option.some.injEq, and_assoc]

/- The two tests below are run by the kernel for all pairs of runs, which is why they are made of
comparisons that it knows. -/

/-- The images of the first run lie before the second, behind it, or in its gaps. -/
def misses (run other : CaseRun) : Bool :=
  Nat.blt (run.image run.last) other.first || Nat.blt other.last (run.image run.first) ||
    (Nat.beq (run.step % 2) 0 || Nat.beq run.first run.last) && Nat.beq other.step 2 &&
      run.image run.first % 2 != other.first % 2

/-- The images of the run are characters behind the capitals, and no run changes them again. -/
def isSettled (run : CaseRun) : Bool :=
  Nat.ble 97 (run.image run.first) &&
    (Nat.blt (run.image run.last) 0xd800 ||
      Nat.blt 0xdfff (run.image run.first) && Nat.blt (run.image run.last) 0x110000) &&
    -- the letter that becomes two is in no run
    (Nat.blt (run.image run.last) 0x130 || Nat.blt 0x130 (run.image run.first)) &&
    lowerRuns.all run.misses

theorem all_isSettled : lowerRuns.all isSettled = true := by
  decide +kernel

theorem other?_of_misses {run other : CaseRun} {n m : Nat} (misses : run.misses other = true)
    (visible : 0 < run.image run.first) (letter : run.other? n = some m) :
    other.other? m = none := by
  obtain ⟨low, high, place, rfl⟩ := other?_eq_some_iff.mp letter
  rw [Option.eq_none_iff_forall_ne_some]
  intro k again
  obtain ⟨from_first, to_last, step, -⟩ := other?_eq_some_iff.mp again
  simp only [CaseRun.misses, Bool.or_eq_true, Bool.and_eq_true, Nat.blt_eq, Nat.beq_eq,
    bne_iff_ne] at misses
  simp only [image] at visible misses from_first to_last step
  rcases misses with (before | behind) | ⟨⟨even, two⟩, odd⟩
  · omega
  · omega
  · -- both runs hold every other letter, one the even and one the odd ones
    have even_place : (n - run.first) % 2 = 0 := by
      rcases even with even | single
      · exact Nat.mod_eq_zero_of_dvd
          (Nat.dvd_trans (Nat.dvd_of_mod_eq_zero even) (Nat.dvd_of_mod_eq_zero place))
      · omega
    rw [two] at step
    omega

theorem image_of_mem {run : CaseRun} {n m : Nat} (listed : run ∈ lowerRuns)
    (letter : run.other? n = some m) :
    97 ≤ m ∧ m.isValidChar ∧ m ≠ 0x130 ∧ lowerRuns.findSome? (other? · m) = none := by
  have settled := List.all_eq_true.mp all_isSettled run listed
  simp only [isSettled, Bool.and_eq_true, Bool.or_eq_true, Nat.blt_eq, Nat.ble_eq,
    List.all_eq_true] at settled
  obtain ⟨⟨⟨visible, valid⟩, single⟩, missed⟩ := settled
  have kept : lowerRuns.findSome? (other? · m) = none :=
    List.findSome?_eq_none_iff.mpr fun other member =>
      other?_of_misses (missed other member) (by omega) letter
  obtain ⟨low, high, -, rfl⟩ := other?_eq_some_iff.mp letter
  have bounds : run.image run.first ≤ run.image n ∧ run.image n ≤ run.image run.last := by
    simp only [image]
    omega
  refine ⟨by omega, ?_, by omega, kept⟩
  simp only [Nat.isValidChar]
  omega

end CaseRun

/-- A character that small letters keep; it stands behind the digits, the capitals and the colon. -/
def IsSmallForm (c : Char) : Prop :=
  97 ≤ c.toNat ∧ lowerChar c = [c]

instance : DecidablePred IsSmallForm :=
  fun _ => inferInstanceAs (Decidable (_ ∧ _))

theorem lookup_lowerExpansions {n : Nat} (single : n ≠ 0x130) :
    lowerExpansions.lookup n = none := by
  rw [List.lookup_eq_none_iff]
  simpa [lowerExpansions] using single

theorem toLower_ascii : ∀ n < 128, (97 ≤ n → (Char.ofNat n).toLower = Char.ofNat n) ∧
    ((Char.ofNat n).toLower = Char.ofNat n ∨ IsSmallForm (Char.ofNat n).toLower) := by
  decide +kernel

theorem isSmallForm_dotted : IsSmallForm (Char.ofNat 0x69) ∧ IsSmallForm (Char.ofNat 0x307) := by
  decide +kernel

theorem isSmallForm_sigma : IsSmallForm (Char.ofNat 0x3c2) ∧ IsSmallForm (Char.ofNat 0x3c3) := by
  decide +kernel

theorem lowerChar_of_ascii {c : Char} (ascii : c.toNat < 128) : lowerChar c = [c.toLower] :=
  if_pos ascii

theorem isSmallForm_image {run : CaseRun} {n m : Nat} (listed : run ∈ lowerRuns)
    (letter : run.other? n = some m) : IsSmallForm (Char.ofNat m) := by
  obtain ⟨visible, valid, single, kept⟩ := CaseRun.image_of_mem listed letter
  have code : (Char.ofNat m).toNat = m := by
    rw [Char.ofNat, dif_pos valid]
    rfl
  refine ⟨code.symm ▸ visible, ?_⟩
  by_cases ascii : m < 128
  · rw [lowerChar_of_ascii (code.symm ▸ ascii), (toLower_ascii m ascii).1 visible]
  · rw [lowerChar, code, if_neg ascii, otherCase, lookup_lowerExpansions single, kept]
    rfl

/-- A character becomes itself, or others that small letters keep. -/
theorem lowerChar_cases (c : Char) :
    lowerChar c = [c] ∨ lowerChar c ≠ [] ∧ ∀ d ∈ lowerChar c, IsSmallForm d := by
  by_cases ascii : c.toNat < 128
  · have letter := (toLower_ascii c.toNat ascii).2
    rw [Char.ofNat_toNat] at letter
    rw [lowerChar_of_ascii ascii]
    rcases letter with same | small
    · exact .inl (congrArg (fun d => [d]) same)
    · exact .inr ⟨List.cons_ne_nil _ _, List.forall_mem_singleton.mpr small⟩
  · rw [lowerChar, if_neg ascii, otherCase]
    by_cases expands : c.toNat = 0x130
    · rw [expands]
      refine .inr ⟨List.cons_ne_nil _ _, List.forall_mem_cons.mpr ⟨isSmallForm_dotted.1, ?_⟩⟩
      exact List.forall_mem_singleton.mpr isSmallForm_dotted.2
    · rw [lookup_lowerExpansions expands]
      cases found : lowerRuns.findSome? (CaseRun.other? · c.toNat) with
      | none => simp
      | some m =>
        obtain ⟨run, listed, letter⟩ := List.exists_of_findSome?_eq_some found
        right
        simpa using isSmallForm_image listed letter

def LowersTo (c : Char) (small : List Char) : Prop :=
  small = [c] ∧ lowerChar c = [c] ∨ small ≠ [] ∧ ∀ d ∈ small, IsSmallForm d

theorem lowerFrom_cons (before : List Char) (c : Char) (rest : List Char) :
    ∃ small, LowersTo c small ∧
      lowerFrom before (c :: rest) = small ++ lowerFrom (c :: before) rest := by
  refine ⟨_, ?_, rfl⟩
  split
  · -- a sigma, final or not
    split
    · exact .inr ⟨List.cons_ne_nil _ _, List.forall_mem_singleton.mpr isSmallForm_sigma.1⟩
    · exact .inr ⟨List.cons_ne_nil _ _, List.forall_mem_singleton.mpr isSmallForm_sigma.2⟩
  · rcases lowerChar_cases c with same | changed
    · rw [same]
      exact .inl ⟨rfl, same⟩
    · exact .inr changed

theorem mem_lowerFrom {before cs : List Char} {d : Char} (member : d ∈ lowerFrom before cs) :
    lowerChar d = [d] ∧ (d ∈ cs ∨ 97 ≤ d.toNat) := by
  induction cs generalizing before with
  | nil => cases member
  | cons c rest ih =>
    obtain ⟨small, lowers, text⟩ := lowerFrom_cons before c rest
    rw [text, List.mem_append] at member
    rcases member with here | later
    · rcases lowers with ⟨rfl, same⟩ | ⟨-, forms⟩
      · rw [List.mem_singleton] at here
        subst here
        exact ⟨same, .inl List.mem_cons_self⟩
      · exact ⟨(forms d here).2, .inr (forms d here).1⟩
    · exact ⟨(ih later).1, (ih later).2.imp_left (List.mem_cons_of_mem c)⟩

theorem lowerFrom_eq_self {before cs : List Char} (kept : ∀ c ∈ cs, lowerChar c = [c]) :
    lowerFrom before cs = cs := by
  induction cs generalizing before with
  | nil => rfl
  | cons c rest ih =>
    obtain ⟨here, others⟩ := List.forall_mem_cons.mp kept
    have sigma : c.toNat ≠ 0x3a3 := by
      intro code
      rw [← Char.ofNat_toNat c, code] at here
      revert here
      decide +kernel
    rw [lowerFrom, if_neg sigma, here, ih others]
    rfl

theorem not_isUpper_of_kept {c : Char} (kept : lowerChar c = [c]) : c.isUpper = false := by
  refine Bool.eq_false_iff.mpr fun capital => ?_
  have ascii : c.toNat < 128 := by
    simp only [Char.isUpper, decide_eq_true_eq, UInt32.le_iff_toNat_le] at capital
    change _ ∧ c.toNat ≤ 90 at capital
    omega
  have lost := Char.isUpper_toLower_eq_false c
  rw [lowerChar_of_ascii ascii, List.singleton_inj] at kept
  rw [kept, capital] at lost
  cases lost

theorem lowerChars_of_ascii {cs : List Char} (ascii : ∀ c ∈ cs, c.toNat < 128) :
    lowerChars cs = cs.map Char.toLower := by
  have from_any : ∀ before, lowerFrom before cs = cs.map Char.toLower := by
    induction cs with
    | nil => intro before; rfl
    | cons c rest ih =>
      intro before
      obtain ⟨small, others⟩ := List.forall_mem_cons.mp ascii
      have sigma : c.toNat ≠ 0x3a3 := by omega
      simp [lowerFrom, sigma, lowerChar, small, ih others]
  exact from_any []

end RouteBindings.Text
