import Mathlib.Data.List.Chain
import RouteBindings.Proofs.Pattern.Grammar
import RouteBindings.Proofs.Pattern.Pieces

namespace RouteBindings

namespace Pattern

/-- A symbol before a literal that would lengthen its name. -/
def Fuses : Pattern → Pattern → Prop
  | symbol _ _, literal text => ∃ c ∈ text.toList.head?, Lexeme.isNameChar c = true
  | _, _ => False

/-- No literal lengthens the name before it in a chain of this scope. -/
def Spaced (p : Pattern) : Prop :=
  ∀ chain ∈ p.chains, chain.IsChain fun a b => ¬ Fuses a b

def marks : List Char := ['(', ')', '|', ':', '*', '\\']

mutual
def CleanParts : Pattern → Prop
  | literal text => text ≠ "" ∧ ∀ c ∈ text.toList, c ∉ marks
  | symbol name _ => Grammar.NameRun name.toList
  | group body => body.CleanParts ∧ body.Spaced
  | concat left right => left.CleanParts ∧ right.CleanParts
  | alternation children => children ≠ [] ∧ CleanPartsAll children

def CleanPartsAll : List Pattern → Prop
  | [] => True
  | child :: rest => child.CleanParts ∧ CleanPartsAll rest
end

/-- Every scope of the pattern is made of clean parts and spaced. -/
def Clean (p : Pattern) : Prop :=
  p.CleanParts ∧ p.Spaced

mutual
theorem full_of_clean : (p : Pattern) → p.CleanParts → p.Full
  | literal _, clean => clean.1
  | symbol _ _, _ => trivial
  | group body, clean => full_of_clean body clean.1
  | concat left right, clean => ⟨full_of_clean left clean.1, full_of_clean right clean.2⟩
  | alternation children, clean => ⟨clean.1, fullAll_of_clean children clean.2⟩

theorem fullAll_of_clean : (ps : List Pattern) → CleanPartsAll ps → FullAll ps
  | [], _ => trivial
  | child :: rest, clean => ⟨full_of_clean child clean.1, fullAll_of_clean rest clean.2⟩
end

end Pattern

namespace Piece

def Apart : Piece → Piece → Prop
  | symbol _ _, letter c => Lexeme.isNameChar c = false
  | bar, bar => False
  | _, _ => True

/-- Between two bars these pieces make chains of which none is empty. -/
def Framed (ps : List Piece) : Prop :=
  (bar :: (ps ++ [bar])).IsChain Apart

mutual
def Plain : Piece → Prop
  | letter c => c ∉ Pattern.marks
  | bar => True
  | symbol name _ => Pattern.Grammar.NameRun name.toList
  | group body => Framed body ∧ PlainAll body

def PlainAll : List Piece → Prop
  | [] => True
  | piece :: rest => piece.Plain ∧ PlainAll rest
end

theorem plainAll_append {a b : List Piece} : PlainAll (a ++ b) ↔ PlainAll a ∧ PlainAll b := by
  induction a with
  | nil => simp [PlainAll]
  | cons piece rest ih => simp [PlainAll, ih, and_assoc]

theorem plainAll_letters {cs : List Char} (h : ∀ c ∈ cs, c ∉ Pattern.marks) :
    PlainAll (cs.map letter) := by
  induction cs with
  | nil => trivial
  | cons c rest ih => exact ⟨h c (by simp), ih fun d hd => h d (by simp [hd])⟩

structure Linked (ps : List Piece) : Prop where
  nonempty : ps ≠ []
  no_bar : bar ∉ ps
  apart : ps.IsChain Apart

theorem apart_bar_left {p : Piece} (h : p ≠ bar) : Apart bar p := by
  cases p <;> simp_all [Apart]

theorem apart_bar_right {p : Piece} (h : p ≠ bar) : Apart p bar := by
  cases p <;> simp_all [Apart]

theorem Linked.frame {ps rest : List Piece} (linked : Linked ps)
    (framed : (bar :: rest).IsChain Apart) : (bar :: (ps ++ bar :: rest)).IsChain Apart := by
  refine List.IsChain.cons (linked.apart.append framed ?_) ?_
  · intro x hx y hy
    cases Option.mem_some.mp hy
    apply apart_bar_right
    rintro rfl
    exact linked.no_bar (List.mem_of_getLast? hx)
  · intro y hy
    apply apart_bar_left
    rintro rfl
    refine linked.no_bar (List.mem_of_head? ?_)
    cases ps with
    | nil => exact absurd rfl linked.nonempty
    | cons first tail => simpa using hy

def barred : List (List Piece) → List Piece
  | [] => []
  | [chain] => chain
  | chain :: rest => chain ++ bar :: barred rest

theorem barred_cons (chain : List Piece) {rest : List (List Piece)} (nonempty : rest ≠ []) :
    barred (chain :: rest) = chain ++ bar :: barred rest := by
  cases rest with
  | nil => exact absurd rfl nonempty
  | cons => rfl

theorem barred_append {a b : List (List Piece)} (ha : a ≠ []) (hb : b ≠ []) :
    barred (a ++ b) = barred a ++ bar :: barred b := by
  induction a with
  | nil => exact absurd rfl ha
  | cons chain rest ih =>
    cases rest with
    | nil => exact barred_cons chain hb
    | cons next others =>
      have tail : next :: others ≠ [] := by simp
      rw [List.cons_append, barred_cons chain (List.append_ne_nil_of_left_ne_nil tail b), ih tail,
        barred_cons chain tail, List.append_assoc]
      rfl

theorem barred_joinChains (a b : List (List Piece)) :
    barred (Pattern.joinChains a b) = barred a ++ barred b := by
  fun_induction Pattern.joinChains a b with
  | case1 => rfl
  | case2 last => simp [barred]
  | case3 last first rest => cases rest <;> simp [barred]
  | case4 chain left right other lone ih =>
    have tail : left ≠ [] := by
      rintro rfl
      cases right with
      | nil => exact other rfl rfl
      | cons first rest => exact lone first rest rfl rfl
    rw [barred_cons chain (Pattern.joinChains_ne_nil tail), ih, barred_cons chain tail,
      List.append_assoc]
    rfl

theorem framed_barred {chains : List (List Piece)} (nonempty : chains ≠ [])
    (linked : ∀ chain ∈ chains, Linked chain) : Framed (barred chains) := by
  induction chains with
  | nil => exact absurd rfl nonempty
  | cons chain rest ih =>
    have first := linked chain (by simp)
    cases rest with
    | nil => exact first.frame (.singleton bar)
    | cons next others =>
      have tail := ih (by simp) fun c hc => linked c (List.mem_cons_of_mem _ hc)
      have whole := first.frame tail
      simpa [Framed, barred] using whole

end Piece

namespace Pattern

open Piece (Linked Apart Framed PlainAll)

def Items (chain : List Pattern) : Prop :=
  chain ≠ [] ∧ ∀ a ∈ chain, a.Item ∧ a.CleanParts

mutual
theorem items_of_chains : (p : Pattern) → p.CleanParts →
    p.chains ≠ [] ∧ ∀ chain ∈ p.chains, Items chain
  | literal text, clean => by simp [chains, Items, Item, clean]
  | symbol name wildcard, clean => by simp [chains, Items, Item, clean]
  | group body, clean => by simp [chains, Items, Item, clean]
  | concat left right, clean => by
    obtain ⟨present, hl⟩ := items_of_chains left clean.1
    obtain ⟨_, hr⟩ := items_of_chains right clean.2
    refine ⟨joinChains_ne_nil present, forall_joinChains hl hr ?_⟩
    intro a b ha hb
    refine ⟨by simp [ha.1], ?_⟩
    intro x hx
    rcases List.mem_append.mp hx with hx | hx
    · exact ha.2 x hx
    · exact hb.2 x hx
  | alternation children, clean => items_of_chainsOf children clean.1 clean.2

theorem items_of_chainsOf : (ps : List Pattern) → ps ≠ [] → CleanPartsAll ps →
    chainsOf ps ≠ [] ∧ ∀ chain ∈ chainsOf ps, Items chain
  | [], nonempty, _ => absurd rfl nonempty
  | [child], _, clean => by simpa [chainsOf] using items_of_chains child clean.1
  | child :: next :: rest, _, clean => by
    obtain ⟨present, hc⟩ := items_of_chains child clean.1
    obtain ⟨_, hr⟩ := items_of_chainsOf (next :: rest) (by simp) clean.2
    rw [chainsOf]
    refine ⟨by simp [present], ?_⟩
    intro chain member
    rcases List.mem_append.mp member with h | h
    · exact hc chain h
    · exact hr chain h
end

def linkedPieces (chain : List Pattern) : List Piece :=
  chain.flatMap pieces

theorem linkedPieces_append (a b : List Pattern) :
    linkedPieces (a ++ b) = linkedPieces a ++ linkedPieces b :=
  List.flatMap_append

theorem linkedPieces_cons (a : Pattern) (rest : List Pattern) :
    linkedPieces (a :: rest) = a.pieces ++ linkedPieces rest :=
  List.flatMap_cons

mutual
theorem pieces_eq_barred : (p : Pattern) → p.CleanParts →
    p.pieces = Piece.barred (p.chains.map linkedPieces)
  | literal _, _ => by simp [chains, linkedPieces, Piece.barred]
  | symbol _ _, _ => by simp [chains, linkedPieces, Piece.barred]
  | group _, _ => by simp [chains, linkedPieces, Piece.barred]
  | concat left right, clean => by
    rw [chains, map_joinChains linkedPieces_append, Piece.barred_joinChains,
      ← pieces_eq_barred left clean.1, ← pieces_eq_barred right clean.2, pieces]
  | alternation children, clean => piecesOf_eq_barred children clean.1 clean.2

theorem piecesOf_eq_barred : (ps : List Pattern) → ps ≠ [] → CleanPartsAll ps →
    piecesOf ps = Piece.barred ((chainsOf ps).map linkedPieces)
  | [], nonempty, _ => absurd rfl nonempty
  | [child], _, clean => by simpa [piecesOf, chainsOf] using pieces_eq_barred child clean.1
  | child :: next :: rest, _, clean => by
    have front := (items_of_chains child clean.1).1
    have back := (items_of_chainsOf (next :: rest) (by simp) clean.2).1
    rw [chainsOf, List.map_append, Piece.barred_append (by simpa using front) (by simpa using back),
      ← pieces_eq_barred child clean.1, ← piecesOf_eq_barred (next :: rest) (by simp) clean.2,
      piecesOf]
    simp
end

theorem linked_item {a : Pattern} (item : a.Item) (clean : a.CleanParts) : Linked a.pieces := by
  cases a with
  | literal text =>
    refine ⟨by simpa [pieces] using clean.1, by simp [pieces], ?_⟩
    rw [pieces, List.isChain_map]
    exact List.Pairwise.isChain (List.pairwise_of_forall fun _ _ => trivial)
  | symbol name wildcard => exact ⟨by simp [pieces], by simp [pieces], .singleton _⟩
  | group body => exact ⟨by simp [pieces], by simp [pieces], .singleton _⟩
  | concat => exact item.elim
  | alternation => exact item.elim

theorem apart_items {a b : Pattern} (ha : a.Item) (hb : b.Item) (apart : ¬ Fuses a b) :
    ∀ x ∈ a.pieces.getLast?, ∀ y ∈ b.pieces.head?, Apart x y := by
  intro x hx y hy
  cases a with
  | literal text =>
    obtain ⟨c, _, rfl⟩ := List.mem_map.mp (List.mem_of_getLast? hx)
    trivial
  | group body =>
    cases Option.mem_some.mp hx
    trivial
  | symbol name wildcard =>
    cases Option.mem_some.mp hx
    cases b with
    | literal text =>
      rw [pieces, List.head?_map] at hy
      obtain ⟨c, hc, rfl⟩ := Option.map_eq_some_iff.mp hy
      cases named : Lexeme.isNameChar c with
      | false => exact named
      | true => exact absurd ⟨c, hc, named⟩ apart
    | symbol => cases Option.mem_some.mp hy; trivial
    | group => cases Option.mem_some.mp hy; trivial
    | concat => exact hb.elim
    | alternation => exact hb.elim
  | concat => exact ha.elim
  | alternation => exact ha.elim

theorem linked_chain {chain : List Pattern} (items : Items chain)
    (spaced : chain.IsChain fun a b => ¬ Fuses a b) : Linked (linkedPieces chain) := by
  induction chain with
  | nil => exact absurd rfl items.1
  | cons a rest ih =>
    have first := linked_item (items.2 a (by simp)).1 (items.2 a (by simp)).2
    cases rest with
    | nil => simpa [linkedPieces] using first
    | cons b others =>
      have later := ih ⟨by simp, fun x hx => items.2 x (List.mem_cons_of_mem _ hx)⟩ spaced.tail
      have second := linked_item (items.2 b (by simp)).1 (items.2 b (by simp)).2
      rw [linkedPieces_cons]
      refine ⟨by simp [first.nonempty], ?_, ?_⟩
      · rw [List.mem_append]
        rintro (h | h)
        · exact first.no_bar h
        · exact later.no_bar h
      · refine first.apart.append later.apart ?_
        intro x hx y hy
        refine apart_items (items.2 a (by simp)).1 (items.2 b (by simp)).1 spaced.rel x hx y ?_
        rw [linkedPieces_cons] at hy
        cases h : b.pieces with
        | nil => exact absurd h second.nonempty
        | cons piece tail => simpa [h] using hy

theorem framed_of_clean {p : Pattern} (parts : p.CleanParts) (spaced : p.Spaced) :
    Framed p.pieces := by
  obtain ⟨present, items⟩ := items_of_chains p parts
  rw [pieces_eq_barred p parts]
  refine Piece.framed_barred (by simpa using present) ?_
  intro ps hps
  obtain ⟨chain, member, rfl⟩ := List.mem_map.mp hps
  exact linked_chain (items chain member) (spaced chain member)

mutual
theorem plain_of_clean : (p : Pattern) → p.CleanParts → PlainAll p.pieces
  | literal _, clean => Piece.plainAll_letters clean.2
  | symbol _ _, clean => ⟨clean, trivial⟩
  | group body, clean =>
    ⟨⟨framed_of_clean clean.1 clean.2, plain_of_clean body clean.1⟩, trivial⟩
  | concat left right, clean =>
    Piece.plainAll_append.mpr ⟨plain_of_clean left clean.1, plain_of_clean right clean.2⟩
  | alternation children, clean => plainAll_of_clean children clean.2

theorem plainAll_of_clean : (ps : List Pattern) → CleanPartsAll ps → PlainAll (piecesOf ps)
  | [], _ => trivial
  | [child], clean => plain_of_clean child clean.1
  | child :: next :: rest, clean =>
    Piece.plainAll_append.mpr
      ⟨plain_of_clean child clean.1, trivial, plainAll_of_clean (next :: rest) clean.2⟩
end

end Pattern

end RouteBindings
