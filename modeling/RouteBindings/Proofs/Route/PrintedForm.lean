import RouteBindings.Proofs.Pattern.PrintedForm
import RouteBindings.Route.Record

namespace RouteBindings.Route

theorem effectiveName_some {last : Option (String × Route)} {route : Route} {name : String}
    (nameless : route.name = none) (h : effectiveName? last route = some name) :
    ∃ kept, last = some (name, kept) ∧ kept.pattern.written = route.pattern.written := by
  unfold effectiveName? at h
  split at h
  · rename_i given
    rw [nameless] at given
    cases given
  · split at h
    · rename_i alike
      cases h
      exact ⟨_, rfl, alike⟩
    · cases h
  · cases h

/-- The entry before a nameless one has its name and is written like it. At the front of the list
it is the route kept last. -/
theorem namedFrom_predecessor {last : Option (String × Route)} {routes : List Route}
    {before after : List (String × Route)} {name : String} {route : Route}
    (split : namedFrom last routes = before ++ (name, route) :: after)
    (nameless : route.name = none) :
    ∃ kept, (before.getLast?.or last) = some (name, kept) ∧
      kept.pattern.written = route.pattern.written := by
  induction routes generalizing last before with
  | nil => cases before <;> cases split
  | cons first rest ih =>
    simp only [namedFrom] at split
    split at split
    · exact ih split
    · split at split
      · exact ih split
      · rename_i given hgiven
        cases before with
        | nil =>
          cases split
          exact effectiveName_some nameless hgiven
        | cons entry before =>
          rw [List.cons_append, List.cons.injEq] at split
          obtain ⟨rfl, tail⟩ := split
          obtain ⟨kept, found, alike⟩ := ih tail
          refine ⟨kept, ?_, alike⟩
          rw [List.getLast?_cons]
          cases h : before.getLast? with
          | none => simpa [h] using found
          | some x => simpa [h] using found

end RouteBindings.Route

namespace RouteBindings.Pattern

/-- The written form of a clean pattern says everything about its path: it is read back to a
pattern with the same path and symbols, so that clean patterns written alike have the same path,
and so have a nameless route and the route that it is merged into. -/
theorem clean_written_sound :
    (∀ t : Pattern, t.Clean → ∃ u, parse t.written = .ok u ∧
      (∀ params, u.evaluate params = t.evaluate params) ∧ u.symbolNames = t.symbolNames) ∧
    (∀ t u : Pattern, t.Clean → u.Clean → t.written = u.written →
      ∀ params, t.evaluate params = u.evaluate params) ∧
    ∀ routes before after name (route : Route),
      Route.named routes = before ++ (name, route) :: after → route.name = none →
      ∃ earlier kept, before = earlier ++ [(name, kept)] ∧
        (kept.pattern.Clean → route.pattern.Clean →
          ∀ params, route.pattern.evaluate params = kept.pattern.evaluate params) := by
  have alike : ∀ t u : Pattern, t.Clean → u.Clean → t.written = u.written →
      ∀ params, t.evaluate params = u.evaluate params := by
    intro t u ht hu same params
    obtain ⟨p, hp, samep, fullp⟩ := exists_parse_written ht
    obtain ⟨q, hq, sameq, fullq⟩ := exists_parse_written hu
    rw [same, hq] at hp
    cases hp
    rw [evaluate_of_pieces (full_of_clean t ht.1) fullp samep.symm,
      evaluate_of_pieces (full_of_clean u hu.1) fullq sameq.symm]
  refine ⟨?_, alike, ?_⟩
  · intro t clean
    obtain ⟨u, hu, same, full⟩ := exists_parse_written clean
    refine ⟨u, hu, evaluate_of_pieces full (full_of_clean t clean.1) same, ?_⟩
    rw [← namesOf_pieces u, ← namesOf_pieces t, same]
  · intro routes before after name route split nameless
    obtain ⟨kept, found, written⟩ := Route.namedFrom_predecessor split nameless
    rw [Option.or_none] at found
    obtain ⟨earlier, rfl⟩ := List.getLast?_eq_some_iff.mp found
    exact ⟨earlier, kept, rfl, fun hk hr => alike _ _ hr hk written.symm⟩

/-- The alternation behind `/x/` is not kept: it is read back around the whole pattern. -/
theorem clean_written_sound_branch :
    ∃ u, parse "/x/a|:n" = .ok u ∧ ∀ params, u.evaluate params =
      (concat (literal "/x/") (alternation [literal "a", symbol "n" false])).evaluate params := by
  have clean : (concat (literal "/x/") (alternation [literal "a", symbol "n" false])).Clean := by
    refine ⟨⟨⟨by decide, by simp [marks]⟩, by simp, ⟨by decide, by simp [marks]⟩, ?_, trivial⟩, ?_⟩
    · exact ⟨by decide, by simp [Lexeme.isNameChar]⟩
    · intro chain member
      simp only [chains, chainsOf, joinChains, List.append_nil, List.singleton_append,
        List.mem_cons, List.not_mem_nil, or_false] at member
      rcases member with rfl | rfl
      · exact .cons_cons (fun fuses => fuses) (.singleton _)
      · exact .singleton _
  obtain ⟨u, read, same, -⟩ := clean_written_sound.1 _ clean
  exact ⟨u, read, same⟩

end RouteBindings.Pattern
