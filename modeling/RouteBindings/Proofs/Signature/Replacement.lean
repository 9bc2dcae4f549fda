import RouteBindings.Proofs.Signature.Collection

namespace RouteBindings

/-- The second controller may declare another method for the action, or none; all else is the
same. -/
structure Controller.AgreesBesides (c : Controller) (action : String) (d : Controller) : Prop where
  name : d.name = c.name
  actions : d.actions = c.actions
  methods : ∀ other, other ≠ action → d.methods.get? other = c.methods.get? other

def Controller.report? (c : Controller) (action : String) : Option Diagnostic :=
  (Occurrence.mk c action).diagnostic?

def Controller.reports (controllers : List Controller) : List Diagnostic :=
  controllers.flatMap fun c => c.actions.filterMap c.report?

namespace Environment

theorem filterMap_occurrences {α : Type} (f : Occurrence → Option α) (env : Environment) :
    env.occurrences.filterMap f =
      env.controllers.flatMap fun c => c.actions.filterMap fun action => f ⟨c, action⟩ := by
  rw [occurrences, List.filterMap_flatMap]
  simp only [List.filterMap_map, Function.comp_def]

end Environment

namespace Controller.AgreesBesides

variable {c d : Controller} {action : String}

theorem outcome (agrees : c.AgreesBesides action d) {other : String} (apart : other ≠ action) :
    (Occurrence.mk d other).outcome = (Occurrence.mk c other).outcome := by
  simp only [Occurrence.outcome, Occurrence.key, Collection.convert, agrees.name,
    agrees.methods other apart]

theorem report (agrees : c.AgreesBesides action d) {other : String} (apart : other ≠ action) :
    d.report? other = c.report? other := by
  simp only [Controller.report?, Occurrence.diagnostic?, agrees.outcome apart, agrees.name]

theorem signature (agrees : c.AgreesBesides action d) {other : String} (apart : other ≠ action) :
    (Occurrence.mk d other).signature? = (Occurrence.mk c other).signature? := by
  simp only [Occurrence.signature?, agrees.outcome apart]

end Controller.AgreesBesides

namespace Occurrence

def storedAt (o : Occurrence) (address : String × String) : Option ActionSignature :=
  o.signature?.filter fun s => s.controller = address.1 ∧ s.action = address.2

theorem storedAt_other {o : Occurrence} {address : String × String} (other : o.address ≠ address) :
    o.storedAt address = none := by
  rw [storedAt, Option.filter_eq_none_iff]
  intro s converted stored
  have own := address_of_signature converted
  obtain ⟨controller, action⟩ := of_decide_eq_true stored
  exact other (own.symm.trans (Prod.ext controller action))

end Occurrence

namespace Environment

theorem get?_converted (env : Environment) (key action : String) :
    (SignatureTable.ofList env.converted).get? key action =
      (env.controllers.flatMap fun c =>
        c.actions.filterMap fun own => (Occurrence.mk c own).storedAt (key, action)).getLast? := by
  rw [SignatureTable.get?_ofList, converted, List.filter_filterMap, filterMap_occurrences]
  rfl

variable {c d : Controller} {action : String} {vocabulary : Option Vocabulary}
  {before after : List Controller}

theorem get?_converted_congr (agrees : c.AgreesBesides action d) {key other : String}
    (apart : (key, other) ≠ (Names.controllerKey c.name, action)) :
    (SignatureTable.ofList (converted ⟨vocabulary, before ++ d :: after⟩)).get? key other =
      (SignatureTable.ofList (converted ⟨vocabulary, before ++ c :: after⟩)).get? key other := by
  have same : (d.actions.filterMap fun own => (Occurrence.mk d own).storedAt (key, other)) =
      c.actions.filterMap fun own => (Occurrence.mk c own).storedAt (key, other) := by
    rw [agrees.actions]
    apply List.filterMap_congr
    intro own _
    -- the replaced action stores nothing under this address, before or after
    by_cases replaced : own = action
    · subst replaced
      have apartHere : (Occurrence.mk c own).address ≠ (key, other) := fun e => apart e.symm
      have apartThere : (Occurrence.mk d own).address ≠ (key, other) := by
        intro e
        rw [Occurrence.address, Occurrence.key, agrees.name] at e
        exact apart e.symm
      rw [Occurrence.storedAt_other apartHere, Occurrence.storedAt_other apartThere]
    · rw [Occurrence.storedAt, Occurrence.storedAt, agrees.signature replaced]
  rw [get?_converted, get?_converted]
  simp only [List.flatMap_append, List.flatMap_cons, same]

end Environment

end RouteBindings
