import RouteBindings.Proofs.Error
import RouteBindings.Signature.Collection

namespace RouteBindings

theorem recoverable_base (name : BaseType) : Recoverable name.chars := by
  cases name with
  | any => exact recoverable_ok _
  | void => exact recoverable_ok _
  | nil => exact recoverable_ok _
  | bool => exact recoverable_ok _
  | _ => exact recoverable_unsupported _

theorem recoverable_literal (value : LiteralType) : Recoverable value.chars := by
  cases value with
  | float x => exact recoverable_unsupported _
  | _ => exact recoverable_ok _

namespace TypeExpr

mutual
theorem recoverable_chars (level : Nat) : (type : TypeExpr) → Recoverable (type.chars level)
  | base name => recoverable_base name
  | literal value => recoverable_literal value
  | tuple [] => recoverable_ok _
  | tuple (type :: types) => by
    rw [chars]
    exact (recoverable_charsOf 0 (type :: types)).bind fun _ => recoverable_ok _
  | record [] => recoverable_ok _
  | record (field :: fields) => by
    rw [chars]
    exact (recoverable_fieldChars (field :: fields)).bind fun _ => recoverable_ok _
  | union types => by
    rw [chars]
    exact (recoverable_charsOf 0 types).bind fun _ => recoverable_ok _
  | intersection types => by
    rw [chars]
    exact (recoverable_charsOf 2 types).bind fun _ => recoverable_ok _
  | optional type => by
    rw [chars]
    exact (recoverable_chars 1 type).bind fun _ => recoverable_ok _
  | classInstance name [] => by
    rw [chars]
    split
    · exact recoverable_ok _
    split
    · exact recoverable_ok _
    · exact recoverable_unsupported _
  | classInstance name [item] => by
    rw [chars]
    split
    · exact (recoverable_chars 0 item).bind fun _ => recoverable_ok _
    · exact recoverable_unsupported _
  | classInstance name (_ :: _ :: rest) => recoverable_unsupported _
  | function _ => recoverable_unsupported _
  | interface _ _ => recoverable_unsupported _
  | classSingleton _ => recoverable_unsupported _
  | .variable _ => recoverable_unsupported _
  | typeAlias _ => recoverable_unsupported _
  | proc _ => recoverable_unsupported _

theorem recoverable_charsOf (level : Nat) :
    (types : List TypeExpr) → Recoverable (charsOf level types)
  | [] => recoverable_ok _
  | type :: rest => by
    rw [charsOf]
    exact (recoverable_chars level type).bind fun _ =>
      (recoverable_charsOf level rest).bind fun _ => recoverable_ok _

theorem recoverable_fieldChars :
    (fields : List (RecordField TypeExpr)) → Recoverable (fieldChars fields)
  | [] => recoverable_ok _
  | ⟨key, type⟩ :: rest => by
    rw [fieldChars]
    exact (recoverable_chars 0 type).bind fun _ =>
      (recoverable_fieldChars rest).bind fun _ => recoverable_ok _
end

theorem recoverable_text (level : Nat) (type : TypeExpr) : Recoverable (type.text level) := by
  intro error failed
  rw [text] at failed
  cases written : type.chars level with
  | ok cs =>
    rw [written] at failed
    cases failed
  | error e =>
    rw [written] at failed
    cases failed
    exact recoverable_chars level type error written

end TypeExpr

theorem recoverable_param (param : Param TypeExpr) : Recoverable param.chars := by
  have kind : Recoverable param.kind.isOptional := by
    cases param.kind with
    | restPositional => exact recoverable_unsupported _
    | restKeyword => exact recoverable_unsupported _
    | _ => exact recoverable_ok _
  refine kind.bind fun isOptional => ?_
  split
  · exact recoverable_unsupported _
  · exact (param.type.recoverable_chars 0).bind fun _ => recoverable_ok _

theorem recoverable_plain (overload : Overload) : Recoverable overload.plain := by
  rw [Overload.plain]
  split
  · split
    · exact recoverable_unsupported _
    · exact recoverable_ok _
  · exact recoverable_unsupported _

theorem recoverable_paramsText (callable : Callable TypeExpr) :
    Recoverable callable.paramsText := by
  refine (recoverable_mapM recoverable_param callable.params).bind fun items => ?_
  split
  · exact recoverable_ok _
  · exact recoverable_ok _

theorem recoverable_convert (controller : Controller) (key action : String) :
    Recoverable (Collection.convert controller key action) := by
  rw [Collection.convert]
  split
  · exact recoverable_ok _
  · split
    · exact (recoverable_plain _).bind fun callable =>
        (recoverable_paramsText callable).bind fun _ =>
          (callable.returns.recoverable_text 0).bind fun _ => recoverable_ok _
    · intro error failed
      cases failed
      rfl

end RouteBindings
