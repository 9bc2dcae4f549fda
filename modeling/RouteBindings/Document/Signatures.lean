import RouteBindings.Document.TypeTree
import RouteBindings.Json.Scan
import RouteBindings.Signature.Environment

/-!
Signature documents. They are read while their text is, so that the first fault of either is the one
that is reported, and text after the document does not matter.
-/

namespace RouteBindings

namespace Read

def vocabulary (place : Place) (d : Draft) : Read Vocabulary :=
  record "struct Vocabulary"
    [.of "types" true (fun place => list place fun _ => text)
        fun v names => { v with types := names },
      .of "bases" true (fun place => list place fun _ => text)
        fun v names => { v with bases := names }]
    ⟨[], []⟩ place d

def method (place : Place) (d : Draft) : Read Method :=
  record "struct MethodDefinition"
    [.of "overloads" false (fun place => list place overload) fun _ os => ⟨os⟩] ⟨[]⟩ place d

def controller (place : Place) (d : Draft) : Read Controller :=
  record "struct ControllerSignatures"
    [.of "name" true (fun _ => text) fun c name => { c with name := name },
      .of "actions" false (fun place => list place fun _ => text)
        fun c actions => { c with actions := actions },
      .of "methods" false (fun place => table place method)
        fun c methods => { c with methods := .ofRows methods }]
    ⟨"", [], .empty⟩ place d

def environment (place : Place) (d : Draft) : Read Environment :=
  record "struct SignatureEnvironment"
    [.of "vocabulary" false (fun place => optional (vocabulary place))
        fun env v => { env with vocabulary := v },
      .of "controllers" false (fun place => list place controller)
        fun env cs => { env with controllers := cs }]
    .empty place d

def streamedRoot : Place := ⟨.streamed, Draft.nestingLimit⟩

def document {α : Type} (read : Place → Draft → Read α) (file text : String) : Except Error α :=
  match read streamedRoot (Draft.ofText text) with
  | .ok x => .ok x
  | .error fault => .error (.load file fault)

end Read

namespace Vocabulary

def toJson (v : Vocabulary) : Json :=
  .object [("types", .ofStrings v.types), ("bases", .ofStrings v.bases)]

def ofDocument (file text : String) : Except Error Vocabulary :=
  Read.document Read.vocabulary file text

end Vocabulary

def Method.toJson (m : Method) : Json :=
  .object [("overloads", .array (m.overloads.map Overload.toJson))]

def Controller.toJson (c : Controller) : Json :=
  .object [("name", .string c.name), ("actions", .ofStrings c.actions),
    ("methods", .object (c.methods.rows.map fun (name, m) => (name, m.toJson)))]

namespace Environment

def toJson (env : Environment) : Json :=
  .object [("vocabulary", .ofOption Vocabulary.toJson env.vocabulary),
    ("controllers", .array (env.controllers.map Controller.toJson))]

def ofDocument (file text : String) : Except Error Environment :=
  Read.document Read.environment file text

end Environment

end RouteBindings
