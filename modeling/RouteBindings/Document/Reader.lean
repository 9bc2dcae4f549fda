import RouteBindings.Document.Fault
import RouteBindings.Json.Draft

/-!
Reading the values of a document. The first fault in document order is reported: fields are read as
they come, and a missing field is noticed at the end of its object.
-/

namespace RouteBindings

/-- How a value reached its reader. Streamed values are read while the text is, a loaded value comes
from a tree that is complete, and a held value was set aside until its tag was known. -/
inductive Delivery where
  | streamed
  | loaded
  | held
  deriving DecidableEq

structure Place where
  delivery : Delivery
  depth : Nat

abbrev Read (α : Type) := Except DocumentFault α

namespace Read

variable {α : Type}

def fail (cause : DecodeCause) : Read α :=
  .error (.misfit [] cause)

def malformed : Read α :=
  .error .malformed

def within (step : DocumentStep) : Read α → Read α
  | .error (.misfit path cause) => .error (.misfit (step :: path) cause)
  | other => other

def here : Read α → Read α
  | .error (.misfit _ cause) => .error (.misfit [] cause)
  | other => other

end Read

def Draft.found? : Draft → Option Found
  | null => some .null
  | bool b => some (.boolean b)
  | number (.integer n) => some (.integer n)
  | number (.double x) => some (.double x)
  | string s => some (.text s)
  | array _ _ => some .sequence
  | object _ _ => some .map
  | flawed => none
  | broken => none

def Draft.isNull : Draft → Bool
  | null => true
  | _ => false

namespace Read

variable {α ρ κ : Type}

def mismatch (wanted : Wanted) (d : Draft) : Read α :=
  match d.found? with
  | some found => fail (.invalidType found wanted)
  | none => malformed

/-- Only streamed values can still turn out to be too deep. -/
def enter (place : Place) : Read Place :=
  match place.delivery, place.depth with
  | .streamed, 0 => malformed
  | .streamed, depth + 1 => .ok ⟨.streamed, depth⟩
  | _, _ => .ok place

def text : Draft → Read String
  | .string s => .ok s
  | d => mismatch .text d

def boolean : Draft → Read Bool
  | .bool b => .ok b
  | d => mismatch .boolean d

def optional (read : Draft → Read α) (d : Draft) : Read (Option α) :=
  if d.isNull then .ok none else (read d).map some

def items (read : Draft → Read α) (index : Nat) : List Draft → Read (List α)
  | [] => .ok []
  | d :: rest => do
    let x ← within (.index index) (read d)
    let xs ← items read (index + 1) rest
    return x :: xs

def list (place : Place) (read : Place → Draft → Read α) : Draft → Read (List α)
  | .array ds closed => do
    let inner ← enter place
    let xs ← items (read inner) 0 ds
    if closed then return xs else malformed
  | d => mismatch .sequence d

def entries (read : Draft → Read α) : List (Option String × Draft) → Read (List (String × α))
  | [] => .ok []
  | (none, _) :: _ => malformed
  | (some name, d) :: rest => do
    let x ← within (.name name) (read d)
    let xs ← entries read rest
    return (name, x) :: xs

def table (place : Place) (read : Place → Draft → Read α) : Draft → Read (List (String × α))
  | .object es closed => do
    let inner ← enter place
    let xs ← entries (read inner) es
    if closed then return xs else malformed
  | d => mismatch .map d

structure Field (ρ : Type) where
  name : String
  required : Bool
  read : Place → Draft → ρ → Read ρ

def passOver (place : Place) (d : Draft) : Bool :=
  place.delivery ≠ .streamed || d.isWritten

def namedFields (fields : List (Field ρ)) (place : Place) (seen : List String) (record : ρ) :
    List (Option String × Draft) → Read (List String × ρ)
  | [] => .ok (seen, record)
  | (none, _) :: _ => malformed
  | (some name, d) :: rest =>
    match fields.find? (·.name = name) with
    | none => if passOver place d then namedFields fields place seen record rest else malformed
    | some field =>
      if seen.contains name then fail (.duplicateField name)
      else do
        let record ← within (.name name) (field.read place d record)
        namedFields fields place (name :: seen) record rest

/-- The fields by their places, from the one at `index` on; `size` is the count of all elements. -/
def placedFields (label : String) (all : List (Field ρ)) (place : Place) (size : Nat)
    (closed : Bool) : List (Field ρ) → Nat → ρ → List Draft → Read ρ
  | [], _, record, rest =>
    match place.delivery with
    | .streamed => if rest.isEmpty && closed then .ok record else malformed
    | .loaded => if rest.isEmpty then .ok record else fail (.invalidLength size .fewer)
    | .held => if rest.isEmpty then .ok record else fail (.invalidLength size (.exactly all.length))
  | fields, index, record, [] =>
    if closed then
      match fields.findIdx? (·.required) with
      | none => .ok record
      | some missing => fail (.invalidLength (index + missing) (.fields label all.length))
    else malformed
  | field :: fields, index, record, d :: rest => do
    let record ← within (.index index) (field.read place d record)
    placedFields label all place size closed fields (index + 1) record rest

/-- A record is an object of its fields, or an array of them in order. It starts as a blank, which
keeps the defaults of the fields that are left out. -/
def record (label : String) (fields : List (Field ρ)) (blank : ρ) (place : Place) :
    Draft → Read ρ
  | .array ds closed => do
    let inner ← enter place
    placedFields label fields inner ds.length closed fields 0 blank ds
  | .object es closed => do
    let inner ← enter place
    let (seen, record) ← namedFields fields inner [] blank es
    if closed then
      match fields.find? fun field => field.required && !seen.contains field.name with
      | some field => fail (.missingField field.name)
      | none => return record
    else malformed
  | d => mismatch (.record label) d

/-- A tag by its name. A held tag may be the index of the name instead. -/
def tag (tags : List (String × κ)) (place : Place) : Draft → Read κ
  | .string s =>
    match tags.lookup s with
    | some k => .ok k
    | none => fail (.unknownTag s (tags.map Prod.fst))
  | .number (.integer n) =>
    if place.delivery = .held ∧ 0 ≤ n then
      match tags[n.toNat]? with
      | some (_, k) => .ok k
      | none => fail (.invalidValue (.integer n) (.tagIndex tags.length))
    else mismatch .tag (.number (.integer n))
  | d => mismatch .tag d

def canHold (place : Place) (d : Draft) : Bool :=
  place.delivery ≠ .streamed || (d.value? place.depth).isSome

def taggedEntries (tags : List (String × κ)) (place : Place) (found : Option κ) :
    List (Option String × Draft) → Read (Option κ × List (Option String × Draft))
  | [] => .ok (found, [])
  | (none, _) :: _ => malformed
  | (some name, d) :: rest =>
    if name = "kind" then
      if found.isSome then fail (.duplicateField "kind")
      else do
        let k ← within (.name name) (tag tags place d)
        taggedEntries tags place (some k) rest
    else if canHold place d then do
      let (k, others) ← taggedEntries tags place found rest
      return (k, (some name, d) :: others)
    else malformed

/-- A value with a tag: its tag, and what is left of it. An array has its tag first. -/
def tagged (label : String) (tags : List (String × κ)) (place : Place) : Draft → Read (κ × Draft)
  | .array ds closed => do
    let inner ← enter place
    match ds with
    | [] => if closed then fail (.missingField "kind") else malformed
    | first :: rest => do
      let k ← within (.index 0) (tag tags inner first)
      if closed && rest.all (canHold inner) then return (k, .array rest true) else malformed
  | .object es closed => do
    let inner ← enter place
    match ← taggedEntries tags inner none es with
    | (found, others) =>
      if closed then
        match found with
        | some k => return (k, .object others true)
        | none => fail (.missingField "kind")
      else malformed
  | d => mismatch (.tagged label) d

/-- A held choice: a tag alone, or an object of one entry that is named by the tag. -/
def choice (tags : List (String × κ)) (place : Place) : Draft → Read (κ × Option Draft)
  | .string s => do
    let k ← tag tags place (.string s)
    return (k, none)
  | .object [(some name, d)] _ => do
    let k ← tag tags place (.string name)
    return (k, some d)
  | .object _ _ => fail (.invalidValue .map .singleEntry)
  | d => mismatch .textOrMap d

def noValue : Option Draft → Read Unit
  | none => .ok ()
  | some .null => .ok ()
  | some (.object [] _) => .ok ()
  | some d => mismatch .nothing d

def plainChoice (tags : List (String × κ)) (place : Place) (d : Draft) : Read κ := do
  let (k, value) ← choice tags place d
  noValue value
  return k

/-- A streamed choice without a value. What is neither a text nor an object is no choice at all. -/
def streamedChoice (tags : List (String × κ)) (place : Place) : Draft → Read κ
  | .string s => tag tags place (.string s)
  | .object es closed => do
    let inner ← enter place
    match es with
    | (some name, d) :: rest => do
      let k ← tag tags inner (.string name)
      if d.isNull then
        if rest.isEmpty && closed then return k else malformed
      else within (.name name) (mismatch .nothing d)
    | _ => malformed
  | _ => malformed

end Read

end RouteBindings
