import RouteBindings.Json.Value

/-!
A draft is a JSON text as far as it can be read. Where the text breaks, the value there is broken
and the arrays and objects around it stay open; what stands before the break can still be used.
-/

namespace RouteBindings

/-- A flawed value is written well and has no meaning: a number beyond the range of numbers, or a
text with half a surrogate pair. A flawed name has no text. -/
inductive Draft where
  | null
  | bool (b : Bool)
  | number (n : Numeral)
  | string (s : String)
  | flawed
  | array (items : List Draft) (closed : Bool)
  | object (entries : List (Option String × Draft)) (closed : Bool)
  | broken

namespace Draft

def nestingLimit : Nat := 127

mutual
def isWritten : Draft → Bool
  | array items closed => areWritten items && closed
  | object entries closed => areWrittenEntries entries && closed
  | broken => false
  | _ => true

def areWritten : List Draft → Bool
  | [] => true
  | item :: rest => item.isWritten && areWritten rest

def areWrittenEntries : List (Option String × Draft) → Bool
  | [] => true
  | (_, value) :: rest => value.isWritten && areWrittenEntries rest
end

mutual
def depth : Draft → Nat
  | array items _ => itemDepth items + 1
  | object entries _ => entryDepth entries + 1
  | _ => 0

def itemDepth : List Draft → Nat
  | [] => 0
  | item :: rest => max item.depth (itemDepth rest)

def entryDepth : List (Option String × Draft) → Nat
  | [] => 0
  | (_, value) :: rest => max value.depth (entryDepth rest)
end

mutual
/-- The value, unless the text breaks, something is flawed, or it nests deeper than `depth`. -/
def value? : Nat → Draft → Option Json
  | _, null => some .null
  | _, bool b => some (.bool b)
  | _, number n => some (.number n)
  | _, string s => some (.string s)
  | depth + 1, array items true => (values? depth items).map .array
  | depth + 1, object entries true => (entryValues? depth entries).map .object
  | _, _ => none

def values? : Nat → List Draft → Option (List Json)
  | _, [] => some []
  | depth, item :: rest =>
    match item.value? depth, values? depth rest with
    | some value, some values => some (value :: values)
    | _, _ => none

def entryValues? : Nat → List (Option String × Draft) → Option (List (String × Json))
  | _, [] => some []
  | depth, (name, item) :: rest =>
    match name, item.value? depth, entryValues? depth rest with
    | some name, some value, some values => some ((name, value) :: values)
    | _, _, _ => none
end

end Draft

end RouteBindings
