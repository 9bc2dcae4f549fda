import RouteBindings.Number.Layout
import RouteBindings.Pattern.Fault
import RouteBindings.Text.Escaped

namespace RouteBindings

inductive Found where
  | null
  | boolean (b : Bool)
  | integer (n : Int)
  | double (x : Number.Double)
  | text (s : String)
  | sequence
  | map
  | bareTag

def Found.message : Found → String
  | null => "null"
  | boolean b => if b then "boolean `true`" else "boolean `false`"
  | integer n => "integer `" ++ toString n ++ "`"
  | double x => "floating point `" ++ x.jsonText ++ "`"
  | text s => "string " ++ Text.escaped s
  | sequence => "sequence"
  | map => "map"
  | bareTag => "unit variant"

inductive Wanted where
  | text
  | boolean
  | integer
  | float
  | sequence
  | map
  | record (label : String)
  | tagged (label : String)
  | paired (label : String)
  | tag
  | tagIndex (count : Nat)
  | textOrMap
  | singleEntry
  | nothing
  | tagWithValue

def Wanted.message : Wanted → String
  | text => "a string"
  | boolean => "a boolean"
  | integer => "i64"
  | float => "f64"
  | sequence => "a sequence"
  | map => "a map"
  | record label => label
  | tagged label => "internally tagged enum " ++ label
  | paired label => "adjacently tagged enum " ++ label
  | tag => "variant identifier"
  | tagIndex count => "variant index 0 <= i < " ++ toString count
  | textOrMap => "string or map"
  | singleEntry => "map with a single key"
  | nothing => "unit"
  | tagWithValue => "newtype variant"

inductive WantedLength where
  | fields (label : String) (count : Nat)
  | pair (label : String)
  | fewer
  | exactly (count : Nat)

def elementCount (count : Nat) : String :=
  if count = 1 then "1 element" else toString count ++ " elements"

def WantedLength.message : WantedLength → String
  | fields label count => label ++ " with " ++ elementCount count
  | pair label => "adjacently tagged enum " ++ label
  | fewer => "fewer elements in array"
  | exactly count => elementCount count ++ " in sequence"

inductive DecodeCause where
  | invalidType (found : Found) (wanted : Wanted)
  | invalidValue (found : Found) (wanted : Wanted)
  | invalidLength (length : Nat) (wanted : WantedLength)
  | unknownTag (tag : String) (known : List String)
  | missingField (name : String)
  | duplicateField (name : String)
  | noPattern
  | badPattern (text : String) (fault : PatternFault)

def knownTags : List String → String
  | [] => "there are no variants"
  | [a] => "expected `" ++ a ++ "`"
  | [a, b] => "expected `" ++ a ++ "` or `" ++ b ++ "`"
  | tags => "expected one of " ++ String.intercalate ", " (tags.map fun tag => "`" ++ tag ++ "`")

def DecodeCause.message : DecodeCause → String
  | invalidType found wanted =>
    "invalid type: " ++ found.message ++ ", expected " ++ wanted.message
  | invalidValue found wanted =>
    "invalid value: " ++ found.message ++ ", expected " ++ wanted.message
  | invalidLength length wanted =>
    "invalid length " ++ toString length ++ ", expected " ++ wanted.message
  | unknownTag tag known => "unknown variant `" ++ tag ++ "`, " ++ knownTags known
  | missingField name => "missing field `" ++ name ++ "`"
  | duplicateField name => "duplicate field `" ++ name ++ "`"
  | noPattern => "data did not match any variant of untagged enum SpecSource"
  | badPattern text fault => fault.message text

inductive DocumentStep where
  | name (s : String)
  | index (n : Nat)
  deriving DecidableEq, Repr

/-- A path from the root of a document; the root itself is a point. -/
def documentPath : List DocumentStep → String
  | [] => "."
  | first :: rest =>
    let head := match first with
      | .name s => s
      | .index n => "[" ++ toString n ++ "]"
    rest.foldl (fun path step =>
      match step with
      | .name s => path ++ "." ++ s
      | .index n => path ++ "[" ++ toString n ++ "]") head

inductive DocumentFault where
  | malformed
  | misfit (path : List DocumentStep) (cause : DecodeCause)

def DocumentFault.message : DocumentFault → String
  | malformed => "malformed JSON"
  | misfit path cause => "at JSON path " ++ documentPath path ++ " → " ++ cause.message

end RouteBindings
