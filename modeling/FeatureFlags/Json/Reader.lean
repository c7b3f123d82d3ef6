import FeatureFlags.Json.Document
import FeatureFlags.Json.Numeral
import FeatureFlags.Json.Token

/-!
# Reading JSON texts

The tokens of a text drive a stack machine: a stack of the arrays and objects under way (`Frame`),
and what is expected next (`Expected`). A token that is not expected ends the reading, and so does
the end of the text if anything is still under way.

A container nested deeper than `maxDepth` is still read to its end, so that its form is checked, but
has no value.
-/

namespace FeatureFlags
namespace Json

/-- An array or object under way, its finished parts last first. -/
inductive Frame where
  | array (done : List Document)
  /-- `name` is the name of the member under way -/
  | object (done : List (Option String × Document)) (name : Option String)

inductive Expected where
  | value
  | itemOrEnd
  | nameOrEnd
  | name
  | colon
  /-- a comma or the end of the container, after the value given -/
  | separator (last : Document)

/-- How deep arrays and objects may nest and still have a value. -/
def maxDepth : Nat := 127

def wordDocument? (cs : List Char) : Option Document :=
  if cs = "null".toList then some .null
  else if cs = "true".toList then some (.bool true)
  else if cs = "false".toList then some (.bool false)
  else (Numeral.ofChars? cs).map fun n => (n.value?.map Document.number).getD .unreadable

/-- The finished container on top of `below`, as long as it is not nested too deep. -/
def close (below : List Frame) (d : Document) : List Frame × Expected :=
  (below, .separator (if below.length < maxDepth then d else .unreadable))

def beginValue (stack : List Frame) : Token → Option (List Frame × Expected)
  | .beginArray => some (.array [] :: stack, .itemOrEnd)
  | .beginObject => some (.object [] none :: stack, .nameOrEnd)
  | .text s => some (stack, .separator ((s.map Document.string).getD .unreadable))
  | .word cs => (wordDocument? cs).map fun d => (stack, .separator d)
  | _ => none

def beginMember : List Frame → Token → Option (List Frame × Expected)
  | .object done _ :: below, .text name => some (.object done name :: below, .colon)
  | _, _ => none

def step : List Frame × Expected → Token → Option (List Frame × Expected)
  | (.array done :: below, .itemOrEnd), .endArray => some (close below (.array done.reverse))
  | (stack, .itemOrEnd), t => beginValue stack t
  | (stack, .value), t => beginValue stack t
  | (.object done _ :: below, .nameOrEnd), .endObject => some (close below (.object done.reverse))
  | (stack, .nameOrEnd), t => beginMember stack t
  | (stack, .name), t => beginMember stack t
  | (stack, .colon), .colon => some (stack, .value)
  | (.array done :: below, .separator d), .comma => some (.array (d :: done) :: below, .value)
  | (.array done :: below, .separator d), .endArray =>
    some (close below (.array (d :: done).reverse))
  | (.object done name :: below, .separator d), .comma =>
    some (.object ((name, d) :: done) none :: below, .name)
  | (.object done name :: below, .separator d), .endObject =>
    some (close below (.object ((name, d) :: done).reverse))
  | _, _ => none

/-- The document that a text is. -/
def read? (text : String) : Option Document := do
  match ← (← Token.scan text.toList).foldlM step ([], .value) with
  | ([], .separator d) => some d
  | _ => none

/-- The value that a text denotes. -/
def parse? (text : String) : Option Json := do (← read? text).toJson?

end Json
end FeatureFlags
