import FeatureFlags.Json.Value
import FeatureFlags.Text.Split

/-!
# Attribute references

A reference addresses a value inside an object. Text that starts with a slash is a path: components
separated by slashes, in which `~1` stands for a slash and `~0` for a tilde. Any other text is a
literal: the name of one top-level attribute, whatever characters it holds. The empty text and the
lone slash address nothing.

* `Reference.components` are the names that a reference addresses, from the top level down; all that
  is done with a reference is done with these names.
* `Reference.ofComponents` and `Reference.ofName` go the other way and write a path.
* `Reference.isValid` tells well-formed texts, and `Reference.get?` looks a value up.

Two references are the same if they have the same components, however they are written.
-/

namespace FeatureFlags

/-- An attribute reference: the text it was made from. -/
structure Reference where
  text : String
deriving DecidableEq, Repr, Inhabited

namespace Reference

theorem eq_of_text_eq {r s : Reference} (h : r.text = s.text) : r = s := by
  cases r
  cases s
  exact congrArg mk h

/-! ### Paths and their components

A component is read in two passes, the slashes first: `~01` is read as `~1`, since the tilde that
comes out of the second pass is not looked at again. Writing escapes each character by itself. -/

/-- `~1` becomes a slash. -/
def unescapeSlash : List Char → List Char
  | '~' :: '1' :: cs => '/' :: unescapeSlash cs
  | c :: cs => c :: unescapeSlash cs
  | [] => []

/-- `~0` becomes a tilde. -/
def unescapeTilde : List Char → List Char
  | '~' :: '0' :: cs => '~' :: unescapeTilde cs
  | c :: cs => c :: unescapeTilde cs
  | [] => []

/-- The name that one component of a path stands for. -/
def unescape (cs : List Char) : List Char := unescapeTilde (unescapeSlash cs)

def escapeChar : Char → List Char
  | '~' => ['~', '0']
  | '/' => ['~', '1']
  | c => [c]

def escape (cs : List Char) : List Char := cs.flatMap escapeChar

/-- The names from the top level down that `text` addresses; none for the empty path. -/
def componentsOf (text : String) : List String :=
  match text.toList with
  | [] => []
  | ['/'] => []
  | '/' :: path => (Text.split '/' path).map fun piece => String.ofList (unescape piece)
  | _ => [text]

def components (r : Reference) : List String := componentsOf r.text

/-- The path that addresses the given names. -/
def ofComponents (names : List String) : Reference :=
  ⟨String.ofList (names.flatMap fun name => '/' :: escape name.toList)⟩

/-- The path of the top-level attribute `name`, also of one that starts with a slash. -/
def ofName (name : String) : Reference := ⟨String.ofList ('/' :: escape name.toList)⟩

/-! ### Validity -/

/-- Whether two slashes follow each other. -/
def hasEmptyComponent : List Char → Bool
  | '/' :: '/' :: _ => true
  | _ :: cs => hasEmptyComponent cs
  | [] => false

/-- Whether each tilde is followed by `0` or `1`. -/
def tildesEscaped : List Char → Bool
  | [] => true
  | '~' :: c :: cs => (c == '0' || c == '1') && tildesEscaped (c :: cs)
  | ['~'] => false
  | _ :: cs => tildesEscaped cs

/-- A reference is valid if it has no empty component in the middle, does not end in a tilde and, if
it is a path, escapes every tilde. -/
def isValidText (text : String) : Bool :=
  let cs := text.toList
  !hasEmptyComponent cs && cs.getLast? != some '~' && (cs.head? != some '/' || tildesEscaped cs)

def isValid (r : Reference) : Bool := isValidText r.text

/-! ### Use -/

def isKind (r : Reference) : Bool := r.components == ["kind"]

/-- Follow names down through objects. -/
def descend (v : Json) : List String → Option Json
  | [] => some v
  | name :: names => do descend (← v.member? name) names

theorem descend_singleton (v : Json) (name : String) : descend v [name] = v.member? name := by
  rw [descend]
  cases v.member? name <;> rfl

/-- The value that the reference addresses in `v`. Arrays and texts have no members. -/
def get? (r : Reference) (v : Json) : Option Json :=
  match r.components with
  | [] => none
  | names => descend v names

theorem get?_of_ne_nil {r : Reference} {v : Json} (h : r.components ≠ []) :
    r.get? v = descend v r.components := by
  unfold get?
  cases hc : r.components with
  | nil => exact absurd hc h
  | cons first rest => rfl

def same (r s : Reference) : Bool := r.components == s.components

end Reference
end FeatureFlags
