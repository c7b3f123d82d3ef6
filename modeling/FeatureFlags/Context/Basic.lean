import FeatureFlags.Attribute.Reference
import FeatureFlags.Json.Writer
import FeatureFlags.Text.Quoted

/-!
# Evaluation contexts

A context says whom a flag is evaluated for. As a JSON object it takes one of three forms:

* a single context names its `kind`;
* a context of kind `multi` holds one single context per kind, under the kind's name;
* a legacy context, without a kind, is a user whose key may be any value.

`Context.ofJson` checks the form and turns a legacy key into text. After that all three forms are
read in the same way: the part of a kind (`Context.part?`), its key (`Context.key?`), and the value
of an attribute of it (`Context.value?`).
-/

namespace FeatureFlags

/-- Why a value is no context. -/
inductive ContextError where
  | notAnObject
  | invalidKind (kind : String)
  /-- the key of the context of this kind is missing, empty or no text -/
  | invalidKey (kind : String)
deriving DecidableEq, Repr

def ContextError.message : ContextError → String
  | notAnObject => "context must be an object"
  | invalidKind kind => "invalid context kind: " ++ kind
  | invalidKey kind => "context of kind " ++ Quoted.quote kind ++ " has a missing or invalid key"

/-- A context: the members of its object, and whether it is a legacy user. -/
structure Context where
  members : Entries Json
  legacy : Bool
deriving Inhabited

namespace Context

/-- The kind of legacy contexts, and of whatever leaves its kind out. -/
def defaultKind : String := "user"

/-- The kind of contexts that hold several others. -/
def multiKind : String := "multi"

/-! ### Validity

Parts are checked in the order in which they stand, and the first fault is reported; a part may not
be of kind `multi` again. A key has to be text that is not empty. Only a legacy user may have
another key, and `check` asks whether that is allowed. -/

/-- Whether a name may be a kind: letters, digits, `_`, `.` and `-` of ASCII, but not the word
`kind`. -/
def isValidKind (kind : String) : Bool :=
  kind != "" && kind != "kind" &&
    kind.toList.all fun c => c.isAlphanum || c == '_' || c == '.' || c == '-'

def isValidKey : Option Json → Bool
  | some (.string s) => s != ""
  | _ => false

/-- The first fault among the parts of a multi-kind context. -/
def validateParts : Entries Json → Except ContextError Unit
  | [] => .ok ()
  | (name, part) :: rest =>
    if name = "kind" then validateParts rest
    else if name = multiKind ∨ !isValidKind name then .error (.invalidKind name)
    else if !isValidKey (part.member? "key") then .error (.invalidKey name)
    else validateParts rest

def validateKind (members : Entries Json) (kind : String) : Except ContextError Unit :=
  if kind = multiKind then validateParts members
  else if !isValidKind kind then .error (.invalidKind kind)
  else if !isValidKey (members.find? "key") then .error (.invalidKey kind)
  else .ok ()

/-- The fault of an object as a context. If `allowLegacyKey`, an object without a kind only needs a
key that is not null. -/
def validate (members : Entries Json) (allowLegacyKey : Bool) : Except ContextError Unit :=
  match (Entries.find? "kind" members).getD .null with
  | .null =>
    if allowLegacyKey then
      match (Entries.find? "key" members).getD .null with
      | .null => .error (.invalidKey defaultKind)
      | _ => .ok ()
    else validateKind members defaultKind
  | .string kind => validateKind members kind
  | other => .error (.invalidKind other.compact)

def check (v : Json) (allowLegacyKey : Bool) : Bool :=
  match v with
  | .object members => (validate members allowLegacyKey).isOk
  | _ => false

/-! ### Kinds -/

/-- The kinds of a value: of several parts, in the order of the parts. -/
def kindsOf (v : Json) : List String :=
  match v with
  | .object members =>
    match (Entries.find? "kind" members).getD .null with
    | .null => [defaultKind]
    | .string kind =>
      if kind = multiKind then (Entries.names members).filter (· ≠ "kind") else [kind]
    | _ => []
  | _ => []

/-! ### Construction

A valid object is the context as it stands, apart from the key of a legacy user, which is replaced
in its place. -/

/-- A scalar as the text of a key: whole numbers without a fraction, truth values by name. -/
def keyText? : Json → Option String
  | .string s => some s
  | .bool b => some (if b then "true" else "false")
  | .number n =>
    match n.whole? with
    | some i => some (String.ofList (Json.renderInt i))
    | none => some (String.ofList (Json.renderNumber n))
  | _ => none

/-- The key of a legacy user as text; an array or object becomes its compact JSON text. -/
def legacyKey (key : Json) : String := (keyText? key).getD key.compact

/-- Whether an object names no kind. -/
def isLegacy (members : Entries Json) : Bool :=
  match (Entries.find? "kind" members).getD .null with
  | .null => true
  | _ => false

/-- The context that a value is. -/
def ofJson (v : Json) : Except ContextError Context :=
  match v with
  | .object members => do
    validate members true
    if isLegacy members then
      let key := ((Entries.find? "key" members).map legacyKey).getD ""
      return ⟨Entries.insert "key" (.string key) members, true⟩
    else return ⟨members, false⟩
  | _ => .error .notAnObject

def toJson (c : Context) : Json := .object c.members

/-! ### Parts by kind

A single context is its own part, a legacy user the part of the default kind. In a context of
several kinds the member `kind` is no part. -/

/-- The kind that the object names itself. -/
def ownKind? (c : Context) : Option String := do (← Entries.find? "kind" c.members).text?

def isMulti (c : Context) : Bool := c.ownKind? == some multiKind

def kinds (c : Context) : List String := kindsOf c.toJson

/-- The single context of a kind. -/
def part? (c : Context) (kind : String) : Option Json :=
  if c.legacy then if kind = defaultKind then some c.toJson else none
  else do
    let own ← c.ownKind?
    if own = multiKind then if kind = "kind" then none else Entries.find? kind c.members
    else if own = kind then some c.toJson
    else none

def key? (c : Context) (kind : String) : Option String := do
  (← (← c.part? kind).member? "key").text?

/-- What a reference that nothing stands under reads as: `anonymous` is false by default, and a
legacy user keeps further attributes in its `custom` object. -/
def fallback? (c : Context) (part : Json) : List String → Option Json
  | [name] =>
    if name = "anonymous" then some (.bool false)
    else if c.legacy then do (← part.member? "custom").member? name
    else none
  | _ => none

/-- The value of an attribute of the single context of a kind. -/
def value? (c : Context) (kind : String) (reference : Reference) : Option Json := do
  let part ← c.part? kind
  match reference.get? part with
  | some v => some v
  | none => c.fallback? part reference.components

end Context
end FeatureFlags
