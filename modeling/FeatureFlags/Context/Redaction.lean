import FeatureFlags.Attribute.Exclusion
import FeatureFlags.Context.Basic

/-!
# Redaction

A redacted context is the context without its private attributes. Private is what the caller names
for all kinds, what a single context names for itself (`privateAttributes`), or, if asked for, every
optional attribute.

* The members that identify a context stay whatever is private (`isProtected`): its kind, its key
  and whether it is anonymous.
* The two members in which a context names what is private are dropped.
* The references that took something away are listed under `_meta` (`redactedMeta`), sorted, each
  once; without any, there is no `_meta`.

A context of several kinds is redacted part by part, and keeps the order of its kinds.
-/

namespace FeatureFlags
namespace Context

/-- The texts of an array, other items skipped. -/
def textsOf (v : Option Json) : List String :=
  (((v.bind Json.items?).getD []).filterMap Json.text?)

/-- What a single context itself marks private. Legacy users also list plain names. -/
def ownPrivate (legacy : Bool) (part : Json) : List Reference :=
  let paths := textsOf ((part.member? "_meta").bind (Json.member? "privateAttributes"))
  let names := if legacy then textsOf (part.member? "privateAttributeNames") else []
  paths.map Reference.mk ++ names.map Reference.ofName

def privateAttributes (c : Context) (kind : String) : List Reference :=
  match c.part? kind with
  | some part => ownPrivate c.legacy part
  | none => []

/-- Whether nothing may be taken away under a path: the members that identify a context, and what
describes it. Only the whole of `anonymous` is protected, not what stands below it. -/
def isProtected : List String → Bool
  | [] => true
  | [name] => name == "kind" || name == "key" || name == "anonymous" || name == "_meta"
  | first :: _ => first == "kind" || first == "key" || first == "_meta"

/-- The reference to the top-level attribute `name`. -/
def referenceToName (name : String) : Reference :=
  if name.toList.head? = some '/' then Reference.ofName name else ⟨name⟩

/-- The references that are to be taken out of the single context of a kind. -/
def redactions (c : Context) (kind : String) (part : Json) (everywhere : List String)
    (allPrivate : Bool) : List Reference :=
  let refs :=
    -- Names may start with a slash and must not be taken for paths.
    if allPrivate then (Entries.names ((part.members?).getD [])).map referenceToName
    else everywhere.map Reference.mk ++ c.privateAttributes kind
  refs.filter fun r => !isProtected r.components

def redactedMeta (excluded : List String) : Entries Json :=
  if excluded.isEmpty then []
  else [("_meta", .object [("redactedAttributes", .ofTexts excluded)])]

/-- A single context without what is private. The members that stay keep their order. That is a
choice: the order of the members of a single context means nothing, and a map may as well move its
last member into the place of one that is taken out. -/
def redactPart (c : Context) (kind : String) (part : Json) (everywhere : List String)
    (allPrivate : Bool) : Json :=
  let refs := c.redactions kind part everywhere allPrivate
  match Exclusion.copy part refs with
  | .object members =>
    .object (Entries.erase "privateAttributeNames" (Entries.erase "_meta" members)
      ++ redactedMeta (Exclusion.excluded part refs))
  | other => other

/-- The context without what is private: `everywhere` applies to every kind, and `allPrivate` takes
every optional attribute away. -/
def redacted (c : Context) (everywhere : List String) (allPrivate : Bool) : Json :=
  if c.isMulti then
    .object (("kind", .string multiKind) :: c.kinds.filterMap fun kind =>
      (c.part? kind).map fun part => (kind, c.redactPart kind part everywhere allPrivate))
  else c.redactPart ((c.ownKind?).getD defaultKind) c.toJson everywhere allPrivate

end Context
end FeatureFlags
