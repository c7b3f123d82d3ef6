import FeatureFlags.Context.Basic

/-!
# Canonical keys

One text that names a context. A user is named by its key alone. Any other kind stands in front of
the key (`kindAndKey`), and the parts of a multi-kind context follow each other in the order of
their kinds (`sortByKind`). Where kinds are written, the percent sign and the colon are escaped in
keys (`escapeKey`), so that the colons in between are unambiguous.

A canonical key can be read off any value (`canonicalKeyOf?`). There is none if a key is missing or
empty, or if the value is no object; the canonical key of a context is empty then.
-/

namespace FeatureFlags
namespace Context

def escapeKeyChar : Char → List Char
  | '%' => ['%', '2', '5']
  | ':' => ['%', '3', 'A']
  | c => [c]

/-- A key behind its kind. -/
def escapeKey (key : String) : String := String.ofList (key.toList.flatMap escapeKeyChar)

def kindAndKey (kind key : String) : String := kind ++ ":" ++ escapeKey key

def nonEmpty? (s : String) : Option String := if s = "" then none else some s

/-- The kinds and keys of the parts of a multi-kind context. -/
def partKeys? : Entries Json → Option (List (String × String))
  | [] => some []
  | (name, part) :: rest =>
    if name = "kind" then partKeys? rest
    else do
      let key ← (← part.member? "key").text?
      return (name, key) :: (← partKeys? rest)

def sortByKind (ps : List (String × String)) : List (String × String) :=
  ps.mergeSort fun a b => decide (a.1 ≤ b.1)

/-- The canonical key of a value, whether it is a context or not. -/
def canonicalKeyOf? (v : Json) : Option String :=
  match v with
  | .object members =>
    match (Entries.find? "kind" members).getD .null with
    | .null => do nonEmpty? (← keyText? (← Entries.find? "key" members))
    | .string kind =>
      if kind = defaultKind then do nonEmpty? (← (← Entries.find? "key" members).text?)
      else if kind = multiKind then do
        let keys ← partKeys? members
        return ":".intercalate ((sortByKind keys).map fun p => kindAndKey p.1 p.2)
      else do
        let key ← nonEmpty? (← (← Entries.find? "key" members).text?)
        return kindAndKey kind key
    | _ => none
  | _ => none

/-- The canonical key of a context. -/
def canonicalKey (c : Context) : String := (canonicalKeyOf? c.toJson).getD ""

end Context
end FeatureFlags
