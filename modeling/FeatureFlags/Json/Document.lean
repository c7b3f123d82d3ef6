import FeatureFlags.Json.Value

/-!
# The tree of a JSON text

A `Document` is what a well-formed text says, before anything is asked of it: objects keep every
member they write down, repeated names included, and a part whose form is right but which denotes no
value (text with an unpaired surrogate, a number beyond binary64, too deep a nesting) stays as
`unreadable`. Parts that nobody asks for may be unreadable; a document has a value only if none is.

A value is written as a document (`Document.ofJson`) and a document read as a value
(`Document.toJson?`). The main statement is `toJson?_ofJson`: the document of a value has that
value, if no object of it names a member twice.
-/

namespace FeatureFlags

inductive Document where
  | null
  | bool (b : Bool)
  | number (n : Number)
  | string (s : String)
  | array (items : List Document)
  /-- a member's name is `none` if it is unreadable -/
  | object (members : List (Option String × Document))
  /-- well-formed, but without a value -/
  | unreadable
deriving Inhabited

namespace Document

mutual
/-- The value of a document; of members of one name, the last one counts. -/
def toJson? : Document → Option Json
  | null => some .null
  | bool b => some (.bool b)
  | number n => some (.number n)
  | string s => some (.string s)
  | array items => do return .array (← itemsToJson? items)
  | object members => do return .object (Entries.ofList (← membersToJson? members))
  | unreadable => none

def itemsToJson? : List Document → Option (List Json)
  | [] => some []
  | d :: ds => do return (← toJson? d) :: (← itemsToJson? ds)

/-- The members of an object with their values, repeated names included. -/
def membersToJson? : List (Option String × Document) → Option (List (String × Json))
  | [] => some []
  | (name, d) :: ms => do return (← name, ← toJson? d) :: (← membersToJson? ms)
end

def readable (d : Document) : Bool := d.toJson?.isSome

mutual
/-- The document that a value is written as. -/
def ofJson : Json → Document
  | .null => null
  | .bool b => bool b
  | .number n => number n
  | .string s => string s
  | .array items => array (itemsOfJson items)
  | .object members => object (membersOfJson members)

def itemsOfJson : List Json → List Document
  | [] => []
  | v :: vs => ofJson v :: itemsOfJson vs

def membersOfJson : List (String × Json) → List (Option String × Document)
  | [] => []
  | (name, v) :: ms => (some name, ofJson v) :: membersOfJson ms
end

/-! ### A value is read back from its document

Along the value, its items and its members at once. Distinct names are needed where the members of
an object are put together: of two members of one name, only the last one would come back. -/

mutual
theorem toJson?_ofJson : {v : Json} → v.Distinct → (ofJson v).toJson? = some v
  | .null, _ => by simp [ofJson, toJson?]
  | .bool _, _ => by simp [ofJson, toJson?]
  | .number _, _ => by simp [ofJson, toJson?]
  | .string _, _ => by simp [ofJson, toJson?]
  | .array _, .array h => by simp [ofJson, toJson?, itemsToJson?_itemsOfJson h]
  | .object _, .object hn h => by
    simp [ofJson, toJson?, membersToJson?_membersOfJson h, Entries.ofList_of_nodup hn]

theorem itemsToJson?_itemsOfJson : {vs : List Json} → (∀ v ∈ vs, v.Distinct) →
    itemsToJson? (itemsOfJson vs) = some vs
  | [], _ => by simp [itemsOfJson, itemsToJson?]
  | v :: vs, h => by
    have hs : ∀ w ∈ vs, w.Distinct := fun w hw => h w (List.mem_cons_of_mem _ hw)
    simp [itemsOfJson, itemsToJson?, toJson?_ofJson (h v (by simp)), itemsToJson?_itemsOfJson hs]

theorem membersToJson?_membersOfJson : {ms : List (String × Json)} → (∀ m ∈ ms, m.2.Distinct) →
    membersToJson? (membersOfJson ms) = some ms
  | [], _ => by simp [membersOfJson, membersToJson?]
  | (name, v) :: ms, h => by
    have hs : ∀ m ∈ ms, m.2.Distinct := fun m hm => h m (List.mem_cons_of_mem _ hm)
    simp [membersOfJson, membersToJson?, toJson?_ofJson (h (name, v) (by simp)),
      membersToJson?_membersOfJson hs]
end

end Document
end FeatureFlags
