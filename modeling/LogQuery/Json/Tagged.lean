import LogQuery.Json.ShapeReader

namespace LogQuery.Json

/-- A kind of tagged values: the key of the tag, and for each tag the shape of the other
members. -/
structure Family where
  /-- How messages name the kind. -/
  title : String
  key : String
  variants : List (String × Shape)

namespace Family

def tags (family : Family) : List String :=
  family.variants.map Prod.fst

/-- The other members of a value with a tag, in their standard form. -/
def conform (family : Family) (tag : String) (body : Json) : Except String Json :=
  match family.variants.lookup tag with
  | some shape => shape.conform body
  | none => .error (unknownName tag family.tags)

end Family

namespace Reader

/-- The depth to which the members of a tagged value nest. -/
def memberDepth : Nat := depthLimit - 1

/-- The tag in an object and the other members, at most `limit` of them; `tag?` and `found` are
from those before. -/
def tagAndMembers (family : Family) : (limit : Nat) → (tag? : Option String) →
    (found : List (String × Json)) → (first : Bool) →
    Reader (Option String × List (String × Json))
  | 0, _, _, _ => failHere .endInObject
  | limit + 1, tag?, found, first => do
    if ← beforeKey first then
      let name ← key
      if name = family.key then
        if tag?.isSome then failData (duplicateField name)
        colon
        let tag ← nameOf family.tags
        tagAndMembers family limit (some tag) found false
      else
        colon
        let member ← value memberDepth
        tagAndMembers family limit tag? (found ++ [(name, member)]) false
    else return (tag?, found)

/-- The tag and the other members of a tagged value, which are not checked yet. -/
def tagged (family : Family) : Reader (String × Json) := do
  match ← peekToken with
  | some '[' =>
    skip
    if ← beforeItem true then
      let tag ← nameOf family.tags
      let items ← fun cs => itemsFrom (value memberDepth) (cs.length + 1) false cs
      closeArray
      return (tag, .array items)
    else failData (missingField family.key)
  | some '\x7b' =>
    skip
    let (tag?, found) ← fun cs => tagAndMembers family (cs.length + 1) none [] true cs
    match tag? with
    | none => failData (missingField family.key)
    | some tag => do closeObject; return (tag, .object found)
  | _ => mismatch family.title

end Reader

/-- The tagged value that a text stands for: its tag and its members in their standard form. -/
def readTagged (family : Family) (text : String) : Except Fault (String × Json) :=
  Reader.readAll (do
    let (tag, body) ← Reader.tagged family
    return (tag, ← Reader.checked (family.conform tag body))) text

end LogQuery.Json
