import LogQuery.Wire.Session

namespace LogQuery

open Json

/-- Something for a session or from it. -/
structure Routed (α : Type) where
  session : Nat
  body : α
deriving DecidableEq, Repr

namespace Routed

def sessionKey : String := "session"

/-- Adds the number to the members of an object. -/
def toJson {α : Type} (encode : α → Json) (routed : Routed α) : Json :=
  match encode routed.body with
  | .object members => .object ((sessionKey, .integer routed.session) :: members)
  | value => value

/-- The number of a session in an object, as far as it is there, and the other members, at most
`limit` of them; `session?` and `found` are from those before. -/
def gather : (limit : Nat) → (session? : Option Json) → (found : List (String × Json)) →
    (first : Bool) → Reader (Except String (Option Json × List (String × Json)))
  | 0, _, _, _ => Reader.failHere .endInObject
  | limit + 1, session?, found, first => do
    if ← Reader.beforeKey first then
      let name ← Reader.key
      if name = sessionKey then
        if session?.isSome then return .error (duplicateField name)
        Reader.colon
        let number ← Reader.shaped .word
        gather limit (some number) found false
      else
        Reader.colon
        let member ← Reader.value Reader.memberDepth
        gather limit session? (found ++ [(name, member)]) false
    else return .ok (session?, found)

/-- A tag of a family; it may also be given by its number. -/
def tagOf (family : Family) : Json → Except String String
  | .string name =>
    if family.tags.contains name then .ok name else .error (unknownName name family.tags)
  | .integer n =>
    if n < 0 then .error (wrongType (.integer n) "variant identifier")
    else match family.tags[n.toNat]? with
      | some name => .ok name
      | none =>
        .error (wrongValue (.integer n) s!"variant index 0 <= i < {family.tags.length}")
  | value => .error (wrongType value "variant identifier")

/-- The tag among members, and the other members; `tag?` is from those before. -/
def splitTag (family : Family) (tag? : Option String) :
    List (String × Json) → Except String (String × List (String × Json))
  | [] =>
    match tag? with
    | some tag => .ok (tag, [])
    | none => .error (missingField family.key)
  | (name, value) :: members =>
    if name = family.key then
      if tag?.isSome then .error (duplicateField name)
      else do splitTag family (some (← tagOf family value)) members
    else do
      let (tag, others) ← splitTag family tag? members
      return (tag, (name, value) :: others)

/-- The number of a session, the tag and the other members in their standard form. Without a
number the first session is meant. -/
def parts (family : Family) (session? : Option Json) (members : List (String × Json)) :
    Except String (Nat × String × Json) := do
  let session := ((session?.bind integer?).getD 0).toNat
  let (tag, others) ← splitTag family none members
  return (session, tag, ← family.conform tag (.object others))

def reader (family : Family) : Reader (Nat × String × Json) := do
  match ← Reader.peekToken with
  | some '\x7b' =>
    Reader.enclosed '\x7d' Reader.closeObject do
      let gathered ← fun cs => gather (cs.length + 1) none [] true cs
      return gathered.bind fun (session?, members) => parts family session? members
  | _ => Reader.mismatch "struct Addressed"

/-- What a line stands for, where `ofParts?` gives the command or message of a tag and its
members. -/
def ofText {α : Type} (family : Family) (ofParts? : String → Json → Option α) (text : String) :
    Except Fault (Routed α) := do
  let (session, tag, members) ← Reader.readAll (reader family) text
  return { session, body := ← interpret (ofParts? tag) members }

end Routed

/-- The command that a line stands for, and the number of its session. -/
def Command.ofLine (line : String) : Except Fault (Routed Command) :=
  Routed.ofText Command.family Command.ofParts? line

/-- The message that a line stands for, and the number of its session. -/
def Message.ofLine (line : String) : Except Fault (Routed Message) :=
  Routed.ofText Message.family Message.ofParts? line

def Message.toLine (message : Routed Message) : String :=
  (message.toJson Message.toJson).text

end LogQuery
