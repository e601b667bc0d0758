import LogQuery.Proofs.Json.Shapes

namespace LogQuery.Json

variable {tag : String} {own members : List (String × Json)} {family : Family}

namespace Reader

/-- The tag is found wherever it stands, and the other members in their order. -/
theorem tagAndMembers_membersText {tag? all? : Option String} {found : List (String × Json)}
    (readable : ∀ member ∈ members, Readable member.2)
    (once : (tag?.map Json.string).toList ++ valuesOf family.key members =
      (all?.map Json.string).toList)
    (allowed : ∀ tag ∈ all?, tag ∈ family.tags) {limit : Nat} (enough : members.length < limit)
    (first : Bool) (rest : List Char) :
    tagAndMembers family limit tag? found first (membersText first members ++ '\x7d' :: rest) =
      .ok ((all?, found ++ rereadAll (without family.key members)), '\x7d' :: rest) := by
  induction members generalizing tag? found limit first with
  | nil =>
      obtain ⟨limit, rfl⟩ := Nat.exists_eq_add_one.mpr enough
      have same : tag? = all? :=
        Option.map_injective (fun _ _ => Json.string.inj) (eq_of_none_later once)
      simp [tagAndMembers, membersText, rereadAll, without, beforeKey_close, same]
  | cons member members ih =>
      obtain ⟨limit, rfl⟩ := Nat.exists_eq_add_one_of_ne_zero (Nat.ne_zero_of_lt enough)
      rw [List.forall_mem_cons] at readable
      have closes := closes_membersText members rest
      rw [membersText, List.append_assoc, List.append_assoc, tagAndMembers, bind_apply,
        beforeKey_memberText]
      by_cases same : member.1 = family.key
      · -- no tag was found before, and none comes later
        rw [valuesOf_cons_self same] at once
        obtain ⟨unseen, told, later⟩ := eq_of_once once
        obtain ⟨tag, rfl, value⟩ := Option.map_eq_some_iff.mp told
        obtain rfl := Option.map_eq_none_iff.mp unseen
        have others := @ih (some tag) found readable.2 (by rw [later]; rfl) limit
          (Nat.lt_of_succ_lt_succ enough) false
        have name :=
          nameOf_compact (allowed tag rfl) (membersText false members ++ '\x7d' :: rest)
        rw [value] at name
        rw [without_cons_self same]
        simp [key_memberText, same, name, others]
      · rw [valuesOf_cons_of_ne same] at once
        have others := @ih tag? (found ++ [(member.1, member.2.reread)]) readable.2 once limit
          (Nat.lt_of_succ_lt_succ enough) false
        rw [without_cons_of_ne same, rereadAll, List.map_cons]
        simp [key_memberText, same, value_reread readable.1 closes, others, rereadAll]

theorem tagged_compact (readable : ∀ member ∈ members, Readable member.2)
    (once : valuesOf family.key members = [.string tag]) (allowed : tag ∈ family.tags)
    (rest : List Char) :
    tagged family ((Json.object members).compact ++ rest) =
      .ok ((tag, .object (rereadAll (without family.key members))), rest) := by
  have read := @tagAndMembers_membersText members family none (some tag) [] readable once
    (by simpa using allowed) _ (length_lt_membersText members ('\x7d' :: rest)) true rest
  have solid : isSpace '\x7b' = false := rfl
  rw [List.length_append, List.length_cons] at read
  rw [compact_object_append, tagged]
  simp [peekToken_cons solid, read, closeObject_close]

end Reader

namespace Family

/-- The other members of a value with a tag, in their standard form. -/
inductive Standard (family : Family) (tag : String) (own : List (String × Json)) : Prop where
  | intro {title : String} {fields : List (String × Shape)}
      (looked : family.variants.lookup tag = some (.record title fields))
      (standard : Shape.Standard Reader.depthLimit (.record title fields) (.object own))
      (untagged : family.key ∉ fields.map Prod.fst)

theorem Standard.mem_tags (standard : family.Standard tag own) : tag ∈ family.tags := by
  obtain ⟨looked, -, -⟩ := standard
  exact isSome_lookup_iff.mp (Option.isSome_of_eq_some looked)

theorem Standard.untagged (standard : family.Standard tag own) :
    family.key ∉ own.map Prod.fst := by
  obtain ⟨-, standard, untagged⟩ := standard
  cases standard with
  | record _ keys _ _ => rwa [← keys]

theorem Standard.readAs_members (standard : family.Standard tag own) :
    ∀ member ∈ (family.key, .string tag) :: own, ReadAs Reader.memberDepth member.2 member.2 := by
  obtain ⟨-, standard, -⟩ := standard
  exact List.forall_mem_cons.mpr ⟨.string tag, standard.readAs_members⟩

theorem Standard.conform_extended (standard : family.Standard tag own)
    (extend : Extends own members) :
    family.conform tag (.object members) = .ok (.object own) := by
  obtain ⟨looked, standard, -⟩ := standard
  rw [conform, looked]
  exact standard.conform_extended extend

end Family

theorem readTagged_extended (standard : family.Standard tag own)
    (extend : Extends ((family.key, .string tag) :: own) members)
    (readable : ∀ member ∈ members, Readable member.2) :
    readTagged family (object members).text = .ok (tag, .object own) := by
  have once := extend.valuesOf_eq standard.untagged
  have read := Reader.tagged_compact readable once standard.mem_tags []
  have others := (extend.without standard.untagged).reread fun member mem =>
    (standard.readAs_members member (List.mem_cons_of_mem _ mem)).reread_eq
  have conformed := standard.conform_extended others
  rw [List.append_nil] at read
  refine Reader.readAll_text ?_
  simp [read, conformed, Reader.checked]

end LogQuery.Json
