import LogQuery.Proofs.Json.Tagged
import LogQuery.Wire.Routed

namespace LogQuery

open Json

namespace Routed

variable {depth : Nat} {tag : String} {own members : List (String × Json)} {family : Family}

theorem gather_membersText {session? all? : Option Json} {found : List (String × Json)}
    (readable : ∀ member ∈ members, Readable member.2)
    (once : session?.toList ++ valuesOf sessionKey members = all?.toList)
    (numbers : ∀ v ∈ all?, Shape.Standard depth .word v) {limit : Nat}
    (enough : members.length < limit) (first : Bool) (rest : List Char) :
    gather limit session? found first (membersText first members ++ '\x7d' :: rest) =
      .ok (.ok (all?, found ++ rereadAll (without sessionKey members)), '\x7d' :: rest) := by
  induction members generalizing session? found limit first with
  | nil =>
      obtain ⟨limit, rfl⟩ := Nat.exists_eq_add_one.mpr enough
      have same := eq_of_none_later once
      simp [gather, membersText, rereadAll, without, Reader.beforeKey_close, same]
  | cons member members ih =>
      obtain ⟨limit, rfl⟩ := Nat.exists_eq_add_one_of_ne_zero (Nat.ne_zero_of_lt enough)
      rw [List.forall_mem_cons] at readable
      have closes := closes_membersText members rest
      rw [membersText, List.append_assoc, List.append_assoc, gather, Reader.bind_apply,
        Reader.beforeKey_memberText]
      by_cases same : member.1 = sessionKey
      · -- no number was found before, and none comes later
        rw [valuesOf_cons_self same] at once
        obtain ⟨rfl, rfl, later⟩ := eq_of_once once
        have others := @ih (some member.2) found readable.2 (by rw [later]; rfl) limit
          (Nat.lt_of_succ_lt_succ enough) false
        have number := Reader.shaped_compact (numbers member.2 rfl) closes
        rw [without_cons_self same]
        simp [Reader.key_memberText, same, number, others]
      · rw [valuesOf_cons_of_ne same] at once
        have others := @ih session? (found ++ [(member.1, member.2.reread)]) readable.2 once limit
          (Nat.lt_of_succ_lt_succ enough) false
        rw [without_cons_of_ne same, rereadAll, List.map_cons]
        simp [Reader.key_memberText, same, value_reread readable.1 closes, others, rereadAll]

theorem splitTag_eq {tag? : Option String}
    (once : (tag?.map Json.string).toList ++ valuesOf family.key members = [.string tag])
    (allowed : tag ∈ family.tags) :
    splitTag family tag? members = .ok (tag, without family.key members) := by
  induction members generalizing tag? with
  | nil =>
      have same : tag? = some tag :=
        Option.map_injective (fun _ _ =>
          Json.string.inj) (@eq_of_none_later _ (some (.string tag)) once)
      simp [splitTag, without, same]
  | cons member members ih =>
      by_cases same : member.1 = family.key
      · rw [valuesOf_cons_self same] at once
        obtain ⟨unseen, told, later⟩ := @eq_of_once _ (some (.string tag)) _ _ once
        obtain rfl := Option.map_eq_none_iff.mp unseen
        have value : member.2 = .string tag := (Option.some.inj told).symm
        have others := @ih (some tag) (by rw [later]; rfl)
        rw [without_cons_self same]
        simp [splitTag, same, value, tagOf, allowed, others, bind, Except.bind]
      · rw [valuesOf_cons_of_ne same] at once
        rw [without_cons_of_ne same]
        simp [splitTag, same, ih once, bind, Except.bind, pure, Except.pure]

theorem readAll_reader {number? : Option Nat} (standard : family.Standard tag own)
    (readable : ∀ member ∈ members, Readable member.2)
    (once : valuesOf sessionKey members = (number?.map fun (n : Nat) => Json.integer n).toList)
    (fits : ∀ n ∈ number?, Text.fitsWord n = true)
    (extend : Extends ((family.key, .string tag) :: own) (without sessionKey members)) :
    Reader.readAll (reader family) (Json.object members).text =
      .ok (number?.getD 0, tag, .object own) := by
  have numbers : ∀ v ∈ number?.map fun (n : Nat) => Json.integer n, Shape.Standard 1 .word v := by
    intro v mem
    obtain ⟨n, number, rfl⟩ := Option.map_eq_some_iff.mp mem
    exact .word ((Shape.fitsUnsigned_natCast n).trans (fits n number))
  have gathered :=
    @gather_membersText 1 members none (number?.map fun (n : Nat) => Json.integer n) []
    readable once numbers _ (Reader.length_lt_membersText members ['\x7d']) true []
  -- all members but the number have been read as values when the tag is looked for among them
  have again := extend.reread fun member mem => (standard.readAs_members member mem).reread_eq
  have split :=
    @splitTag_eq tag _ family none (again.valuesOf_eq standard.untagged) standard.mem_tags
  have conformed := standard.conform_extended (again.without standard.untagged)
  have together : parts family (number?.map fun (n : Nat) => Json.integer n)
      (rereadAll (without sessionKey members)) = .ok (number?.getD 0, tag, .object own) := by
    cases number? <;>
      simp [parts, split, conformed, integer?, bind, Except.bind, pure, Except.pure]
  have solid : Reader.isSpace '\x7b' = false := rfl
  refine Reader.readAll_text ?_
  have chars := compact_object_append members []
  rw [List.append_nil] at chars
  rw [List.length_append, List.length_singleton] at gathered
  rw [chars, reader]
  simp [Reader.peekToken_cons solid, Reader.enclosed, gathered, together, Except.bind,
    Reader.closeObject_close]

variable {α : Type} {ofParts? : String → Json → Option α} {body : α}

theorem ofText_extended {session : Nat} (standard : family.Standard tag own)
    (back : ofParts? tag (.object own) = some body) (fits : Text.fitsWord session = true)
    (differ : sessionKey ∉ ((family.key, Json.string tag) :: own).map Prod.fst)
    (extend : Extends
      ((sessionKey, .integer session) :: (family.key, .string tag) :: own) members)
    (readable : ∀ member ∈ members, Readable member.2) :
    ofText family ofParts? (Json.object members).text = .ok ⟨session, body⟩ := by
  have read :=
    @readAll_reader _ _ _ _ (some session) standard readable (extend.valuesOf_eq differ)
    (fun n mem => Option.some.inj mem ▸ fits) (extend.without differ)
  simp [ofText, read, interpret, back, bind, Except.bind, pure, Except.pure]

theorem ofText_numberless (standard : family.Standard tag own)
    (back : ofParts? tag (.object own) = some body) (absent : sessionKey ∉ members.map Prod.fst)
    (extend : Extends ((family.key, .string tag) :: own) members)
    (readable : ∀ member ∈ members, Readable member.2) :
    ofText family ofParts? (Json.object members).text = .ok ⟨0, body⟩ := by
  have read := @readAll_reader _ _ _ _ none standard readable (valuesOf_eq_nil absent) nofun
    ((without_eq_self absent).symm ▸ extend)
  simp [ofText, read, interpret, back, bind, Except.bind, pure, Except.pure]

end Routed

end LogQuery
