import LogQuery.Proofs.Json.Members

namespace LogQuery.Json

variable {α : Type} {depth : Nat} {shape : Shape} {v : Json} {title : String}
  {fields : List (String × Shape)} {own members : List (String × Json)}

namespace Shape

/-- Values in the standard form of a shape that nest to a depth below `depth`. -/
inductive Standard : (depth : Nat) → Shape → Json → Prop where
  | string {depth : Nat} (s : String) : Standard (depth + 1) .string (.string s)
  | bool {depth : Nat} (b : Bool) : Standard (depth + 1) .bool (.bool b)
  | int32 {depth : Nat} {n : Int} (fits : Text.fitsInt32 n = true) :
      Standard (depth + 1) .int32 (.integer n)
  | int64 {depth : Nat} {n : Int} (fits : Text.fitsInt64 n = true) :
      Standard (depth + 1) .int64 (.integer n)
  | word {depth : Nat} {n : Int} (fits : fitsUnsigned n = true) :
      Standard (depth + 1) .word (.integer n)
  | real {depth : Nat} {x : Float} (reads : ReadsBack x) : Standard (depth + 1) .real (.number x)
  | missing {depth : Nat} (inner : Shape) : Standard (depth + 1) (.optional inner) .null
  | given {depth : Nat} {inner : Shape} {v : Json} (some : v ≠ .null)
      (standard : Standard depth inner v) :
      Standard depth (.optional inner) v
  | list {depth : Nat} {item : Shape} {items : List Json}
      (standard : ∀ v ∈ items, Standard (depth + 1) item v) :
      Standard (depth + 2) (.list item) (.array items)
  | pair {depth : Nat} {left right : Shape} {v w : Json} (first : Standard (depth + 1) left v)
      (second : Standard (depth + 1) right w) :
      Standard (depth + 2) (.pair left right) (.array [v, w])
  | record {depth : Nat} (title : String) {fields : List (String × Shape)}
      {members : List (String × Json)} (keys : fields.map Prod.fst = members.map Prod.fst)
      (distinct : (fields.map Prod.fst).Nodup)
      (standard : ∀ entry ∈ fields.zip members, Standard (depth + 1) entry.1.2 entry.2.2) :
      Standard (depth + 2) (.record title fields) (.object members)
  | choice {depth : Nat} {names : List String} {name : String} (mem : name ∈ names) :
      Standard (depth + 1) (.choice names) (.string name)

theorem mem_zip_of_mem {fields : List (String × α)}
    (keys : fields.map Prod.fst = own.map Prod.fst) {member : String × Json}
    (mem : member ∈ own) :
    ∃ field, (field, member) ∈ fields.zip own := by
  have length : own.length ≤ fields.length := by simpa using (congrArg List.length keys).ge
  have all := List.map_snd_zip length
  rw [← all, List.mem_map] at mem
  obtain ⟨⟨field, _⟩, mem, rfl⟩ := mem
  exact ⟨field, mem⟩

theorem of_lookup {P : α → Json → Prop} {fields : List (String × α)}
    (keys : fields.map Prod.fst = own.map Prod.fst) (distinct : (fields.map Prod.fst).Nodup)
    (each : ∀ entry ∈ fields.zip own, P entry.1.2 entry.2.2) {member : String × Json}
    (mem : member ∈ own) {a : α} (looked : fields.lookup member.1 = some a) : P a member.2 := by
  induction fields generalizing own with
  | nil => cases looked
  | cons field fields ih =>
      cases own with
      | nil => cases mem
      | cons first own =>
          rw [List.map_cons, List.map_cons, List.cons.injEq] at keys
          rw [List.map_cons, List.nodup_cons] at distinct
          rw [List.zip_cons_cons, List.forall_mem_cons] at each
          rcases List.mem_cons.mp mem with rfl | mem
          · rw [← keys.1, List.lookup_cons_self] at looked
            cases looked
            exact each.1
          · have differ : member.1 ≠ field.1 := by
              rintro same
              rw [← same, keys.2] at distinct
              exact distinct.1 (List.mem_map_of_mem mem)
            rw [Keyed.lookup_cons_of_ne differ] at looked
            exact ih keys.2 distinct.2 each.2 mem looked

theorem fits64_of_fitsInt32 {n : Int} (fits : Text.fitsInt32 n = true) : Reader.Fits64 n := by
  refine .inl ?_
  rw [Text.fitsInt64_iff]
  simp only [Text.fitsInt32, Bool.and_eq_true, decide_eq_true_iff] at fits
  omega

theorem fitsUnsigned_natCast (n : Nat) : fitsUnsigned n = Text.fitsWord n := by
  simp [fitsUnsigned]

/-- A value in its standard form is read as it is. -/
theorem Standard.readAs (standard : Standard depth shape v) : ReadAs depth v v := by
  induction standard with
  | string s => exact .string s
  | bool b => exact .bool b
  | int32 fits => exact .integer (fits64_of_fitsInt32 fits)
  | int64 fits => exact .integer (.inl fits)
  | word fits => exact .integer (.inr fits)
  | real reads => exact .number reads
  | missing inner => exact .null
  | given _ _ ih => exact ih
  | list _ ih => simpa using ReadAs.array id ih
  | pair _ _ first second =>
      refine .array id fun v mem => ?_
      rcases List.mem_pair.mp mem with rfl | rfl
      · exact first
      · exact second
  | record _ keys _ _ ih =>
      have all := ReadAs.object id fun member mem => by
        obtain ⟨field, mem⟩ := mem_zip_of_mem keys mem
        exact ih _ mem
      simpa using all
  | choice _ => exact .string _

theorem Standard.readAs_members
    (standard : Standard Reader.depthLimit (.record title fields) (.object own)) :
    ∀ member ∈ own, ReadAs Reader.memberDepth member.2 member.2 := by
  intro member mem
  cases standard with
  | record _ keys _ each =>
      obtain ⟨field, mem⟩ := mem_zip_of_mem keys mem
      exact (each _ mem).readAs

theorem complete_known (keys : fields.map Prod.fst = own.map Prod.fst)
    (distinct : (fields.map Prod.fst).Nodup) (extend : Extends own members) :
    ((known fields members).map Prod.fst).Nodup ∧
    complete (known fields members) fields = .ok own := by
  have perm := extend.known_perm keys
  have distinct_own : (own.map Prod.fst).Nodup := keys ▸ distinct
  have distinct_known := (perm.map Prod.fst).nodup_iff.mpr distinct_own
  exact ⟨distinct_known,
    complete_eq keys fun member mem => lookup_of_mem distinct_known (perm.mem_iff.mpr mem)⟩

/-! ### Bringing values into form -/

theorem lookup_conformEach (fields : List (String × Shape)) (key : String) :
    (conformEach fields).lookup key = (fields.lookup key).map conform := by
  induction fields with
  | nil => rfl
  | cons field fields ih =>
      rw [conformEach, List.lookup_cons, List.lookup_cons, ih]
      split <;> rfl

theorem conform_record (keys : fields.map Prod.fst = own.map Prod.fst)
    (distinct : (fields.map Prod.fst).Nodup)
    (each : ∀ entry ∈ fields.zip own, entry.1.2.conform entry.2.2 = .ok entry.2.2)
    (extend : Extends own members) :
    conform (.record title fields) (.object members) = .ok (.object own) := by
  have known_eq : known (conformEach fields) members = known fields members := by
    simp only [known, lookup_conformEach, Option.isSome_map]
  obtain ⟨once, completed⟩ := complete_known keys distinct extend
  -- a member that has a form is one of the record's own, since the others have other keys
  have forms_keep : ∀ member ∈ members, ∀ form ∈ (conformEach fields).lookup member.1,
      form member.2 = .ok member.2 := by
    intro member mem form looked
    rw [lookup_conformEach, Option.mem_def, Option.map_eq_some_iff] at looked
    obtain ⟨shape, looked, rfl⟩ := looked
    have mem_own := extend.mem mem (keys ▸ isSome_lookup_iff.mp (Option.isSome_of_eq_some looked))
    exact @of_lookup _ _ (fun shape v =>
      shape.conform v = .ok v) _ keys distinct each _ mem_own _ looked
  have gathered := @gather_eq members (conformEach fields) [] forms_keep
    (by rwa [List.nil_append, known_eq])
  rw [List.nil_append, known_eq] at gathered
  simp [conform, gathered, completed, bind, Except.bind, pure, Except.pure]

theorem mapM_conform {items : List Json} (keeps : ∀ v ∈ items, shape.conform v = .ok v) :
    items.mapM shape.conform = .ok items := by
  induction items with
  | nil => rfl
  | cons v items ih =>
      rw [List.forall_mem_cons] at keeps
      rw [List.mapM_cons, keeps.1, ih keeps.2]
      rfl

theorem Standard.conform_eq (standard : Standard depth shape v) : shape.conform v = .ok v := by
  induction standard with
  | string s => rfl
  | bool b => rfl
  | int32 fits => simp [conform, integerIn, fits]
  | int64 fits => simp [conform, integerIn, fits]
  | word fits => simp [conform, integerIn, fits]
  | real _ => rfl
  | missing inner => rfl
  | @given depth inner v some standard ih =>
      cases v with
      | null => exact absurd rfl some
      | _ => exact ih
  | list _ ih => simp [conform, mapM_conform ih, bind, Except.bind, pure, Except.pure]
  | pair _ _ first second => simp [conform, first, second, bind, Except.bind, pure, Except.pure]
  | record _ keys distinct _ ih => exact conform_record keys distinct ih (.refl _)
  | choice mem => simp [conform, chosen, mem]

theorem Standard.conform_extended (standard : Standard depth (.record title fields) (.object own))
    (extend : Extends own members) :
    conform (.record title fields) (.object members) = .ok (.object own) := by
  cases standard with
  | record _ keys distinct each =>
      exact conform_record keys distinct (fun entry mem => (each entry mem).conform_eq) extend

end Shape

/-! ### Reading values -/

namespace Reader

open Shape

theorem lookup_shapedEach (fields : List (String × Shape)) (key : String) :
    (shapedEach fields).lookup key = (fields.lookup key).map shaped := by
  induction fields with
  | nil => rfl
  | cons field fields ih =>
      rw [shapedEach, List.lookup_cons, List.lookup_cons, ih]
      split <;> rfl

/-- A record is read from its members in any order and with others among them. -/
theorem shaped_record (keys : fields.map Prod.fst = own.map Prod.fst)
    (distinct : (fields.map Prod.fst).Nodup)
    (each : ∀ entry ∈ fields.zip own, ∀ rest, Closes rest →
      shaped entry.1.2 (entry.2.2.compact ++ rest) = .ok (entry.2.2, rest))
    (extend : Extends own members)
    (readable : ∀ member ∈ members, ∃ depth w, ReadAs depth member.2 w) (rest : List Char) :
    shaped (.record title fields)
      ((Json.object members).compact ++ rest) = .ok (.object own, rest) := by
  have known_eq : known (shapedEach fields) members = known fields members := by
    simp only [known, lookup_shapedEach, Option.isSome_map]
  obtain ⟨once, completed⟩ := complete_known keys distinct extend
  have reads : ∀ member ∈ members, ∀ reader ∈ (shapedEach fields).lookup member.1,
      ∀ rest, Closes rest → reader (member.2.compact ++ rest) = .ok (member.2, rest) := by
    intro member mem reader looked
    rw [lookup_shapedEach, Option.mem_def, Option.map_eq_some_iff] at looked
    obtain ⟨shape, looked, rfl⟩ := looked
    have mem_own := extend.mem mem (keys ▸ isSome_lookup_iff.mp (Option.isSome_of_eq_some looked))
    exact @of_lookup _ _ (fun shape v => ∀ rest, Closes rest →
      shaped shape (v.compact ++ rest) = .ok (v, rest)) _ keys distinct each _ mem_own _ looked
  have gathered := @gather_membersText members (shapedEach fields) [] reads
    (fun member mem _ => readable member mem) (by rwa [List.nil_append, known_eq]) _
    (length_lt_membersText members ('\x7d' :: rest)) true rest
  have solid : isSpace '\x7b' = false := rfl
  rw [List.nil_append, known_eq, List.length_append, List.length_cons] at gathered
  rw [compact_object_append, shaped]
  simp [peekToken_cons solid, gathered, completed, checked, closeObject_close]

theorem numberOf_numeral {expected : String} {form : Json → Except String Json}
    {cs left : List Char} {number : Numeral} (reads : numeral cs = .ok (number, left))
    (keeps : form number.toJson = .ok v) :
    numberOf expected form cs = .ok (v, left) := by
  obtain ⟨c, ds, rfl, either⟩ := numeral_begins reads
  have begun : (decide (c = '-') || Text.isDigit c) = true := by simpa using either
  rw [numberOf, bind_apply, peekToken_cons (isSpace_of_numeral either), ok_bind]
  simp only [if_pos begun, bind_apply, reads, ok_bind]
  cases number <;> rw [Numeral.toJson] at keeps <;> simp [keeps, checked]

theorem nameOf_compact {names : List String} {name : String} (mem : name ∈ names)
    (rest : List Char) :
    nameOf names ((Json.string name).compact ++ rest) = .ok (name, rest) := by
  have solid : isSpace '"' = false := rfl
  rw [compact_string, stringText_append]
  simp [nameOf, stringOf, peekToken_cons solid, stringTail_flatMap, mem]

theorem shaped_compact (standard : Standard depth shape v) {rest : List Char}
    (closes : Closes rest) :
    shaped shape (v.compact ++ rest) = .ok (v, rest) := by
  induction standard generalizing rest with
  | string s =>
      have solid : isSpace '"' = false := rfl
      rw [compact_string, stringText_append, shaped]
      simp [stringOf, peekToken_cons solid, stringTail_flatMap]
  | bool b =>
      cases b with
      | false =>
          have solid : isSpace 'f' = false := rfl
          rw [compact_false, shaped, boolOf, bind_apply, peekToken_cons solid, ok_bind]
          simp
      | true =>
          have solid : isSpace 't' = false := rfl
          rw [compact_true, shaped, boolOf, bind_apply, peekToken_cons solid, ok_bind]
          simp
  | int32 fits =>
      refine numberOf_numeral
        (numeral_append (numeral_toString (fits64_of_fitsInt32 fits)) closes).1 ?_
      simp [Numeral.toJson, integerIn, fits]
  | int64 fits =>
      refine numberOf_numeral (numeral_append (numeral_toString (.inl fits)) closes).1 ?_
      simp [Numeral.toJson, integerIn, fits]
  | word fits =>
      refine numberOf_numeral (numeral_append (numeral_toString (.inr fits)) closes).1 ?_
      simp [Numeral.toJson, integerIn, fits]
  | real reads => exact numberOf_numeral (numeral_append reads closes).1 rfl
  | missing inner =>
      have solid : isSpace 'n' = false := rfl
      rw [compact_null, shaped, bind_apply, peekToken_cons solid, ok_bind]
      simp
  | @given depth inner v some standard ih =>
      obtain ⟨c, cs, chars, solid, -, -, null⟩ := begins_compact standard.readAs rest
      -- no value but `null` begins with the character by which a missing one is told
      have other : c ≠ 'n' := fun n => some (null n)
      have inner := ih closes
      rw [chars] at inner ⊢
      rw [shaped, bind_apply, peekToken_cons solid, ok_bind]
      simp [other, inner]
  | @list depth item items standard ih =>
      have solid : isSpace '[' = false := rfl
      have items := array_compact (fun v mem => begins_compact (standard v mem).readAs)
        (fun v mem rest closes => ih v mem closes) rest
      rw [compact_array_append] at items ⊢
      rw [shaped, bind_apply, peekToken_cons solid, ok_bind]
      simp [items]
  | @pair depth left right v w left_standard right_standard left_ih right_ih =>
      have solid : isSpace '[' = false := rfl
      have comma : Closes (',' :: (w.compact ++ ']' :: rest)) := by simp [Closes]
      have bracket : Closes (']' :: rest) := by simp [Closes]
      have left_begins := @beforeItem_compact true v (begins_compact left_standard.readAs)
        (',' :: (w.compact ++ ']' :: rest))
      have right_begins :=
        @beforeItem_compact false w (begins_compact right_standard.readAs) (']' :: rest)
      rw [if_pos rfl, List.nil_append] at left_begins
      rw [if_neg (by decide), List.singleton_append] at right_begins
      rw [compact_array_append, shaped, bind_apply, peekToken_cons solid, ok_bind]
      simp [inOrder, itemsText, left_begins, left_ih comma, right_begins, right_ih bracket,
        closeArray_close]
  | record _ keys distinct each ih =>
      refine shaped_record keys distinct (fun entry mem rest closes =>
        ih entry mem closes) (.refl _)
        (fun member mem => ?_) rest
      obtain ⟨field, mem⟩ := mem_zip_of_mem keys mem
      exact ⟨_, _, (each _ mem).readAs⟩
  | choice mem =>
      have solid : isSpace '"' = false := rfl
      have read := nameOf_compact mem rest
      rw [compact_string, stringText_append] at read ⊢
      rw [shaped, chosen, bind_apply, peekToken_cons solid, ok_bind]
      simp [read]

theorem shaped_extended (standard : Standard depth (.record title fields) (.object own))
    (extend : Extends own members) (readable : ∀ member ∈ members, Readable member.2)
    (rest : List Char) :
    shaped (.record title fields)
      ((Json.object members).compact ++ rest) = .ok (.object own, rest) := by
  cases standard with
  | record _ keys distinct each =>
      exact shaped_record keys distinct (fun entry mem rest closes =>
        shaped_compact (each entry mem) closes)
        extend (fun member mem => ⟨_, readable member mem⟩) rest

theorem readAll_text {reader : Reader α} {a : α} (reads : reader v.compact = .ok (a, [])) :
    readAll reader v.text = .ok a := by
  rw [text]
  exact readAll_of_reads (by rwa [String.toList_ofList])

end Reader

theorem readShaped_extended (standard : Shape.Standard depth (.record title fields) (.object own))
    (extend : Extends own members) (readable : ∀ member ∈ members, Readable member.2) :
    readShaped (.record title fields) (object members).text = .ok (.object own) := by
  have reads := Reader.shaped_extended standard extend readable []
  rw [List.append_nil] at reads
  exact Reader.readAll_text reads

end LogQuery.Json
