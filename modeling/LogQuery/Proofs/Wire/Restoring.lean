import LogQuery.Proofs.Wire.Kinds
import LogQuery.Proofs.Wire.Lines

namespace LogQuery

open Json Text

/-- Whether an object has the members of another one in some order and besides them only members
with other keys, whose texts are read. -/
def Json.Amended (v w : Json) : Prop :=
  ∃ own members, v = .object own ∧ w = .object members ∧ Extends own members ∧
    ∀ member ∈ members, member.1 ∉ own.map Prod.fst → Readable member.2

/-- Whether a value is made again from its text, and from the texts of objects that amend what it
is written as. -/
def Restored {α : Type} (encode : α → Json) (decode : String → Except Fault α) (a : α) : Prop :=
  decode (encode a).text = .ok a ∧ ∀ w, (encode a).Amended w → decode w.text = .ok a

variable {α : Type} {own : List (String × Json)}

theorem Json.Amended.refl (own : List (String × Json)) : (object own).Amended (object own) :=
  ⟨own, own, rfl, rfl, .refl own, fun _ mem absent => absurd (List.mem_map_of_mem mem) absent⟩

theorem Json.Amended.of_object {w : Json} (amended : (object own).Amended w)
    (readable : ∀ member ∈ own, Readable member.2) :
    ∃ members, w = .object members ∧ Extends own members ∧
    ∀ member ∈ members, Readable member.2 := by
  obtain ⟨_, members, ⟨⟩, rfl, extend, others⟩ := amended
  refine ⟨members, rfl, extend, fun member mem => ?_⟩
  by_cases named : member.1 ∈ own.map Prod.fst
  · exact readable member (extend.mem mem named)
  · exact others member mem named

/-- A value is restored if it is made again from the members that it is written as among
others. -/
theorem Restored.of_members {encode : α → Json} {decode : String → Except Fault α} {a : α}
    (object_eq : encode a = .object own)
    (same : ∀ member ∈ own, ReadAs Reader.memberDepth member.2 member.2)
    (decodes : ∀ members, Extends own members → (∀ member ∈ members, Readable member.2) →
      decode (object members).text = .ok a) : Restored encode decode a := by
  have readable : ∀ member ∈ own, Readable member.2 := fun member mem => ⟨_, same member mem⟩
  rw [Restored, object_eq]
  refine ⟨decodes own (.refl own) readable, fun w amended => ?_⟩
  obtain ⟨members, rfl, extend, all⟩ := amended.of_object readable
  exact decodes members extend all

theorem Restored.of_record {title : String} {fields : List (String × Shape)} {encode : α → Json}
    {ofJson? : Json → Option α} {a : α} (object_eq : encode a = .object own)
    (standard : Shape.Standard Reader.depthLimit (.record title fields) (.object own))
    (back : ofJson? (encode a) = some a) :
    Restored encode
      (fun text => readShaped (.record title fields) text >>= interpret ofJson?) a := by
  refine .of_members object_eq standard.readAs_members fun members extend readable => ?_
  rw [object_eq] at back
  simp [readShaped_extended standard extend readable, interpret, back, bind, Except.bind]

theorem Restored.of_tagged {family : Family} {tag : String} {encode : α → Json}
    {ofParts? : String → Json → Option α} {a : α}
    (object_eq : encode a = .object ((family.key, .string tag) :: own))
    (standard : family.Standard tag own) (back : ofParts? tag (.object own) = some a) :
    Restored encode (fun text => readTagged family text >>= fun read =>
      interpret (ofParts? read.1) read.2)
      a := by
  refine .of_members object_eq standard.readAs_members fun members extend readable => ?_
  simp [readTagged_extended standard extend readable, interpret, back, bind, Except.bind]

/-! ### Each kind -/

theorem Query.restored {query : Query} (inRange : query.InRange) : Restored toJson ofText query :=
  .of_record rfl (Query.standard inRange) query.ofJson?_toJson

theorem HistoryEntry.restored {entry : HistoryEntry} (inRange : entry.InRange) :
    Restored toJson ofText entry :=
  .of_record rfl (HistoryEntry.standard inRange) entry.ofJson?_toJson

theorem Command.restored (command : Command) : Restored toJson ofText command :=
  .of_tagged rfl command.standard command.ofParts?_parts

/-- Whether a message can be made again from its text: its numbers are of the sizes that are
read, and those of the statistics are finite and read back as they were wherever they are. -/
structure Message.Carried (message : Message) : Prop where
  inRange : message.InRange
  finite : ∀ x ∈ message.figures, x.isFinite = true
  readsBack : ∀ x ∈ message.figures, x.isFinite = true → ReadsBack x

theorem Message.Carried.standard {message : Message} (carried : message.Carried) :
    family.Standard message.parts.1 message.parts.2 :=
  Message.standard carried.inRange fun x mem => carried.readsBack x mem (carried.finite x mem)

theorem Message.restored {message : Message} (carried : message.Carried) :
    Restored toJson ofText message :=
  .of_tagged rfl carried.standard message.ofParts?_parts

/-! ### Lines -/

theorem Command.numberless (command : Command) :
    Routed.sessionKey ∉
      ((family.key, Json.string command.parts.1) :: command.parts.2).map Prod.fst := by
  cases command <;> simp [parts, family, commandKey, Routed.sessionKey]

theorem Message.numberless (message : Message) :
    Routed.sessionKey ∉
      ((family.key, Json.string message.parts.1) :: message.parts.2).map Prod.fst := by
  cases message <;> simp [parts, family, commandKey, Routed.sessionKey]

namespace Routed

variable {family : Family} {tag : String} {encode : α → Json}
    {ofParts? : String → Json → Option α}

theorem restored {line : Routed α}
    (object_eq : encode line.body = .object ((family.key, .string tag) :: own))
    (standard : family.Standard tag own) (back : ofParts? tag (.object own) = some line.body)
    (numberless : sessionKey ∉ ((family.key, Json.string tag) :: own).map Prod.fst)
    (fits : fitsWord line.session = true) :
    Restored (toJson encode) (ofText family ofParts?) line := by
  have number : ReadAs Reader.memberDepth (.integer line.session) (.integer line.session) :=
    .integer (.inr ((Shape.fitsUnsigned_natCast _).trans fits))
  have written : line.toJson encode =
      .object ((sessionKey, .integer line.session) :: (family.key, .string tag) :: own) := by
    rw [toJson, object_eq]
  exact .of_members written (List.forall_mem_cons.mpr ⟨number, standard.readAs_members⟩)
    fun members extend readable => ofText_extended standard back fits numberless extend readable

theorem restored_numberless {body : α} {w : Json}
    (object_eq : encode body = .object ((family.key, .string tag) :: own))
    (standard : family.Standard tag own) (back : ofParts? tag (.object own) = some body)
    (amended : (encode body).Amended w) (missing : w.member? sessionKey = none) :
    ofText family ofParts? w.text = .ok ⟨0, body⟩ := by
  rw [object_eq] at amended
  obtain ⟨members, rfl, extend, readable⟩ :=
    amended.of_object fun member mem => ⟨_, standard.readAs_members member mem⟩
  have absent : sessionKey ∉ members.map Prod.fst := by
    rw [← isSome_lookup_iff, show members.lookup sessionKey = none from missing]
    exact Bool.false_ne_true
  exact ofText_numberless standard back absent extend readable

end Routed

/-- Whatever is written is made again from its text, in whatever order the members of the
outermost object stand and whatever members with other keys are among them. -/
theorem restored_from_text :
    (∀ command, Restored Command.toJson Command.ofText command) ∧
    (∀ message : Message, message.Carried → Restored Message.toJson Message.ofText message) ∧
    (∀ query : Query, query.InRange → Restored Query.toJson Query.ofText query) ∧
    (∀ entry : HistoryEntry, entry.InRange →
      Restored HistoryEntry.toJson HistoryEntry.ofText entry) ∧
    (∀ line : Routed Command, fitsWord line.session = true →
      Restored (Routed.toJson Command.toJson) Command.ofLine line) ∧
    (∀ line : Routed Message, fitsWord line.session = true → line.body.Carried →
      Restored (Routed.toJson Message.toJson) Message.ofLine line) ∧
    (∀ (command : Command) (w : Json), command.toJson.Amended w →
      w.member? Routed.sessionKey = none →
      Command.ofLine w.text = .ok ⟨0, command⟩) ∧
    (∀ (message : Message) (w : Json), message.Carried → message.toJson.Amended w →
      w.member? Routed.sessionKey = none → Message.ofLine w.text = .ok ⟨0, message⟩) := by
  refine ⟨Command.restored, fun _ => Message.restored, fun _ => Query.restored,
    fun _ => HistoryEntry.restored, ?_, ?_, ?_, ?_⟩
  · intro line fits
    exact Routed.restored rfl line.body.standard line.body.ofParts?_parts
      line.body.numberless fits
  · intro line fits carried
    exact Routed.restored rfl carried.standard line.body.ofParts?_parts line.body.numberless fits
  · intro command w amended missing
    exact Routed.restored_numberless rfl command.standard command.ofParts?_parts amended missing
  · intro message w carried amended missing
    exact Routed.restored_numberless rfl carried.standard message.ofParts?_parts amended missing

theorem restored_from_text_finished :
    Message.ofLine (Json.object [
      ("note", .array [.null, .number 0.25]),
      ("statistics", .object [("bytes_scanned", .number 2048), ("records_matched", .number 1.5),
        ("records_scanned", .number 1e21)]),
      ("row_count", .integer 2), ("title", .string "Errors"), ("status", .string "Completed"),
      ("command", .string "finished"), ("session", .integer 3)]).text =
        .ok ⟨3, .finished .completed "Errors" 2 ⟨2048, 1.5, 1e21⟩⟩ ∧
    Message.ofLine (Message.finished .completed "Errors" 2 ⟨2048, 1.5, 1e21⟩).toJson.text =
      .ok ⟨0, .finished .completed "Errors" 2 ⟨2048, 1.5, 1e21⟩⟩ ∧
    Query.ofText
        (Query.toJson ⟨"fields @message", "prod", ["eu-west-1"], "app-*", ⟨0, 3600000⟩,
          some 100, "prod", none, some ["@message"]⟩).text =
      .ok ⟨"fields @message", "prod", ["eu-west-1"], "app-*", ⟨0, 3600000⟩, some 100, "prod",
        none, some ["@message"]⟩ ∧
    HistoryEntry.ofText (HistoryEntry.toJson ⟨none, "fields @message", some (-1),
      .complete⟩).text =
      .ok ⟨none, "fields @message", some (-1), .complete⟩ ∧
    Command.ofLine (Routed.toJson Command.toJson ⟨2, .openRaw⟩).text = .ok ⟨2, .openRaw⟩ := by
  obtain ⟨-, -, queries, entries, commands, messages, -, numberless⟩ := restored_from_text
  have scanned : ReadsBack 2048 := rfl
  have matched : ReadsBack 1.5 := rfl
  have records : ReadsBack 1e21 := rfl
  have quarter : ReadsBack 0.25 := rfl
  have carried : (Message.finished .completed "Errors" 2 ⟨2048, 1.5, 1e21⟩).Carried :=
    ⟨show fitsWord 2 = true by decide,
      List.forall_mem_cons.mpr ⟨rfl,
        List.forall_mem_cons.mpr ⟨rfl, List.forall_mem_singleton.mpr rfl⟩⟩,
      List.forall_mem_cons.mpr ⟨fun _ => scanned, List.forall_mem_cons.mpr ⟨fun _ => matched,
        List.forall_mem_singleton.mpr fun _ => records⟩⟩⟩
  refine ⟨(messages ⟨3, _⟩ (by decide) carried).2 _ ?_, numberless _ _ carried (.refl _) rfl,
    (queries _ ⟨⟨by decide, by decide⟩, ?_⟩).1, (entries _ ?_).1,
    (commands ⟨2, .openRaw⟩ (by decide)).1⟩
  · have note : Readable (.array [.null, .number 0.25]) :=
      ⟨_, .array id
        (List.forall_mem_cons.mpr ⟨.null, List.forall_mem_singleton.mpr (.number quarter)⟩)⟩
    refine ⟨_, _, rfl, rfl,
      ⟨[("note", .array [.null, .number 0.25])], List.perm_reverse.mp (.of_eq rfl),
        by decide⟩, ?_⟩
    refine List.forall_mem_cons.mpr ⟨fun _ => note, fun member mem absent => absurd ?_ absent⟩
    revert member
    decide
  · rintro _ ⟨⟩
    decide
  · rintro _ ⟨⟩
    decide

end LogQuery
