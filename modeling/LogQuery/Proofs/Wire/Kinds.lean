import LogQuery.Proofs.Json.Tagged
import LogQuery.Wire.Session

namespace LogQuery

open Json Text

namespace Json

variable {α : Type} {depth : Nat} {encode : α → Json} {decode : Json → Option α}

/-! ### Lists and values that may be missing -/

theorem list?_map {as : List α} (back : ∀ a ∈ as, decode (encode a) = some a) :
    (array (as.map encode)).list? decode = some as := by
  induction as with
  | nil => rfl
  | cons a as ih =>
      rw [List.forall_mem_cons] at back
      have others := ih back.2
      unfold list? at others ⊢
      simp [back.1, others]

theorem strings?_ofStrings (texts : List String) : (ofStrings texts).strings? = some texts :=
  list?_map fun _ _ => rfl

theorem option?_ofOption (present : ∀ a, encode a ≠ null) (back : ∀ a, decode (encode a) = some a)
    (a? : Option α) : (ofOption encode a?).option? decode = some a? := by
  cases a? with
  | none => rfl
  | some a =>
      have differ := present a
      have read := back a
      rw [ofOption]
      generalize encode a = v at differ read
      cases v with
      | null => exact absurd rfl differ
      | _ => simp [option?, read]

theorem standard_map {item : Shape} {as : List α}
    (standard : ∀ a ∈ as, Shape.Standard (depth + 1) item (encode a)) :
    Shape.Standard (depth + 2) (.list item) (array (as.map encode)) := by
  refine .list fun v mem => ?_
  obtain ⟨a, mem_as, rfl⟩ := List.mem_map.mp mem
  exact standard a mem_as

theorem standard_ofStrings (texts : List String) :
    Shape.Standard (depth + 2) (.list .string) (ofStrings texts) :=
  standard_map fun text _ => .string text

theorem standard_ofOption {inner : Shape} {a? : Option α} (present : ∀ a, encode a ≠ null)
    (standard : ∀ a ∈ a?, Shape.Standard (depth + 1) inner (encode a)) :
    Shape.Standard (depth + 1) (.optional inner) (ofOption encode a?) := by
  cases a? with
  | none => exact .missing inner
  | some a => exact .given (present a) (standard a rfl)

end Json

variable {depth : Nat}

/-! ### Time ranges, rows and log groups -/

/-- Whether both ends fit 64 bits. -/
def TimeRange.InRange (range : TimeRange) : Prop :=
  fitsInt64 range.start = true ∧ fitsInt64 range.stop = true

theorem TimeRange.ofJson?_toJson (range : TimeRange) : ofJson? range.toJson = some range :=
  rfl

theorem TimeRange.standard {range : TimeRange} (inRange : range.InRange) :
    Shape.Standard (depth + 2) shape range.toJson := by
  refine .record _ rfl (by decide) ?_
  simp only [List.zip_cons_cons, List.forall_mem_cons]
  exact ⟨.int64 inRange.1, .int64 inRange.2, nofun⟩

theorem Row.ofJson?_toJson (row : Row) : ofJson? row.toJson = some row :=
  @list?_map _ cellToJson cellOfJson? row fun _ _ => rfl

theorem Row.standard (row : Row) : Shape.Standard (depth + 3) shape row.toJson := by
  refine standard_map fun cell _ => .record _ rfl (by decide) ?_
  simp only [List.zip_cons_cons, List.forall_mem_cons]
  exact ⟨.string _, .string _, nofun⟩

theorem RegionLogGroups.ofJson?_toJson (entry : RegionLogGroups) :
    ofJson? entry.toJson = some entry := by
  simp [ofJson?, toJson, strings?_ofStrings]

theorem RegionLogGroups.standard (entry : RegionLogGroups) :
    Shape.Standard (depth + 3) shape entry.toJson := by
  refine .record _ rfl (by decide) ?_
  simp only [List.zip_cons_cons, List.forall_mem_cons]
  exact ⟨.string _, standard_ofStrings _, nofun⟩

/-! ### Queries and history entries -/

namespace Query

/-- Whether the greatest number of rows fits 32 bits, and the ends of the time range 64. -/
def InRange (query : Query) : Prop :=
  query.timeRange.InRange ∧ ∀ limit ∈ query.limit?, fitsInt32 limit = true

theorem ofJson?_toJson (query : Query) : ofJson? query.toJson = some query := by
  have limit := @option?_ofOption _ Json.integer integer? nofun (fun _ => rfl) query.limit?
  have title := @option?_ofOption _ Json.string string? nofun (fun _ => rfl) query.title?
  have names := @option?_ofOption _ ofStrings strings? nofun strings?_ofStrings query.fieldNames?
  simp [ofJson?, toJson, TimeRange.ofJson?_toJson, strings?_ofStrings, limit, title, names]

theorem standard {query : Query} (inRange : query.InRange) :
    Shape.Standard (depth + 3) shape query.toJson := by
  refine .record _ rfl (by decide) ?_
  simp only [List.zip_cons_cons, List.forall_mem_cons]
  exact ⟨.string _, .string _, standard_ofStrings _, .string _, TimeRange.standard inRange.1,
    standard_ofOption nofun fun _ mem => .int32 (inRange.2 _ mem), .string _,
    standard_ofOption nofun fun _ _ => .string _,
    standard_ofOption nofun fun _ _ => standard_ofStrings _, nofun⟩

end Query

theorem QueryStatus.ofName?_name (status : QueryStatus) : ofName? status.name = some status := by
  cases status <;> decide

namespace HistoryEntry

/-- Whether the time fits 64 bits. -/
def InRange (entry : HistoryEntry) : Prop :=
  ∀ time ∈ entry.createTime?, fitsInt64 time = true

theorem ofJson?_toJson (entry : HistoryEntry) : ofJson? entry.toJson = some entry := by
  have queryId := @option?_ofOption _ Json.string string? nofun (fun _ => rfl) entry.queryId?
  have createTime :=
    @option?_ofOption _ Json.integer integer? nofun (fun _ => rfl) entry.createTime?
  simp [ofJson?, toJson, queryId, createTime, QueryStatus.ofName?_name]

theorem standard {entry : HistoryEntry} (inRange : entry.InRange) :
    Shape.Standard (depth + 2) shape entry.toJson := by
  have listed : entry.status.name ∈ QueryStatus.all.map QueryStatus.name := by
    cases entry.status <;> decide
  refine .record _ rfl (by decide) ?_
  simp only [List.zip_cons_cons, List.forall_mem_cons]
  exact ⟨standard_ofOption nofun fun _ _ => .string _, .string _,
    standard_ofOption nofun fun _ mem => .int64 (inRange _ mem), .choice listed, nofun⟩

end HistoryEntry

/-! ### Commands and messages -/

namespace Statistics

/-- The numbers one by one. -/
def figures (statistics : Statistics) : List Float :=
  [statistics.bytesScanned, statistics.recordsMatched, statistics.recordsScanned]

theorem standard {statistics : Statistics} (kept : ∀ x ∈ statistics.figures, ReadsBack x) :
    Shape.Standard (depth + 2) shape statistics.toJson := by
  rw [figures, List.forall_mem_cons, List.forall_mem_cons, List.forall_mem_singleton] at kept
  refine .record _ rfl (by decide) ?_
  simp only [List.zip_cons_cons, List.forall_mem_cons]
  exact ⟨.real kept.1, .real kept.2.1, .real kept.2.2, nofun⟩

end Statistics

namespace Command

theorem ofParts?_parts (command : Command) :
    ofParts? command.parts.1 (.object command.parts.2) = some command := by
  cases command <;> rfl

theorem standard (command : Command) : family.Standard command.parts.1 command.parts.2 := by
  cases command with
  | refresh _ | changeTitle _ =>
      refine .intro rfl (.record _ rfl (by decide) ?_) (by decide)
      simp only [parts, List.zip_cons_cons, List.forall_mem_cons]
      exact ⟨.string _, nofun⟩
  | goToLog _ _ =>
      refine .intro rfl (.record _ rfl (by decide) ?_) (by decide)
      simp only [parts, List.zip_cons_cons, List.forall_mem_cons]
      exact ⟨.string _, .string _, nofun⟩
  | openRaw | duplicate | close => exact .intro rfl (.record _ rfl (by decide) nofun) (by decide)

end Command

namespace Message

/-- Whether times and numbers of rows fit 64 bits. -/
def InRange : Message → Prop
  | started _ _ timeRange _ _ => timeRange.InRange
  | results _ _ _ rowCount => fitsWord rowCount = true
  | finished _ _ rowCount _ => fitsWord rowCount = true
  | _ => True

/-- The numbers of the statistics. -/
def figures : Message → List Float
  | finished _ _ _ statistics => statistics.figures
  | _ => []

theorem ofParts?_parts (message : Message) :
    ofParts? message.parts.1 (.object message.parts.2) = some message := by
  cases message with
  | started _ _ timeRange logGroups _ =>
      have entries := @list?_map _ RegionLogGroups.toJson RegionLogGroups.ofJson? logGroups
        fun entry _ => entry.ofJson?_toJson
      simp [ofParts?, parts, TimeRange.ofJson?_toJson, entries]
  | results fieldNames _ rows _ =>
      have all := @list?_map _ Row.toJson Row.ofJson? rows fun row _ => Row.ofJson?_toJson row
      simp [ofParts?, parts, strings?_ofStrings, all]
  | finished ending _ _ statistics => cases ending <;> rfl
  | logRecord fields =>
      have all :=
        @list?_map _ (fun field => .array [.string field.1, .string field.2]) stringPair? fields
        fun _ _ => rfl
      simp [ofParts?, parts, all]
  | title _ | rawTable _ | error _ => rfl

theorem standard {message : Message} (inRange : message.InRange)
    (kept : ∀ x ∈ message.figures, ReadsBack x) :
    family.Standard message.parts.1 message.parts.2 := by
  cases message with
  | started _ _ timeRange logGroups _ =>
      refine .intro rfl (.record _ rfl (by decide) ?_) (by decide)
      simp only [parts, List.zip_cons_cons, List.forall_mem_cons]
      exact ⟨.string _, .string _, TimeRange.standard inRange,
        standard_map fun entry _ => RegionLogGroups.standard entry, .string _, nofun⟩
  | results fieldNames _ rows _ =>
      refine .intro rfl (.record _ rfl (by decide) ?_) (by decide)
      simp only [parts, List.zip_cons_cons, List.forall_mem_cons]
      exact ⟨standard_ofStrings _, .bool _, standard_map fun row _ => Row.standard row,
        .word ((Shape.fitsUnsigned_natCast _).trans inRange), nofun⟩
  | finished ending _ _ statistics =>
      refine .intro rfl (.record _ rfl (by decide) ?_) (by decide)
      simp only [parts, List.zip_cons_cons, List.forall_mem_cons]
      exact ⟨.choice (by cases ending <;> decide), .string _,
        .word ((Shape.fitsUnsigned_natCast _).trans inRange), Statistics.standard kept, nofun⟩
  | logRecord fields =>
      refine .intro rfl (.record _ rfl (by decide) ?_) (by decide)
      simp only [parts, List.zip_cons_cons, List.forall_mem_cons]
      exact ⟨standard_map fun _ _ => .pair (.string _) (.string _), nofun⟩
  | title _ | rawTable _ | error _ =>
      refine .intro rfl (.record _ rfl (by decide) ?_) (by decide)
      simp only [parts, List.zip_cons_cons, List.forall_mem_cons]
      exact ⟨.string _, nofun⟩

end Message

end LogQuery
