import LogQuery.Proofs.Text.Lines
import LogQuery.Query.Definition

namespace LogQuery.Query

open Text

/-- The query that settings and the lines of a body give, wherever they stand and under no
title. -/
def ofSettings (now : Int) (settings : Settings) (body : List String) : Except Problem Query := do
  let regions := distinct (namesOf settings.regions)
  if regions.isEmpty then .error .noRegions
  let timeRange ← (TimeRange.resolve now settings.timeRange).mapError .timeRange
  return {
    body := unlines body
    environment := trim settings.environment
    regions
    logGroups := trim settings.logGroups
    timeRange
    limit? := settings.limit?
    source := ""
    title? := none
    fieldNames? := none }

def ofContents (now : Int) : List String → Except Problem Query
  | [] => .error .noSettings
  | line :: body => Settings.read line >>= fun settings => ofSettings now settings body

section Settings

variable {now : Int} {settings : Settings} {body : List String}

theorem ofSettings_eq_ok_iff {query : Query} :
    ofSettings now settings body = .ok query ↔ distinct (namesOf settings.regions) ≠ [] ∧
      ∃ range, TimeRange.resolve now settings.timeRange = .ok range ∧
        query = ⟨unlines body, trim settings.environment, distinct (namesOf settings.regions),
          trim settings.logGroups, range, settings.limit?, "", none, none⟩ := by
  simp only [ofSettings, List.isEmpty_iff, bind, Except.bind]
  split
  · next unnamed => simp [unnamed]
  · next named =>
      cases TimeRange.resolve now settings.timeRange with
      | error problem => simp [Except.mapError]
      | ok range => simp [Except.mapError, pure, Except.pure, named, eq_comm]

theorem ofSettings_eq_error_iff {problem : Problem} :
    ofSettings now settings body = .error problem ↔
      distinct (namesOf settings.regions) = [] ∧ problem = .noRegions ∨
        distinct (namesOf settings.regions) ≠ [] ∧ ∃ cause,
          TimeRange.resolve now settings.timeRange = .error cause ∧
          problem = .timeRange cause := by
  simp only [ofSettings, List.isEmpty_iff, bind, Except.bind]
  split
  · next unnamed => simp [unnamed, eq_comm]
  · next named =>
      cases TimeRange.resolve now settings.timeRange with
      | error cause => simp [Except.mapError, named, eq_comm]
      | ok range => simp [Except.mapError, pure, Except.pure, named]

theorem ofContents_eq_ok_iff {ls : List String} {query : Query} :
    ofContents now ls = .ok query ↔ ∃ line body settings, ls = line :: body ∧
      Settings.read line = .ok settings ∧ ofSettings now settings body = .ok query := by
  cases ls with
  | nil => simp [ofContents]
  | cons line body =>
      cases told : Settings.read line with
      | error problem => simp [ofContents, told, bind, Except.bind]
      | ok settings => simp [ofContents, told, bind, Except.bind]

end Settings

def withoutSource (query : Query) : Query := { query with source := "" }

def withoutTitle (query : Query) : Query := { query with title? := none }

section Reading

variable (now : Int) (previousTitle? : Option String)

theorem read_eq (block : String) :
    read now previousTitle? block = (ofContents now (contents (linesOf block))).map fun query =>
      { query with
        source := block, title? := previousTitle?.or (ownTitle? (linesOf block)) } := by
  have title : (previousTitle? <|> ownTitle? (linesOf block)) =
      previousTitle?.or (ownTitle? (linesOf block)) := Option.orElse_eq_or ..
  unfold read
  cases told : contents (linesOf block) with
  | nil =>
      simp only [told, ofContents]
      rfl
  | cons line body =>
      simp only [told, ofContents, ofSettings, ← title]
      cases Settings.read line with
      | error problem => rfl
      | ok settings =>
          simp only [bind, Except.bind]
          split
          · rfl
          · cases TimeRange.resolve now settings.timeRange with
            | error problem => rfl
            | ok range => rfl

theorem read_of_error {now : Int} {previousTitle? : Option String} {block : String}
    {problem : Problem} (told : ofContents now (contents (linesOf block)) = .error problem) :
    read now previousTitle? block = .error problem := by
  rw [read_eq, told]
  rfl

theorem read_of_ok {now : Int} {previousTitle? : Option String} {block : String} {query : Query}
    (told : ofContents now (contents (linesOf block)) = .ok query) :
    read now previousTitle? block = .ok { query with
      source := block, title? := previousTitle?.or (ownTitle? (linesOf block)) } := by
  rw [read_eq, told]
  rfl

variable {now previousTitle?} {block block' : String}

/-- Two blocks whose lines say the same read alike. -/
theorem read_withoutSource
    (same : ofContents now (contents (linesOf block)) = ofContents now
      (contents (linesOf block')))
    (title : ownTitle? (linesOf block) = ownTitle? (linesOf block')) :
    (read now previousTitle? block).map withoutSource =
      (read now previousTitle? block').map withoutSource := by
  rw [read_eq, read_eq, same, title]
  cases ofContents now (contents (linesOf block')) with
  | error problem => rfl
  | ok query => simp only [Except.map, withoutSource]

theorem read_withoutTitle
    (same : ofContents now (contents (linesOf block)) =
      ofContents now (contents (linesOf block'))) :
    (read now previousTitle? block).map (withoutTitle ∘ withoutSource) =
      (read now previousTitle? block').map (withoutTitle ∘ withoutSource) := by
  rw [read_eq, read_eq, same]
  cases ofContents now (contents (linesOf block')) with
  | error problem => rfl
  | ok query => simp only [Except.map, Function.comp_apply, withoutTitle, withoutSource]

theorem read_trim (now : Int) (previousTitle? : Option String) (block : String) :
    (read now previousTitle? (trim block)).map withoutSource =
      (read now previousTitle? block).map withoutSource := by
  have same : linesOf (trim block) = linesOf block := by
    rw [linesOf, trim_trim, linesOf]
  apply read_withoutSource <;> rw [same]

end Reading

/-! Lines of a block, told apart. -/

theorem trimStart_of_comment {line : String} (comment : line.toList.head? = some '#') :
    trimStart line = line := by
  have flush : ∀ c ∈ line.toList.head?, isBlank c = false := by
    rw [comment]
    rintro _ ⟨⟩
    decide
  rw [trimStart, stripStart_eq_self flush, String.ofList_toList]

theorem content?_read_of_comment {line : String} (comment : line.toList.head? = some '#') :
    (Line.read line).content? = none := by
  obtain ⟨rest, chars⟩ := List.head?_eq_some_iff.mp comment
  unfold Line.read
  split
  · rfl
  · rfl
  · rfl
  · next other => exact absurd chars (other rest)

theorem read_of_not_comment {line : String} (solid : line.toList.head? ≠ some '#') :
    Line.read line = .content line := by
  unfold Line.read
  split
  · next chars => simp [chars] at solid
  · next chars => simp [chars] at solid
  · next chars => simp [chars] at solid
  · rfl

end LogQuery.Query
