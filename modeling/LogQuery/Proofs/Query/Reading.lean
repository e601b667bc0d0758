import LogQuery.Proofs.Query.Contents
import LogQuery.Session.Basic

namespace LogQuery

open Text

namespace Query

/-- Whether a line is a directive for a title: it starts with `#@` or `#!`, and what follows is
not blank. -/
def Directs (line title : String) : Prop :=
  ∃ mark rest, (mark = '@' ∨ mark = '!') ∧ line.toList = '#' :: mark :: rest ∧
    title = String.ofList (strip rest) ∧ title ≠ ""

theorem title?_title (text title : String) :
    (Line.title text).title? = some title ↔ title = text ∧ title ≠ "" := by
  simp only [Line.title?, String.isEmpty_iff]
  constructor
  · intro h
    split at h
    · cases h
    · cases h
      exact ⟨rfl, ‹_›⟩
  · rintro ⟨rfl, some⟩
    rw [if_neg some]

theorem title?_read (line title : String) :
    (Line.read line).title? = some title ↔ Directs line title := by
  have marked {mark : Char} {rest : List Char} (known : mark = '@' ∨ mark = '!')
      (chars : line.toList = '#' :: mark :: rest) :
      (Line.title (String.ofList (strip rest))).title? = some title ↔ Directs line title := by
    rw [title?_title]
    constructor
    · rintro ⟨same, some⟩
      exact ⟨mark, rest, known, chars, same, some⟩
    · rintro ⟨_, _, _, chars', same, some⟩
      cases chars.symm.trans chars'
      exact ⟨same, some⟩
  unfold Line.read
  split
  · next rest chars => exact marked (.inl rfl) chars
  · next rest chars => exact marked (.inr rfl) chars
  · next rest at_ bang chars =>
      refine ⟨nofun, ?_⟩
      rintro ⟨mark, rest', known, chars', -, -⟩
      cases chars.symm.trans chars'
      rcases known with rfl | rfl
      · exact absurd rfl (at_ rest')
      · exact absurd rfl (bang rest')
  · next at_ bang _ =>
      refine ⟨nofun, ?_⟩
      rintro ⟨mark, rest', known, chars', -, -⟩
      rcases known with rfl | rfl
      · exact absurd chars' (at_ rest')
      · exact absurd chars' (bang rest')

theorem ownTitle?_eq_some_iff (block title : String) :
    ownTitle? (linesOf block) = some title ↔ ∃ before line behind,
      lines (trim block) = before ++ line :: behind ∧ Directs line title ∧
        ∀ earlier ∈ before, ∀ other, ¬Directs earlier other := by
  rw [ownTitle?, linesOf, List.findSome?_map, List.findSome?_eq_some_iff]
  simp only [Function.comp_apply, title?_read, ← Option.not_isSome_iff_eq_none,
    Option.isSome_iff_exists, not_exists]

end Query

theorem Query.of_read {now : Int} {previousTitle? : Option String} {block : String}
    {query : Query} (read : Query.read now previousTitle? block = .ok query) :
    query.title? = previousTitle?.or (ownTitle? (linesOf block)) ∧ query.fieldNames? = none := by
  cases told : ofContents now (contents (linesOf block)) with
  | error problem =>
      rw [read_of_error told] at read
      cases read
  | ok plain =>
      rw [read_of_ok told] at read
      obtain ⟨line, body, settings, -, -, known⟩ := ofContents_eq_ok_iff.mp told
      obtain ⟨-, range, -, rfl⟩ := ofSettings_eq_ok_iff.mp known
      cases read
      exact ⟨rfl, rfl⟩

/-- The title that was given to the view comes first, then that of the query before, then that in
the block. -/
theorem Session.of_read {session : Session} {now : Int} {block : String} {query : Query}
    (read : session.read now block = .ok query) :
    query.title? = session.title?.or
        ((session.query?.bind Query.title?).or (Query.ownTitle? (Query.linesOf block))) ∧
      query.fieldNames? = none := by
  unfold Session.read at read
  cases parsed : Query.read now (session.query?.bind Query.title?) block with
  | error problem =>
      rw [parsed] at read
      cases read
  | ok plain =>
      rw [parsed] at read
      cases read
      obtain ⟨title, names⟩ := Query.of_read parsed
      rw [← title]
      exact ⟨Option.orElse_eq_or .., names⟩

end LogQuery
