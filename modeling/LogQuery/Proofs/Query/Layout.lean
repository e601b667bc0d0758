import LogQuery.Proofs.Query.Reading
import LogQuery.Proofs.Text.Endings
import LogQuery.Query.Block

namespace LogQuery.Query

open Text

/-- Whether a text becomes another one by a line that is put between two of its lines, above all
of them or below all of them. -/
inductive Inserts (line : String) : String → String → Prop where
  | above {front : String} (back : String) {ending : String} (ended : Ended front)
      (endsLine : LineEnd ending) : Inserts line (front ++ back) (front ++ line ++ ending ++ back)
  | below (text : String) {ending rest : String} (endsLine : LineEnd ending)
      (endsText : rest = "" ∨ LineEnd rest) : Inserts line text (text ++ ending ++ line ++ rest)
  | alone : Inserts line "" line

section Comment

variable {line : String}

theorem stripEnd_of_comment {rest : List Char} (chars : line.toList = '#' :: rest) :
    stripEnd line.toList = '#' :: stripEnd rest := by
  rw [chars]
  exact stripEnd_append_cons (by decide) [] rest

theorem trimEnd_ne_empty_of_comment (comment : line.toList.head? = some '#') :
    trimEnd line ≠ "" := by
  obtain ⟨rest, chars⟩ := List.head?_eq_some_iff.mp comment
  intro gone
  have kept := congrArg String.toList gone
  rw [trimEnd, String.toList_ofList, stripEnd_of_comment chars] at kept
  cases kept

theorem trim_append_comment (comment : line.toList.head? = some '#') (front back : String) :
    trim (front ++ (line ++ back)) = trimStart front ++ trimEnd (line ++ back) := by
  obtain ⟨rest, chars⟩ := List.head?_eq_some_iff.mp comment
  have mark : isBlank '#' = false := by decide
  have ending : stripEnd ('#' :: (rest ++ back.toList)) = '#' :: stripEnd (rest ++ back.toList) :=
    stripEnd_append_cons mark [] _
  rw [← String.toList_inj]
  simp [trim, trimStart, trimEnd, chars, strip_append_cons mark, ending]

variable {shown : String} (same : trimEnd shown = trimEnd line)

include same

theorem stripEnd_prefix_of_same : stripEnd line.toList <+: shown.toList := by
  rw [trimEnd, trimEnd, String.ofList_inj] at same
  rw [← same]
  exact stripEnd_prefix_self shown.toList

theorem head?_of_same (comment : line.toList.head? = some '#') :
    shown.toList.head? = some '#' := by
  obtain ⟨rest, chars⟩ := List.head?_eq_some_iff.mp comment
  obtain ⟨more, here⟩ := stripEnd_prefix_of_same same
  rw [← here, stripEnd_of_comment chars]
  rfl

theorem Directs.of_same {title : String} (directs : Directs line title) :
    Directs shown title := by
  obtain ⟨mark, rest, known, chars, rfl, nonempty⟩ := directs
  obtain ⟨more, here⟩ := stripEnd_prefix_of_same same
  have solid : isBlank mark = false := by
    rcases known with rfl | rfl <;> decide
  have ending (rest : List Char) : stripEnd ('#' :: mark :: rest) =
      '#' :: mark :: stripEnd rest :=
    stripEnd_append_cons solid ['#'] rest
  rw [chars, ending] at here
  refine ⟨mark, stripEnd rest ++ more, known, here.symm, ?_, nonempty⟩
  rw [trimEnd, trimEnd, String.ofList_inj, chars, ← here, List.cons_append, List.cons_append,
    ending, ending, List.cons.injEq, List.cons.injEq] at same
  refine congrArg String.ofList ?_
  calc strip rest = strip (stripEnd rest) := (strip_stripEnd rest).symm
    _ = strip (stripEnd (stripEnd rest ++ more)) := by rw [same.2.2]
    _ = strip (stripEnd rest ++ more) := strip_stripEnd _

end Comment

/-- Whether lines become others by one more, up to blanks at its end. -/
def Adds (line : String) (ls ls' : List String) : Prop :=
  ∃ before behind shown, ls = before ++ behind ∧ ls' = before ++ shown :: behind ∧
    trimEnd shown = trimEnd line

section Inserting

variable {line text text' : String} (comment : line.toList.head? = some '#')
  (unbroken : '\n' ∉ line.toList)

include comment unbroken

theorem lines_trimEnd_of_comment : lines (trimEnd line) = [trimEnd line] :=
  lines_of_unbroken (not_mem_trimEnd unbroken) (trimEnd_ne_empty_of_comment comment)

theorem adds_alone (front back : String) (start : trimStart front = "")
    (stop : trimEnd (line ++ back) = trimEnd line) :
    Adds line (lines "") (lines (trim (front ++ line ++ back))) := by
  refine ⟨[], [], trimEnd line, rfl, ?_, trimEnd_trimEnd line⟩
  rw [String.append_assoc, trim_append_comment comment, start, stop, String.empty_append]
  exact lines_trimEnd_of_comment comment unbroken

theorem adds_above {front back ending : String} (ended : Ended front) (endsLine : LineEnd ending)
    (trimmed : Trimmed (front ++ back).toList) (nonempty : back ≠ "") :
    Adds line (lines (front ++ back)) (lines (trim (front ++ line ++ ending ++ back))) := by
  have more : back.toList ≠ [] := String.toList_eq_nil_iff.not.mpr nonempty
  have ends := List.getLast?_eq_some_getLast more
  have solid := trimmed.2 (back.toList.getLast more) (by simp [ends])
  have start : trimStart front = front := by
    apply trimStart_eq_self
    intro c head
    exact trimmed.1 c (by simp [Option.mem_def.mp head])
  have stop : trimEnd (line ++ (ending ++ back)) = line ++ (ending ++ back) := by
    apply trimEnd_eq_self
    intro c last
    have same : back.toList.getLast more = c := by simpa [ends] using last
    rwa [← same]
  obtain ⟨shown, read, same⟩ := endsLine.lines_line unbroken
  refine ⟨lines front, lines back, shown, lines_append ended back, ?_, same⟩
  rw [String.append_assoc, String.append_assoc, trim_append_comment comment, start, stop,
    lines_append ended, ← String.append_assoc, lines_append (endsLine.ended line), read]
  rfl

theorem adds_below {ending rest : String} (endsLine : LineEnd ending)
    (stop : trimEnd (line ++ rest) = trimEnd line) (trimmed : Trimmed text.toList)
    (nonempty : text ≠ "") :
    Adds line (lines text) (lines (trim (text ++ ending ++ line ++ rest))) := by
  have start : trimStart (text ++ ending) = text ++ ending := by
    apply trimStart_eq_self
    intro c head
    exact trimmed.1 c (by simpa [nonempty] using head)
  refine ⟨lines text, [], trimEnd line, (List.append_nil _).symm, ?_, trimEnd_trimEnd line⟩
  rw [String.append_assoc, trim_append_comment comment, start, stop,
    lines_append (endsLine.ended text),
    endsLine.lines_text nonempty trimmed.2, lines_trimEnd_of_comment comment unbroken]

theorem Inserts.adds (inserts : Inserts line text text') (trimmed : Trimmed text.toList) :
    Adds line (lines text) (lines (trim text')) := by
  have alone := adds_alone comment unbroken
  have start : trimStart "" = "" := rfl
  have stays : trimEnd (line ++ "") = trimEnd line := by rw [String.append_empty]
  cases inserts with
  | @above front back ending ended endsLine =>
      by_cases empty : back = ""
      · -- A trimmed text does not end in a line feed, so there is no text at all.
        have gone : front = "" := by
          rw [empty, String.append_empty] at trimmed
          exact ended.eq_empty trimmed.2
        have added := alone "" ending start (endsLine.trimEnd_append line)
        subst empty gone
        simpa only [String.append_empty] using added
      · exact adds_above comment unbroken ended endsLine trimmed empty
  | @below _ ending rest endsLine endsText =>
      have stop : trimEnd (line ++ rest) = trimEnd line := by
        rcases endsText with rfl | endsText
        · exact stays
        · exact endsText.trimEnd_append line
      by_cases empty : text = ""
      · have gone : trimStart ("" ++ ending) = "" := by
          rcases endsLine with rfl | rfl <;> rfl
        rw [empty]
        exact alone ("" ++ ending) rest gone stop
      · exact adds_below comment unbroken endsLine stop trimmed empty
  | alone =>
      have added := alone "" "" start stays
      simpa only [String.append_empty, String.empty_append] using added

end Inserting

theorem contents_insert {before behind : List String} {shown : String}
    (comment : shown.toList.head? = some '#') :
    contents ((before ++ shown :: behind).map Line.read) =
      contents ((before ++ behind).map Line.read) := by
  have passed := content?_read_of_comment comment
  simp only [contents, List.map_append, List.map_cons, List.filterMap_append,
    List.filterMap_cons_none passed]

theorem ownTitle?_insert {before behind : List String} {shown : String}
    (untitled : ∀ title, ¬Directs shown title) :
    ownTitle? ((before ++ shown :: behind).map Line.read) =
      ownTitle? ((before ++ behind).map Line.read) := by
  have untold : (Line.read shown).title? = none := by
    rw [Option.eq_none_iff_forall_ne_some]
    exact fun title told => untitled title ((title?_read shown title).mp told)
  simp only [ownTitle?, List.map_append, List.map_cons, List.findSome?_append,
    List.findSome?_cons, untold]

/-- A comment changes a query in its title only, and only by a directive. -/
theorem comments_change_only_titles {line text text' : String} (inserts : Inserts line text text')
    (trimmed : Trimmed text.toList) (comment : line.toList.head? = some '#')
    (unbroken : '\n' ∉ line.toList) (now : Int) (previousTitle? : Option String) :
    (read now previousTitle? text').map (withoutTitle ∘ withoutSource) =
        (read now previousTitle? text).map (withoutTitle ∘ withoutSource) ∧
      ((∀ title, ¬Directs line title) → (read now previousTitle? text').map withoutSource =
        (read now previousTitle? text).map withoutSource) ∧
      ∀ block query, read now previousTitle? block = .ok query →
        (∀ title, previousTitle? = some title → query.title? = some title) ∧
        (previousTitle? = none → ∀ title, query.title? = some title ↔
          ∃ before line behind, lines (trim block) = before ++ line :: behind ∧
          Directs line title ∧
            ∀ earlier ∈ before, ∀ other, ¬Directs earlier other) := by
  obtain ⟨before, behind, shown, all, all', same⟩ := inserts.adds comment unbroken trimmed
  have contents : contents (linesOf text') = contents (linesOf text) := by
    rw [linesOf, linesOf, trim_of_trimmed trimmed, all, all',
      contents_insert (head?_of_same same comment)]
  refine ⟨?_, ?_, ?_⟩
  · apply read_withoutTitle
    rw [contents]
  · intro untitled
    apply read_withoutSource
    · rw [contents]
    · rw [linesOf, linesOf, trim_of_trimmed trimmed, all, all']
      apply ownTitle?_insert
      exact fun title directs => untitled title (directs.of_same same.symm)
  · intro block query told
    obtain ⟨title, -⟩ := of_read told
    rw [title]
    constructor
    · rintro title rfl
      rfl
    · rintro rfl title
      rw [Option.none_or]
      exact ownTitle?_eq_some_iff block title

theorem comments_change_only_titles_below_settings :
    let text := "dev;us-east-1;/svc;1h\r\n" ++ "fields @message"
    let text' := "dev;us-east-1;/svc;1h\r\n" ++ "#@ Late" ++ "\n" ++ "fields @message"
    Inserts "#@ Late" text text' ∧
      (read 0 none text).toOption.map title? = some none ∧
      (read 0 none text').toOption.map title? = some (some "Late") ∧
      (read 0 none text').map (withoutTitle ∘ withoutSource) =
        (read 0 none text).map (withoutTitle ∘ withoutSource) := by
  intro text text'
  have inserts : Inserts "#@ Late" text text' :=
    .above "fields @message" (by rintro c ⟨⟩; rfl) (.inl rfl)
  have trimmed : Trimmed ("dev;us-east-1;/svc;1h\r\n" ++ "fields @message").toList := by
    constructor
    · rintro c ⟨⟩
      decide
    · rintro c ⟨⟩
      decide
  have alike := comments_change_only_titles inserts trimmed (by decide) (by decide) 0 none
  exact ⟨inserts, by decide +kernel, by decide +kernel, alike.1⟩

theorem linesOf_replaceAll {block : String} (plain : '\r' ∉ block.toList) :
    linesOf (replaceAll "\n" "\r\n" block) = linesOf block := by
  rw [linesOf, trim_replaceAll, lines_replaceAll (not_mem_trim plain), linesOf]

/-- A text may have carriage returns before its line feeds or not. -/
theorem returns_change_nothing {text : String} (plain : '\r' ∉ text.toList) :
    let returned := replaceAll "\n" "\r\n" text
    Block.ofText returned = Block.ofText text ∧
      (∀ line, Block.focused returned line = Block.focused text line) ∧
      ∀ now previousTitle?, (read now previousTitle? returned).map withoutSource =
        (read now previousTitle? text).map withoutSource := by
  intro returned
  have same : lines returned = lines text := lines_replaceAll plain
  refine ⟨?_, ?_, ?_⟩
  · rw [Block.ofText, same, Block.ofText]
  · intro line
    rw [Block.focused, same, Block.focused]
  · intro now previousTitle?
    have told : linesOf returned = linesOf text := linesOf_replaceAll plain
    apply read_withoutSource <;> rw [told]

theorem returns_change_nothing_twoBlocks :
    '\r' ∉ "dev;us-east-1;/svc;1h\nfields @message\n \nprod\n".toList ∧
      replaceAll "\n" "\r\n" "dev;us-east-1;/svc;1h\nfields @message\n \nprod\n" =
        "dev;us-east-1;/svc;1h\r\nfields @message\r\n \r\nprod\r\n" ∧
      Block.ofText (replaceAll "\n" "\r\n" "dev;us-east-1;/svc;1h\nfields @message\n \nprod\n") =
        ["dev;us-east-1;/svc;1h\nfields @message", "prod"] := by
  have plain : '\r' ∉ "dev;us-east-1;/svc;1h\nfields @message\n \nprod\n".toList := by decide
  refine ⟨plain, by decide, ?_⟩
  exact (returns_change_nothing plain).1.trans (by decide)

end LogQuery.Query
