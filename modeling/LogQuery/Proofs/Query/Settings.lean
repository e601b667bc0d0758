import LogQuery.Proofs.Query.Contents
import LogQuery.Proofs.Text.Numeral

namespace LogQuery.Query

open Text

/-- Whether a part of a settings line gives a row limit, or none. -/
def GivesLimit (part : String) : Option Int → Prop
  | none => blank part = true
  | some n => WritesInt32 (strip part.toList) n

section Limit

variable {part : String}

theorem int32?_trim {n : Int} :
    int32? (trim part) = some n ↔ WritesInt32 (strip part.toList) n := by
  rw [int32?_eq_some_iff, trim, String.toList_ofList]

theorem readLimit_eq_ok_iff {limit? : Option Int} :
    readLimit part = .ok limit? ↔ GivesLimit part limit? := by
  simp only [readLimit]
  rw [trim_isEmpty]
  cases hb : blank part with
  | true =>
      have none (n : Int) : ¬WritesInt32 (strip part.toList) n := by
        rw [strip_of_blank (blank_iff.mp hb)]
        exact not_writesInt32_nil n
      cases limit? <;> simp [GivesLimit, hb, none]
  | false =>
      cases read : int32? (trim part) with
      | some n =>
          cases limit? with
          | none => simp [GivesLimit, hb]
          | some limit => simp [GivesLimit, ← int32?_trim, read]
      | none =>
          cases limit? with
          | none => simp [GivesLimit, hb]
          | some limit => simp [GivesLimit, ← int32?_trim, read]

theorem readLimit_of_not_gives (unread : ∀ limit?, ¬GivesLimit part limit?) :
    readLimit part = .error (.invalidLimit (trim part)) := by
  have read : int32? (trim part) = none := by
    rw [Option.eq_none_iff_forall_ne_some]
    exact fun n read => unread (some n) (int32?_trim.mp read)
  have solid : ¬blank part = true := unread none
  simp only [readLimit]
  rw [trim_isEmpty, if_neg solid, read]

end Limit

namespace Settings

theorem read_congr {line line' : String} (same : trim line = trim line') :
    Settings.read line = Settings.read line' := by
  unfold Settings.read
  rw [same]

theorem splitOn_trim {first last : String} (middle : List String)
    (parts : ∀ part ∈ first :: (middle ++ [last]), ';' ∉ part.toList) :
    splitOn ';' (trim (";".intercalate (first :: (middle ++ [last])))) =
      trimStart first :: (middle ++ [trimEnd last]) := by
  have solid : isBlank ';' = false := by decide
  have trimmed : trim (";".intercalate (first :: (middle ++ [last]))) =
      (String.singleton ';').intercalate (trimStart first :: (middle ++ [trimEnd last])) :=
    trim_intercalate solid first middle last
  rw [trimmed]
  apply splitOn_intercalate
  · intro part hmem
    simp only [List.mem_cons, List.mem_append, List.not_mem_nil, or_false] at hmem parts
    rcases hmem with rfl | hmem | rfl
    · exact not_mem_trimStart (parts first (.inl rfl))
    · exact parts part (.inr (.inl hmem))
    · exact not_mem_trimEnd (parts last (.inr (.inr rfl)))
  · exact List.cons_ne_nil _ _

theorem read_of_pieces {line environment regions logGroups : String} {more : List String}
    (pieces : splitOn ';' (trim line) = environment :: regions :: logGroups :: more) :
    Settings.read line = (readLimit ((more[1]?).getD "")).map fun limit? =>
      ⟨environment, regions, logGroups, (more[0]?).getD "", limit?⟩ := by
  -- A line without semicolons is a single piece.
  have semicolon : ';' ∈ (trim line).toList := by
    by_contra absent
    rw [splitOn, cut_of_not_mem absent] at pieces
    simp at pieces
  simp only [Settings.read, if_pos semicolon, String.ofList_toList, pieces]
  cases readLimit ((more[1]?).getD "") <;> rfl

variable {environment regions logGroups timeRange : String}

theorem read_semicolons
    (parts : ∀ part ∈ [environment, regions, logGroups, timeRange], ';' ∉ part.toList) :
    Settings.read (";".intercalate [environment, regions, logGroups, timeRange]) =
      .ok ⟨trimStart environment, regions, logGroups, trimEnd timeRange, none⟩ := by
  have pieces : splitOn ';'
    (trim (";".intercalate [environment, regions, logGroups, timeRange])) =
      [trimStart environment, regions, logGroups, trimEnd timeRange] :=
    splitOn_trim [regions, logGroups] parts
  rw [read_of_pieces pieces]
  rfl

theorem read_semicolons_limit {limit : String}
    (parts : ∀ part ∈ [environment, regions, logGroups, timeRange, limit], ';' ∉ part.toList) :
    Settings.read (";".intercalate [environment, regions, logGroups, timeRange, limit]) =
      (readLimit limit).map fun limit? =>
        ⟨trimStart environment, regions, logGroups, timeRange, limit?⟩ := by
  have pieces : splitOn ';'
    (trim (";".intercalate [environment, regions, logGroups, timeRange, limit])) =
      [trimStart environment, regions, logGroups, timeRange, trimEnd limit] :=
    splitOn_trim [regions, logGroups, timeRange] parts
  have same : readLimit (trimEnd limit) = readLimit limit := by
    unfold readLimit
    rw [trim_trimEnd]
  rw [read_of_pieces pieces]
  simp [same]

theorem cutThrice_append {a b c : List Char} (ha : ':' ∉ a) (hb : ':' ∉ b) (hc : ':' ∉ c)
    (rest : List Char) :
    cutThrice (a ++ ':' :: (b ++ ':' :: (c ++ ':' :: rest))) =
      [String.ofList a, String.ofList b, String.ofList c, String.ofList rest] := by
  have pieces : cut ':' (a ++ ':' :: (b ++ ':' :: (c ++ ':' :: rest))) =
      a :: b :: c :: cut ':' rest := by
    rw [cut_append_cons ha, cut_append_cons hb, cut_append_cons hc]
  have more : ¬(a :: b :: c :: cut ':' rest).length ≤ 3 := by
    have some := List.length_pos_iff.mpr (cut_ne_nil ':' rest)
    simp only [List.length_cons]
    omega
  simp only [cutThrice, pieces, if_neg more]
  simp [intercalate_cut]

theorem read_colons
    (parts : ∀ part ∈ [environment, regions, logGroups], ':' ∉ part.toList)
    (plain : ∀ part ∈ [environment, regions, logGroups, timeRange], ';' ∉ part.toList) :
    Settings.read (":".intercalate [environment, regions, logGroups, timeRange]) =
      .ok ⟨trimStart environment, regions, logGroups, trimEnd timeRange, none⟩ := by
  have solid : isBlank ':' = false := by decide
  have trimmed : trim (":".intercalate [environment, regions, logGroups, timeRange]) =
      (String.singleton ':').intercalate
        [trimStart environment, regions, logGroups, trimEnd timeRange] :=
    trim_intercalate solid environment [regions, logGroups] timeRange
  simp only [List.forall_mem_cons] at parts plain
  have chars : (trim (":".intercalate [environment, regions, logGroups, timeRange])).toList =
      (trimStart environment).toList ++ ':' :: (regions.toList ++ ':' ::
        (logGroups.toList ++ ':' :: (trimEnd timeRange).toList)) := by
    rw [trimmed]
    simp
  have absent : ';' ∉
      (trim (":".intercalate [environment, regions, logGroups, timeRange])).toList := by
    rw [chars]
    simp [not_mem_trimStart plain.1, plain.2.1, plain.2.2.1, not_mem_trimEnd plain.2.2.2.1]
  have pieces := cutThrice_append (not_mem_trimStart parts.1) parts.2.1 parts.2.2.1
    (trimEnd timeRange).toList
  simp only [Settings.read, if_neg absent]
  rw [chars, pieces]
  simp

end Settings

end LogQuery.Query
