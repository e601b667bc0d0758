import LogQuery.Display.Record
import LogQuery.Proofs.Json.Pretty

namespace LogQuery.Display

open Json

variable {field value : String} {v : Json}

theorem shownValue_of_not_time (other : field ∉ timeFields) (value : String) :
    shownValue field value = shownJson value := by
  have kept : timeFields.contains field = false := by simpa using other
  rw [shownValue, kept]
  rfl

theorem shownJson_of_collection (reads : read value = .ok v)
    (collection : v.isCollection = true) :
    shownJson value = v.canonical.prettyText := by
  rw [shownJson, reads]
  cases v with
  | array items => rfl
  | object members => rfl
  | _ => cases collection

theorem shownJson_of_other (other : ∀ v, read value = .ok v → v.isCollection = false) :
    shownJson value = value := by
  rw [shownJson]
  split
  · next items reads => cases other _ reads
  · next members reads => cases other _ reads
  · rfl

theorem shownJson_shownJson (whole : ∀ v, read value = .ok v → v.isCollection = true →
    v.integral = true) :
    shownJson (shownJson value) = shownJson value := by
  by_cases other : ∀ v, read value = .ok v → v.isCollection = false
  · rw [shownJson_of_other other, shownJson_of_other other]
  · simp only [not_forall, Bool.not_eq_false] at other
    obtain ⟨v, reads, collection⟩ := other
    have again := read_prettyText_canonical reads (whole v reads collection)
    rw [shownJson_of_collection reads collection,
      shownJson_of_collection again ((isCollection_canonical v).trans collection),
      canonical_canonical]

/-- An array or an object whose numbers are all integers is shown as a text of the same value,
with its members in order. Any other value is shown unchanged. -/
theorem shown_json_is_read_back (notEvent : field ≠ "@timestamp")
    (notIngestion : field ≠ "@ingestionTime")
    (whole : ∀ v, read value = .ok v → v.isCollection = true → v.integral = true) :
    (∀ v, read value = .ok v → v.isCollection = true →
      read (shownValue field value) = .ok v.canonical ∧ Alike v.canonical v) ∧
    ((∀ v, read value = .ok v → v.isCollection = false) → shownValue field value = value) ∧
    shownValue field (shownValue field value) = shownValue field value := by
  have other : field ∉ timeFields := by simp [timeFields, notEvent, notIngestion]
  simp only [shownValue_of_not_time other]
  refine ⟨fun v reads collection => ⟨?_, alike_canonical v⟩, shownJson_of_other,
    shownJson_shownJson whole⟩
  rw [shownJson_of_collection reads collection]
  exact read_prettyText_canonical reads (whole v reads collection)

theorem shown_json_is_read_back_nested :
    let value := "\x7b\"k\":0,\"b\":[18446744073709551615,-9223372036854775808,\x7b\x7d]," ++
      "\"a\":\"\\u0001\\/\\u00e9\",\"k\":[]\x7d"
    let shown :=
      "\x7b\n  \"a\": \"\\u0001/é\",\n  \"b\": [\n    18446744073709551615,\n" ++
      "    -9223372036854775808,\n    \x7b\x7d\n  ],\n  \"k\": []\n\x7d"
    "@message" ≠ "@timestamp" ∧ "@message" ≠ "@ingestionTime" ∧
      (∀ v, read value = .ok v → v.isCollection = true → v.integral = true) ∧
      shownValue "@message" value = shown ∧
      (∃ v, read value = .ok v ∧ read shown = .ok v.canonical ∧ Alike v.canonical v) ∧
      shownValue "@message" shown = shown := by
  intro value shown
  have notEvent : "@message" ≠ "@timestamp" := by decide +kernel
  have notIngestion : "@message" ≠ "@ingestionTime" := by decide +kernel
  have right : shownValue "@message" value = shown := by decide +kernel
  have found : (read value).toOption.any (fun v => v.isCollection && v.integral) =
    true := by decide +kernel
  cases reads : read value with
  | error fault =>
      rw [reads] at found
      cases found
  | ok v =>
      rw [reads, Except.toOption, Option.any_some, Bool.and_eq_true] at found
      have whole : ∀ w, read value = .ok w → w.isCollection = true → w.integral = true := by
        intro w same _
        rw [reads] at same
        cases same
        exact found.2
      obtain ⟨same, -, again⟩ := shown_json_is_read_back notEvent notIngestion whole
      rw [right] at same again
      exact ⟨notEvent, notIngestion, fun w => reads ▸ whole w, right,
        ⟨v, rfl, same v reads found.1⟩, again⟩

end LogQuery.Display
