namespace LogQuery.FieldSet

/-- Whether two lists of names, each without repetition, have different names. Nothing was shown
before if there are no previous names, and that counts as a change. -/
def changed : (previous? : Option (List String)) → (current : List String) → Bool
  | none, _ => true
  | some previous, current =>
    previous.length != current.length ||
      !(previous.all current.contains && current.all previous.contains)

end LogQuery.FieldSet
