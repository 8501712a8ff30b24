import BatchExchange.Text

/-!
# The continue-on-error preference

`odata.continue-on-error` is looked for among the comma-separated preferences of all `Prefer` values; the
last well-formed one decides.
-/

namespace BatchExchange.Preference

/-- The preference that keeps a batch running after a failed part. -/
def continueOnError : Text := "odata.continue-on-error".toList

/-- The text without the quotes at both ends, however many. -/
def withoutQuotes (t : Text) : Text := dropTail (· = '"') (t.dropWhile (· = '"'))

/-- What one preference says about continuing: nothing, if it is another one or malformed. -/
def read? (preference : Text) : Option Bool :=
  let preference := Text.trim (preference.takeWhile (· ≠ ';'))
  let (name, value) := match cut? '=' preference with
    | some (name, value) => (Text.trim name, some (withoutQuotes (Text.trim value)))
    | none => (preference, none)
  if Text.same name continueOnError then
    match value with
    | none => some true
    | some v =>
      if Text.same v "true".toList then some true
      else if Text.same v "false".toList then some false
      else none
  else none

/-- What the values of the `Prefer` header say about continuing. -/
def ofValues (values : List Text) : Option Bool :=
  ((values.flatMap (·.splitOn ',')).filterMap read?).getLast?

end BatchExchange.Preference
