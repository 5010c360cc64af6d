/-!
Why a text gives no datum.
-/

namespace Templating.Yaml

inductive Fault where
  /-- The text is no document, or a node has a tag that does not fit it. -/
  | malformed
  /-- A scalar that should be a number, a date or a character is none. -/
  | noSuchValue
  /-- A scalar that should be a number has no characters for one. -/
  | noDigits
  | noTruthValue
  /-- The rules of another version than the supported ones would be needed. -/
  | unknownVersion
  /-- A key holds a collection that can change. -/
  | changeableKey
  /-- A key of an ordered mapping occurs twice. -/
  | repeatedKey
  /-- A point in time or a character number is too large. -/
  | outOfRange
deriving DecidableEq, Repr

end Templating.Yaml
