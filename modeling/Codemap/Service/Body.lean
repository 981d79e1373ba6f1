import Codemap.Bundle.Request
import Codemap.Json.Reader
import Codemap.Number.Integer
import Codemap.Yaml.Value

namespace Codemap
namespace Service

/-!
# Bodies of requests

A request to the service has a JSON object as its body.  Members that are not known are
ignored; a known one of the wrong kind spoils the body.  An integer may be written as a
number without fraction, as a truth value, or as a text.
-/

/-- The digits of an integer before a fraction of zeros. -/
def dropZeroFraction (text : Text) : Text :=
  let whole := text.takeWhile (· != '.')
  if (text.drop (whole.length + 1)).all (· == '0') then whole else text

/-- The integer that a text writes with digits of ASCII. -/
def integerOfText? (text : Text) : Option Int :=
  let whole := dropZeroFraction text.trimNumber
  if whole.all fun c => c.toNat < 128 then Text.readInteger? whole else none

/-- The integer that a number is, if it fits into 64 bits. -/
def integerOfNumber? (x : Binary64) : Option Int :=
  if x.isNaN || x.isInfinite then none
  else
    let (numerator, denominator) := x.ratio
    if numerator % denominator = 0 ∧ numerator / denominator < Nat.pow 2 63 then
      some (Text.withSign x.isNegative (numerator / denominator))
    else none

/-- The integer of a value. -/
def integer? : Json → Option Int
  | .int n => some n
  | .bool b => some (if b then 1 else 0)
  | .float x => integerOfNumber? x
  | .str text => integerOfText? text
  | _ => none

/-- The text of a value. -/
def text? : Json → Option Text
  | .str text => some text
  | _ => none

/-- The texts of a value that is a list of texts. -/
def texts? : Json → Option (List Text)
  | .arr items => items.mapM text?
  | _ => none

/-- A member that may be missing. -/
def member? {α : Type} (members : List (Text × Json)) (name : String) (absent : α)
    (read : Json → Option α) : Option α :=
  match Json.look? members name.toList with
  | some value => read value
  | none => some absent

/-- Read a value that may be null. -/
def orNull? {α : Type} (read : Json → Option α) : Json → Option (Option α)
  | .null => some none
  | value => (read value).map some

/-- The request for a bundle that a body makes. -/
def bundleRequest? : Json → Option Bundle.Request
  | .obj members => do
      let terms ← (Json.look? members "search_terms".toList).bind texts?
      if terms.isEmpty then none
      let globs ← member? members "globs" [] texts?
      let patterns ← member? members "regex" [] texts?
      let depth ← member? members "reference_depth" none (orNull? integer?)
      if depth.any (· < -1) then none
      return { terms, globs, patterns, depth }
  | _ => none

/-- An edit of the settings that is asked for. -/
structure EditRequest where
  operation : EditOperation
  key : Option Text := none
  value : Yaml.Document
  item : Yaml.Document
deriving Inhabited

/-- The document of a member; the null value if it is missing. -/
def documentOf (members : List (Text × Json)) (name : String) : Yaml.Document :=
  Yaml.Document.fromJson ((Json.look? members name.toList).getD .null)

/-- The edit that a body asks for. -/
def editRequest? : Json → Option EditRequest
  | .obj members => do
      let name ← (Json.look? members "operation".toList).bind text?
      let operation ← EditOperation.ofText? name
      let key ← member? members "key" none (orNull? text?)
      return {
        operation, key
        value := documentOf members "value"
        item := documentOf members "array_item" }
  | _ => none

end Service
end Codemap
