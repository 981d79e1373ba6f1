import Codemap.Text.Base64
import Codemap.Text.Case
import Codemap.Yaml.Content
import Codemap.Yaml.Value

namespace Codemap
namespace Yaml

/-!
# The value of a scalar

The tag of a scalar says what kind of value its text writes.  A text of the right
kind may still write no value; the cause is then reported.  Integers and numbers
with a point share three habits: underscores in them have no meaning, a sign may
stand before them, and groups joined by colons are digits to the base sixty.
-/

namespace Scalar

/-- The value of a truth value's name, in letters of either case. -/
def truth (text : Text) : Except ScalarFault Bool :=
  let name := text.lower
  if ["yes", "true", "on"].any fun word => word.toList == name then .ok true
  else if ["no", "false", "off"].any fun word => word.toList == name then .ok false
  else .error (.unknownTruth name)

/-- A text without underscores. -/
def dropBars (text : Text) : Text :=
  text.filter (· != '_')

/-- Read digits to a base. -/
def readDigits (base : Nat) (text : Text) : Except ScalarFault Int :=
  match Text.readInteger base text with
  | .ok n => .ok n
  | .error .notAnInteger => .error (.notAnInteger base text)
  | .error (.tooManyDigits count) => .error (.tooManyDigits count)

/-- The value of an integer without its sign: zero, digits to the base that the first
characters name, groups to the base sixty, or decimal digits. -/
def magnitude (text : Text) : Except ScalarFault Int :=
  match text with
  | [] => .error .emptyNumber
  | ['0'] => .ok 0
  | '0' :: 'b' :: digits => readDigits 2 digits
  | '0' :: 'x' :: digits => readDigits 16 digits
  | '0' :: _ => readDigits 8 text
  | _ =>
      if text.contains ':' then do
        let groups ← (Text.fields ':' text).mapM (readDigits 10)
        return groups.foldl (fun value group => value * 60 + group) 0
      else readDigits 10 text

/-- The value of an integer. -/
def integer (text : Text) : Except ScalarFault Int := do
  let (negative, body) := Text.splitSign (dropBars text)
  let value ← magnitude body
  return if negative then -value else value

/-- Read a decimal number. -/
def readFloat (text : Text) : Except ScalarFault Binary64 :=
  match Binary64.ofText? text with
  | some x => .ok x
  | none => .error (.notAFloat text)

/-- The sum of groups to the base sixty, the last group first; `unit` is the weight of
the next group, which has to be within the range of numbers with a point. -/
def sumGroups (total : Binary64) (unit : Nat) : List Binary64 → Except ScalarFault Binary64
  | [] => .ok total
  | group :: rest =>
      let weight := Binary64.ofInt unit
      if weight.isInfinite then .error .weightTooLarge
      else sumGroups (total.add (group.mul weight)) (unit * 60) rest

/-- The value of a number with a point. -/
def number (text : Text) : Except ScalarFault Binary64 := do
  let written := (dropBars text).lower
  if written.isEmpty then throw .emptyNumber
  let (negative, body) := Text.splitSign written
  if body = ".nan".toList then return Binary64.nan
  let value ←
    if body = ".inf".toList then pure (Binary64.infinity false)
    else if body.contains ':' then do
      let groups ← (Text.fields ':' body).mapM readFloat
      sumGroups (Binary64.zero false) 1 groups.reverse
    else readFloat body
  return if negative then value.negate else value

/-- The value of a scalar with a tag that belongs to scalars; `origin` is the number of
its node.  Bytes must be written in ASCII.  Surrogates can only stand in texts: no other
value is written with one, nor with the character that stands in its place. -/
def value (tag : Tag) (content : Content) (origin : Nat) : Except Fault Value :=
  let text := content.text
  let settle {α : Type} (wrap : α → Value) (found : Except ScalarFault α) : Except Fault Value :=
    match found with
    | .ok value => .ok (wrap value)
    | .error why => .error (.scalar why)
  match tag with
  | .null => .ok .null
  | .str =>
      match content with
      | .whole text => .ok (.str text)
      | .torn points => .ok (.torn points)
  | .bool => settle .bool (truth text)
  | .int => settle .int (integer text)
  | .float => settle .float (number text)
  | .timestamp => settle (fun moment => .moment moment origin) (Moment.ofText text)
  | .binary =>
      if text.all fun c => c.toNat < 128 then
        match Base64.decode? text with
        | some bytes => .ok (.bytes bytes)
        | none => .error .malformed
      else .error .malformed
  | _ => .error .malformed

end Scalar
end Yaml
end Codemap
