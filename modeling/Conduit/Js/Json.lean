import Conduit.Js.Lines

namespace Conduit.Js

/-- What `JSON.parse` returns, fractions as text; of equal keys the last wins. -/
inductive JsonValue where
  | null
  | bool (b : Bool)
  | int (n : Int)
  | number (text : Text)
  | string (s : Text)
  | array (items : List JsonValue)
  | object (fields : List (Text × JsonValue))

namespace JsonValue

/-- `value.key`; `none` is `undefined`. -/
def field (key : Text) : JsonValue → Option JsonValue
  | .object fields => (fields.find? fun entry => decide (entry.1 = key)).map Prod.snd
  | _ => none

/-- `typeof value === "string"`. -/
def string? : JsonValue → Option Text
  | .string s => some s
  | _ => none

def int? : JsonValue → Option Int
  | .int n => some n
  | _ => none

def stringRows? : JsonValue → Option (List (List Text))
  | .array rows => rows.mapM fun
    | .array items => items.mapM string?
    | _ => none
  | _ => none

/-- `value === null || value === undefined`. -/
def isNullish : Option JsonValue → Bool
  | none | some .null => true
  | _ => false

mutual

/-- `String(value)`. An object that has a `toString` of its own cannot be converted. -/
def toText : JsonValue → Option Text
  | .null => some "null"
  | .bool b => some (if b then "true" else "false")
  | .int n => some (numberText n)
  | .number text => some text
  | .string s => some s
  | .array items => (itemTexts items).map (joinWith ',')
  | .object fields =>
    if fields.any fun entry => decide (entry.1 = "toString".toList) then none
    else some "[object Object]"

def itemTexts : List JsonValue → Option (List Text)
  | [] => some []
  | .null :: items => (itemTexts items).map ([] :: ·)
  | item :: items => do
    let text ← toText item
    let texts ← itemTexts items
    pure (text :: texts)

end

end JsonValue

/-- `String(value)` of what may be undefined. -/
def textOf : Option JsonValue → Option Text
  | none => some "undefined"
  | some value => value.toText

end Conduit.Js
