/-
# Values of fields in documents

| value | written as |
| --- | --- |
| color, drawable | as in a skin |
| word | an integer |
| text, flag | as such |
-/

import Theming.Resource.Codec
import Theming.Target

namespace Theming

/-- A value of a field as a document value. -/
def Value.toData : Value → Data
  | .color c => c.toData
  | .drawable d => d.toData
  | .word w => .ofWord w
  | .text s => .text s
  | .flag b => .bool b

/-- A value or none as a document value. -/
def Value.optionToData : Option Value → Data
  | some v => v.toData
  | none => .null

/-- Reads a value of a form from a document value. -/
def ValueForm.ofData? : ValueForm → Data → Option Value
  | color, d => (Color.ofData? d).map .color
  | drawable, d => (Drawable.ofData? d).map .drawable
  | word, d => d.asWord?.map .word
  | text, d => d.asText?.map .text
  | flag, .bool b => some (.flag b)
  | flag, _ => none

/-- Reads what a plain or an optional field can be given. -/
def Layout.ofData? : Layout → Data → Option Content
  | plain form, d => (form.ofData? d).map .plain
  | optional _, .null => some (.optional none)
  | optional form, d => (form.ofData? d).map fun v => .optional (some v)
  | _, _ => none

end Theming
