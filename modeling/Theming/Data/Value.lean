/-
# Values of a document

What a JSON or a TOML document holds, as far as descriptions, manifests and skins care. The
members of a record keep their order and their repetitions, so that a decoder can refuse a
repeated member.
-/

namespace Theming

/-- A value inside a document. -/
inductive Data where
  | null
  | bool (b : Bool)
  | integer (n : Int)
  | text (s : String)
  | list (items : List Data)
  | record (members : List (String × Data))
  /-- A value of a kind that no decoder accepts: a floating point number, a date, a text with half
  of a surrogate pair, a list or a record nested too deeply. -/
  | other
deriving Inhabited, Repr

namespace Data

/-- The values of all members of a name. -/
def membersOf (name : String) (members : List (String × Data)) : List Data :=
  (members.filter fun m => m.1 == name).map Prod.snd

/-- The member of a name, if the record has exactly one. -/
def member? (name : String) (members : List (String × Data)) : Option Data :=
  match membersOf name members with
  | [d] => some d
  | _ => none

/-- A text. -/
def asText? : Data → Option String
  | .text s => some s
  | _ => none

/-- A list. -/
def asList? : Data → Option (List Data)
  | .list items => some items
  | _ => none

/-- An integer that fits 32 bits without a sign. -/
def asWord? : Data → Option UInt32
  | .integer n => if 0 ≤ n ∧ n < UInt32.size then some (UInt32.ofNat n.toNat) else none
  | _ => none

/-- The number of a 32-bit word. -/
def ofWord (w : UInt32) : Data := .integer w.toNat

@[simp] theorem asWord?_ofWord (w : UInt32) : (ofWord w).asWord? = some w := by
  have := UInt32.toNat_lt_size w
  simp only [ofWord, asWord?]
  split
  · simp
  · omega

end Data
end Theming
