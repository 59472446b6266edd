/-! Parts of a text, and texts written one after another with a separator between. -/

namespace RecordQuery.Text

/-- Whether `part` stands somewhere in `text`. -/
def holdsPart (part : List Char) : (text : List Char) → Bool
  | [] => part.isEmpty
  | c :: text => part.isPrefixOf (c :: text) || holdsPart part text

theorem holdsPart_iff {part text : List Char} : holdsPart part text = true ↔ part <:+: text := by
  induction text with
  | nil => cases part <;> simp [holdsPart]
  | cons c text ih => simp [holdsPart, ih, List.infix_cons_iff]

/-- The texts in order with `separator` between neighbours. -/
def joined (separator : String) : List String → String
  | [] => ""
  | [text] => text
  | text :: next :: texts => text ++ separator ++ joined separator (next :: texts)

end RecordQuery.Text
