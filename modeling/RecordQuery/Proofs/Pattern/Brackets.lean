import Mathlib.Order.Bounds.Basic
import RecordQuery.Proofs.Pattern.Words

/-! Brackets that stay open in patterns of words. A pattern is refused if some opening bracket has
no closing one anywhere behind it, and the error gives the number of characters before the first
such bracket (`ofWords_eq_error_iff`). A search that counts bytes, and turns them into characters
only when it has come to its end, gives the same number (`OpensAt.charactersIn_openByte?`). -/

namespace RecordQuery.Pattern

variable {chars before after rest : List Char} {place : Nat}

/-! ### The first bracket that stays open -/

/-- At this place there is an opening bracket, and behind it nowhere a closing one. -/
def StaysOpen (chars : List Char) (place : Nat) : Prop :=
  chars[place]? = some '[' ∧ ']' ∉ chars.drop (place + 1)

theorem staysOpen_append : StaysOpen (before ++ '[' :: after) before.length ↔ ']' ∉ after := by
  simp [StaysOpen, ← List.drop_drop]

/-- A bracket that stays open does so in front of any end of the text. -/
theorem StaysOpen.of_append (h : StaysOpen (before ++ rest) place) (hlt : place < before.length) :
    StaysOpen before place := by
  obtain ⟨hopen, hclose⟩ := h
  rw [List.getElem?_append_left hlt] at hopen
  rw [List.drop_append_of_le_length hlt, List.mem_append, not_or] at hclose
  exact ⟨hopen, hclose.1⟩

theorem StaysOpen.not_bracketsClose (h : StaysOpen chars place) : ¬BracketsClose chars := by
  obtain ⟨hplace, hafter⟩ := h
  obtain ⟨hlt, hopen⟩ := List.getElem?_eq_some_iff.1 hplace
  intro hclose
  refine hafter (hclose (chars.take place) (chars.drop (place + 1)) ?_)
  rw [← hopen, List.getElem_cons_drop, List.take_append_drop]

/-- A bracket that stays open, with all brackets closed before it, is the first of those that stay
open. -/
theorem OpensAt.isLeast (h : OpensAt chars place) :
    IsLeast {place | StaysOpen chars place} place := by
  obtain ⟨before, after, rfl, hbefore, hafter, rfl⟩ := h
  refine ⟨staysOpen_append.2 hafter, fun other hother => ?_⟩
  by_contra! hlt
  exact (StaysOpen.of_append hother hlt).not_bracketsClose hbefore

/-! ### Counting bytes -/

/-- The number of bytes of a text. -/
def byteLength : List Char → Nat
  | [] => 0
  | c :: chars => c.utf8Size + byteLength chars

theorem byteLength_append (chars more : List Char) :
    byteLength (chars ++ more) = byteLength chars + byteLength more := by
  induction chars with
  | nil => rw [List.nil_append, byteLength, Nat.zero_add]
  | cons c chars ih => rw [List.cons_append, byteLength, byteLength, ih, Nat.add_assoc]

/-- The number of characters that begin in so many bytes of a text. -/
def charactersIn : List Char → Nat → Nat
  | [], _ => 0
  | c :: chars, count => if count = 0 then 0 else charactersIn chars (count - c.utf8Size) + 1

theorem charactersIn_append (chars more : List Char) :
    charactersIn (chars ++ more) (byteLength chars) = chars.length := by
  induction chars with
  | nil => cases more <;> rfl
  | cons c chars ih =>
    have hpos := c.utf8Size_pos
    rw [List.cons_append, charactersIn, byteLength, if_neg (by omega), Nat.add_sub_cancel_left, ih,
      List.length_cons]

/-- The byte at which a bracket stays open, searched for with `rest` left of the pattern: the byte
where `rest` begins, and from there the bytes of the text before the bracket. -/
def openByte? (pattern rest : List Char) : Option Nat :=
  let text := rest.takeWhile (· != '[')
  match _h : rest.dropWhile (· != '[') with
  | [] => none
  | _ :: after =>
    match _h' : after.dropWhile (· != ']') with
    | [] => some (byteLength pattern - byteLength rest + byteLength text)
    | _ :: more => openByte? pattern more
termination_by rest.length
decreasing_by
  have h1 := (List.dropWhile_suffix (l := rest) (· != '[')).length_le
  have h2 := (List.dropWhile_suffix (l := after) (· != ']')).length_le
  rw [_h] at h1
  rw [_h'] at h2
  simp only [List.length_cons] at h1 h2
  omega

section Searching

variable {pattern text name : List Char} {parts : List Piece}

theorem openByte?_last (htext : '[' ∉ text) : openByte? pattern text = none := by
  rw [openByte?]
  split
  · rfl
  · next heq => rw [List.dropWhile_eq_nil_iff.2 (ne_of_notMem htext)] at heq; cases heq

theorem openByte?_open (htext : '[' ∉ text) (hafter : ']' ∉ after) :
    openByte? pattern (text ++ '[' :: after) =
      some (byteLength pattern - byteLength (text ++ '[' :: after) + byteLength text) := by
  rw [openByte?]
  split
  · next heq => rw [dropWhile_before htext] at heq; cases heq
  · next heq =>
    rw [dropWhile_before htext] at heq
    cases heq
    split
    · rw [takeWhile_before htext]
    · next heq => rw [List.dropWhile_eq_nil_iff.2 (ne_of_notMem hafter)] at heq; cases heq

theorem openByte?_next (htext : '[' ∉ text) (hname : ']' ∉ name) :
    openByte? pattern (text ++ '[' :: (name ++ ']' :: rest)) = openByte? pattern rest := by
  rw [openByte?]
  split
  · next heq => rw [dropWhile_before htext] at heq; cases heq
  · next heq =>
    rw [dropWhile_before htext] at heq
    cases heq
    split
    · next heq => rw [dropWhile_before hname] at heq; cases heq
    · next heq =>
      rw [dropWhile_before hname] at heq
      cases heq
      rfl

theorem Splits.openByte?_eq_none (h : Splits rest parts) : openByte? pattern rest = none := by
  induction h with
  | last htext => exact openByte?_last htext
  | next htext hname _ ih => rw [openByte?_next htext hname, ih]

/-- Behind a place up to which all brackets are closed, the bytes are those up to that place. -/
theorem Splits.openByte?_append (h : Splits rest parts) (hafter : ']' ∉ after)
    (before : List Char) :
    openByte? (before ++ (rest ++ '[' :: after)) (rest ++ '[' :: after) =
      some (byteLength (before ++ rest)) := by
  induction h generalizing before with
  | @last text htext =>
    rw [openByte?_open htext hafter]
    simp only [byteLength_append, Option.some.injEq]
    omega
  | @next text name rest more htext hname _ ih =>
    have hrest : (text ++ '[' :: (name ++ ']' :: rest)) ++ '[' :: after =
        text ++ '[' :: (name ++ ']' :: (rest ++ '[' :: after)) := by simp
    have hbefore : before ++ (text ++ '[' :: (name ++ ']' :: (rest ++ '[' :: after))) =
        (before ++ text ++ '[' :: (name ++ [']'])) ++ (rest ++ '[' :: after) := by simp
    rw [hrest, openByte?_next htext hname, hbefore, ih]
    simp

/-- The characters in the bytes before a bracket that stays open are those before its place. -/
theorem OpensAt.charactersIn_openByte? (h : OpensAt chars place) :
    (openByte? chars chars).map (charactersIn chars) = some place := by
  obtain ⟨before, after, rfl, hbefore, hafter, rfl⟩ := h
  obtain ⟨parts, hparts⟩ := hbefore.exists_splits
  have hbyte := hparts.openByte?_append hafter []
  rw [List.nil_append, List.nil_append] at hbyte
  rw [hbyte, Option.map_some, charactersIn_append]

end Searching

/-! ### Refused patterns -/

/-- A pattern of words is refused if and only if some opening bracket has no closing one anywhere
behind it. The error then gives the number of characters before the first such bracket, which is
also what the bytes come to that a search by bytes ends at. -/
theorem ofWords_eq_error_iff (pattern : String) :
    ((∃ error, ofWords pattern = .error error) ↔ ∃ place, StaysOpen pattern.toList place) ∧
    (∀ error, ofWords pattern = .error error ↔
      ∃ place, IsLeast {place | StaysOpen pattern.toList place} place ∧
        error = .unclosedBracket place pattern) ∧
    ∀ place, ofWords pattern = .error (.unclosedBracket place pattern) ↔
      (openByte? pattern.toList pattern.toList).map (charactersIn pattern.toList) = some place := by
  by_cases hclose : BracketsClose pattern.toList
  · obtain ⟨text, htext⟩ := hclose.exists_regex
    obtain ⟨parts, hparts⟩ := hclose.exists_splits
    have hok : ∀ error, ofWords pattern ≠ .error error := fun error h => by
      have hsame : Except.error error = Except.ok text := h.symm.trans htext
      cases hsame
    have hnone : ∀ place, ¬StaysOpen pattern.toList place := fun place h =>
      h.not_bracketsClose hclose
    refine ⟨⟨fun ⟨error, h⟩ => absurd h (hok error), fun ⟨place, h⟩ => absurd h (hnone place)⟩,
      fun error => ⟨fun h => absurd h (hok error), fun ⟨place, h, _⟩ => absurd h.1 (hnone place)⟩,
      fun place => ?_⟩
    simp [hok, hparts.openByte?_eq_none]
  · obtain ⟨place, hplace⟩ := exists_opensAt hclose
    have herror : ofWords pattern = .error (.unclosedBracket place pattern) := hplace.regex_eq
    have hleast := hplace.isLeast
    refine ⟨⟨fun _ => ⟨place, hleast.1⟩, fun _ => ⟨_, herror⟩⟩, fun error => ⟨fun h => ?_, ?_⟩,
      fun other => ?_⟩
    · exact ⟨place, hleast, Except.error.inj (h.symm.trans herror)⟩
    · rintro ⟨other, hother, rfl⟩
      rw [herror, hleast.unique hother]
    · simp [herror, hplace.charactersIn_openByte?]

/-- Behind a bracket that closes, with another inside, and a closing one too many. -/
example : ofWords "é[[日]]語[ß" = .error (.unclosedBracket 7 "é[[日]]語[ß") := by
  decide +kernel

end RecordQuery.Pattern
