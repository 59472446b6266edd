import Mathlib.Data.List.TakeWhile
import RecordQuery.Proofs.Characters
import RecordQuery.Proofs.Lexing
import RecordQuery.Proofs.Numerals
import RecordQuery.Proofs.Quoting
import RecordQuery.Query.Printer
import RecordQuery.Query.Token

/-! The spelling of the tokens of queries. Every token that is read is well formed
(`Token.wellFormed_of_yields`), and it is read alike before any text that does not run on it
(`Token.settled_read`). So each kind of word is read back as its token where it is by itself
(`writes_name`, `writes_keyword`, `writes_literal`). -/

namespace RecordQuery.Query

/-- A name of a field: letters, digits, underscores and points, the first of them a letter or an
underscore, that make up no reserved word. -/
structure IsName (path : String) : Prop where
  starts : path.toList.head?.any Token.startsName = true
  continues : ∀ c ∈ path.toList, Token.continuesName c = true
  notTruth : path ≠ "true" ∧ path ≠ "false"
  notKeyword : Keyword.ofText? path = none

end Query

open Query (Token Keyword IsName)

/-- What is written in front of the digits of a number. -/
def IsSign (sign : List Char) : Prop :=
  sign = [] ∨ sign = ['-']

/-- A literal as it can be written: a number of digits that a decimal can hold, a truth value, or
text in which no backslash stands before a quote. -/
inductive Literal.WellFormed : Literal → Prop
  | integer {sign whole : List Char} :
      IsSign sign → IsDigits whole → (Decimal.read? (sign ++ whole)).isSome = true →
      WellFormed ⟨.integer, String.ofList (sign ++ whole)⟩
  | decimal {sign whole fraction : List Char} :
      IsSign sign → IsDigits whole → IsDigits fraction →
      (Decimal.read? (sign ++ whole ++ '.' :: fraction)).isSome = true →
      WellFormed ⟨.decimal, String.ofList (sign ++ whole ++ '.' :: fraction)⟩
  | boolean (b : Bool) : WellFormed (.ofBool b)
  | quoted {text : String} : Text.sound '\'' text.toList = true → WellFormed (.ofText text)

/-- A number that can be written has digits behind a sign or none. -/
theorem Literal.WellFormed.exists_digits {literal : Literal} (h : literal.WellFormed)
    (hnumeric : literal.kind.isNumeric = true) :
    ∃ sign whole fraction, IsSign sign ∧ IsDigits whole ∧ (∀ c ∈ fraction, c.isDigit = true) ∧
      literal = ⟨if fraction.isEmpty then .integer else .decimal,
        String.ofList (sign ++ whole ++ pointed fraction)⟩ ∧
      (Decimal.read? (sign ++ whole ++ pointed fraction)).isSome = true := by
  cases h with
  | boolean | quoted => cases hnumeric
  | @integer sign whole hsign hwhole hread =>
    refine ⟨sign, whole, [], hsign, hwhole, List.forall_mem_nil _, ?_, ?_⟩
    · rw [append_pointed_nil]
      rfl
    · rwa [append_pointed_nil]
  | @decimal sign whole fraction hsign hwhole hfraction hread =>
    have hne : fraction.isEmpty = false := by simpa using hfraction.1
    have hpoint := pointed_of_ne_nil hfraction.1
    refine ⟨sign, whole, fraction, hsign, hwhole, hfraction.2, ?_, ?_⟩
    · rw [hpoint, hne]
      rfl
    · rwa [hpoint]

namespace Query.Token

/-- A token as it can be written. -/
def WellFormed : Token → Prop
  | .literal value => value.WellFormed
  | .name path => IsName path
  | _ => True

@[simp] theorem wellFormed_literal {value : Literal} :
    WellFormed (.literal value) ↔ value.WellFormed := .rfl

@[simp] theorem wellFormed_name {path : String} : WellFormed (.name path) ↔ IsName path := .rfl

/-- Any token but literals and names can be written. -/
@[simp] theorem wellFormed_of_ne {token : Token} (hliteral : ∀ value, token ≠ .literal value)
    (hname : ∀ path, token ≠ .name path) : token.WellFormed := by
  cases token with
  | literal value => exact absurd rfl (hliteral value)
  | name path => exact absurd rfl (hname path)
  | _ => trivial

/-! ### Classes of characters -/

/-- The characters that are tokens by themselves or begin tokens of signs. -/
def signs : List Char :=
  ['*', '=', '~', ',', '(', ')', '[', ']', '<', '>', '!', '\'']

theorem continuesName_of_startsName {c : Char} (h : startsName c = true) :
    continuesName c = true := by
  simp only [startsName, Bool.or_eq_true] at h
  simp only [continuesName, Text.isAlphanumeric, Bool.or_eq_true]
  rcases h with h | h
  · exact .inl (.inl (.inl h))
  · exact .inl (.inr h)

theorem not_startsName_of_isDigit {c : Char} (h : c.isDigit = true) : startsName c = false := by
  have hne : c ≠ '_' := by
    rintro rfl
    cases h
  simp [startsName, Text.not_isAlphabetic_of_isDigit h, hne]

theorem not_isBlank_of_startsName {c : Char} (h : startsName c = true) :
    Text.isBlank c = false := by
  refine Bool.eq_false_iff.2 fun hb => ?_
  have hn := Text.not_isAlphanumeric_of_isBlank hb
  simp only [Text.isAlphanumeric, Bool.or_eq_false_iff] at hn
  simp only [startsName, hn.1, Bool.false_or, decide_eq_true_eq] at h
  rw [h] at hb
  exact absurd hb (by decide)

theorem notMem_signs_of_startsName {c : Char} (h : startsName c = true) : c ∉ signs :=
  Text.notMem_of_all_not (by decide +kernel) h

theorem notMem_signs_of_isDigit {c : Char} (h : c.isDigit = true) : c ∉ signs :=
  Text.notMem_of_all_not (by decide) h

/-- A character that ends what sticks to a closing quote goes on no word. -/
theorem not_continuesName_of_endsGlued {c : Char} (h : endsGlued c = true) :
    continuesName c = false := by
  simp only [endsGlued, Bool.or_eq_true, decide_eq_true_eq] at h
  rcases h with (((h | rfl) | rfl) | rfl) | rfl
  · have hne : c ≠ '_' ∧ c ≠ '.' := by
      constructor
      · rintro rfl
        exact absurd h (by decide)
      · rintro rfl
        exact absurd h (by decide)
    simp [continuesName, Text.not_isAlphanumeric_of_isBlank h, hne]
  all_goals decide +kernel

/-- A character that goes on no word belongs to no number. -/
theorem not_digit_or_point_of_not_continuesName {c : Char} (h : continuesName c = false) :
    c.isDigit = false ∧ c ≠ '.' := by
  constructor
  · refine Bool.eq_false_iff.2 fun hd => ?_
    simp [continuesName, Text.isAlphanumeric_of_isDigit hd] at h
  · rintro rfl
    simp [continuesName] at h

theorem not_startsName_of_endsGlued {c : Char} (h : endsGlued c = true) :
    startsName c = false := by
  refine Bool.eq_false_iff.2 fun hs => ?_
  have hc := not_continuesName_of_endsGlued h
  rw [continuesName_of_startsName hs] at hc
  cases hc

/-- Behind signs, the reader tells numbers and words by their first characters. -/
theorem read_of_notMem_signs {c : Char} {rest : List Char} (h : c ∉ signs) :
    read (c :: rest) =
      if c = '-' && rest.head?.any Char.isDigit then readNumber ['-'] rest
      else if c.isDigit then readNumber [] (c :: rest)
      else if startsName c then
        let word := (c :: rest).takeWhile continuesName
        ⟨.ok (ofWord (String.ofList word)), word.length⟩
      else ⟨.error (.fault (.unexpectedCharacter c)), 0⟩ := by
  simp only [signs, List.mem_cons, List.not_mem_nil, or_false, not_or] at h
  rw [read] <;> simp_all

/-! ### What is read -/

/-- What the reader finds at the front of a text: its end, a sign, a quoted text, a number, a word,
or a flaw. -/
inductive Reads : List Char → Reading Token → Prop
  | done : Reads [] ⟨.ok .done, 0⟩
  | sign {chars : List Char} {token : Token} {length : Nat} :
      token.WellFormed → token ≠ .done → 0 < length → length ≤ chars.length →
      Reads chars ⟨.ok token, length⟩
  | quote {chars : List Char} : Reads ('\'' :: chars) (readQuote chars)
  | number {sign chars : List Char} : IsSign sign → chars.head?.any Char.isDigit = true →
      Reads (sign ++ chars) (readNumber sign chars)
  | word {c : Char} {chars : List Char} : startsName c = true →
      Reads (c :: chars) ⟨.ok (ofWord (String.ofList ((c :: chars).takeWhile continuesName))),
        ((c :: chars).takeWhile continuesName).length⟩
  | flawed {chars : List Char} {fault : Fault} : Reads chars ⟨.error (.fault fault), 0⟩

theorem reads_read (chars : List Char) : Reads chars (read chars) := by
  unfold read
  split
  case h_1 => exact .done
  case h_15 => exact .flawed
  case h_16 => exact .quote
  case h_17 c rest _ _ _ _ _ _ _ _ _ _ _ _ _ _ _ =>
    split
    · next hminus =>
      rw [Bool.and_eq_true, decide_eq_true_eq] at hminus
      obtain ⟨rfl, hdigit⟩ := hminus
      exact .number (.inr rfl) hdigit
    · split
      · next hdigit => exact @Reads.number [] (c :: rest) (.inl rfl) hdigit
      · split
        · next hs => exact .word hs
        · exact .flawed
  all_goals exact .sign trivial (by nofun) (by decide) (by simp)

/-! ### What is read is well formed -/

theorem ofWord_ne_done (word : String) : ofWord word ≠ .done := by
  unfold ofWord
  split
  · nofun
  · split
    · nofun
    · split <;> nofun

theorem wellFormed_ofWord {word : String} (hs : word.toList.head?.any startsName = true)
    (hc : ∀ c ∈ word.toList, continuesName c = true) : (ofWord word).WellFormed := by
  unfold ofWord
  by_cases ht : word = "true"
  · rw [if_pos ht]
    exact .boolean true
  · rw [if_neg ht]
    by_cases hf : word = "false"
    · rw [if_pos hf]
      exact .boolean false
    · rw [if_neg hf]
      cases hk : Keyword.ofText? word with
      | some keyword => trivial
      | none => exact ⟨hs, hc, ⟨ht, hf⟩, hk⟩

theorem forall_spanNumber (chars : List Char) :
    (∀ c ∈ (spanNumber chars).1, c.isDigit = true) ∧
      ∀ c ∈ (spanNumber chars).2, c.isDigit = true := by
  have hall : ∀ chars : List Char, ∀ c ∈ chars.takeWhile Char.isDigit, c.isDigit = true :=
    fun chars => List.all_eq_true.1 (List.all_takeWhile ..)
  unfold spanNumber
  simp only
  split
  · split
    · exact ⟨hall _, by simp⟩
    · exact ⟨hall _, hall _⟩
  · exact ⟨hall _, by simp⟩

theorem spanNumber_ne_nil {chars : List Char} (hc : chars.head?.any Char.isDigit = true) :
    (spanNumber chars).1 ≠ [] := by
  cases chars with
  | nil => cases hc
  | cons c chars =>
    unfold spanNumber
    simp only [List.takeWhile_cons, show c.isDigit = true from hc, if_true]
    split
    · split <;> simp
    · simp

theorem length_readNumber (sign : List Char) {chars whole fraction : List Char}
    (h : spanNumber chars = (whole, fraction)) :
    (readNumber sign chars).length = (sign ++ whole ++ pointed fraction).length := by
  unfold readNumber pointed
  simp only [h]
  generalize (if fraction.isEmpty = true then [] else '.' :: fraction) = point
  split
  · rfl
  · split <;> rfl

/-- When digits are read as a number, and as which one. -/
theorem token_readNumber_eq_ok (sign : List Char) {chars whole fraction : List Char}
    {token : Token} (h : spanNumber chars = (whole, fraction)) :
    (readNumber sign chars).token = .ok token ↔
      ((sign ++ chars).drop (sign ++ whole ++ pointed fraction).length).head?.any startsName =
        false ∧ (Decimal.read? (sign ++ whole ++ pointed fraction)).isSome = true ∧
      token = .literal ⟨if fraction.isEmpty then .integer else .decimal,
        String.ofList (sign ++ whole ++ pointed fraction)⟩ := by
  unfold readNumber pointed
  simp only [h]
  generalize sign ++ whole ++ (if fraction.isEmpty = true then [] else '.' :: fraction) = written
  generalize ((sign ++ chars).drop written.length).head?.any startsName = runsOn
  cases runsOn with
  | true => simp
  | false =>
    cases Decimal.read? written with
    | none => simp
    | some d =>
      simp only [Bool.false_eq_true, if_false, Option.isNone_some, Option.isSome_some, true_and,
        Except.ok.injEq]
      exact eq_comm

theorem wellFormed_of_readNumber {sign chars : List Char} {token : Token} (hsign : IsSign sign)
    (hc : chars.head?.any Char.isDigit = true) (h : (readNumber sign chars).token = .ok token) :
    token.WellFormed := by
  obtain ⟨hwhole, hfraction⟩ := forall_spanNumber chars
  have hne := spanNumber_ne_nil hc
  cases hspan : spanNumber chars with
  | mk whole fraction =>
    rw [hspan] at hwhole hfraction hne
    obtain ⟨-, hread, rfl⟩ := (token_readNumber_eq_ok sign hspan).1 h
    cases fraction with
    | nil =>
      simp only [pointed, List.isEmpty_nil, if_true, List.append_nil] at hread ⊢
      exact Literal.WellFormed.integer hsign ⟨hne, hwhole⟩ hread
    | cons d fraction =>
      simp only [pointed, List.isEmpty_cons, Bool.false_eq_true, if_false] at hread ⊢
      exact Literal.WellFormed.decimal hsign ⟨hne, hwhole⟩ ⟨by simp, hfraction⟩ hread

theorem wellFormed_of_readQuote {chars : List Char} {token : Token}
    (h : (readQuote chars).token = .ok token) : token.WellFormed := by
  unfold readQuote at h
  split at h
  · cases h
  · cases h
  · next text rest hq =>
    cases h
    refine Literal.WellFormed.quoted ?_
    rw [String.toList_ofList]
    exact Text.sound_of_readQuoted (by decide) hq

theorem wellFormed_of_read {chars : List Char} {token : Token}
    (h : (read chars).token = .ok token) : token.WellFormed := by
  have hreads := reads_read chars
  generalize read chars = reading at h hreads
  cases hreads with
  | done => cases h; trivial
  | sign hwell _ _ _ => cases h; exact hwell
  | quote => exact wellFormed_of_readQuote h
  | number hsign hdigit => exact wellFormed_of_readNumber hsign hdigit h
  | word hs =>
    cases h
    refine wellFormed_ofWord ?_ ?_
    · simp [continuesName_of_startsName hs, hs]
    · rw [String.toList_ofList]
      exact List.all_eq_true.1 (List.all_takeWhile ..)
  | flawed => cases h

/-- The tokens that a text yields are well formed. -/
theorem wellFormed_of_yields {source : Source} {tokens : List Token}
    (h : Source.Yields read Text.isBlank source tokens) : ∀ token ∈ tokens, token.WellFormed :=
  h.forall_mem fun _ _ => wellFormed_of_read

theorem length_readNumber_pos {sign chars : List Char}
    (hc : chars.head?.any Char.isDigit = true) : 0 < (readNumber sign chars).length := by
  have hne := spanNumber_ne_nil hc
  cases hspan : spanNumber chars with
  | mk whole fraction =>
    rw [hspan] at hne
    have hpos : 0 < whole.length := List.length_pos_iff.2 hne
    rw [length_readNumber sign hspan, List.length_append, List.length_append]
    omega

theorem length_readQuote_pos (chars : List Char) : 0 < (readQuote chars).length := by
  unfold readQuote
  split
  · exact Nat.succ_pos _
  · exact Nat.succ_pos _
  · next text rest hq =>
    have hlt := Text.length_of_readQuoted hq
    have hle := (List.dropWhile_suffix (l := rest) (!endsGlued ·)).length_le
    simp only
    omega

theorem orderly_read : Orderly read where
  atEnd := rfl
  moves {chars token} h hne := by
    have hreads := reads_read chars
    generalize read chars = reading at h hreads ⊢
    cases hreads with
    | done => cases h; exact absurd rfl hne
    | sign _ _ hpos _ => exact hpos
    | quote => exact length_readQuote_pos _
    | number _ hdigit => exact length_readNumber_pos hdigit
    | word hs => simp [continuesName_of_startsName hs]
    | flawed => cases h

/-! ### Tokens before a text that does not run on

A token is read alike at the end of a text and before any text that does not run on it
(`settled_read`). -/

section Settled

variable {chars rest : List Char}

theorem head?_any_append {p : Char → Bool} (hrest : ∀ c ∈ rest.head?, p c = false) :
    (chars ++ rest).head?.any p = chars.head?.any p := by
  cases chars with
  | nil =>
    cases rest with
    | nil => rfl
    | cons c rest => exact hrest c rfl
  | cons c chars => rfl

theorem not_digit_or_point_of_ends (hends : Ends endsGlued rest) :
    ∀ c ∈ rest.head?, c.isDigit = false ∧ c ≠ '.' := fun c hc =>
  not_digit_or_point_of_not_continuesName (not_continuesName_of_endsGlued (hends c hc))

/-- What is found to be a number stands at the front of the text. -/
theorem exists_append_of_spanNumber {whole fraction : List Char}
    (h : spanNumber chars = (whole, fraction)) :
    ∃ after, chars = whole ++ (pointed fraction ++ after) := by
  unfold spanNumber at h
  have hchars := List.takeWhile_append_dropWhile (p := Char.isDigit) (l := chars)
  simp only at h
  split at h
  · next more hmore =>
    split at h
    · cases h
      exact ⟨'.' :: more, by simpa [pointed, hmore] using hchars.symm⟩
    · next hne =>
      cases h
      refine ⟨more.dropWhile Char.isDigit, ?_⟩
      simp only [pointed, hne, Bool.false_eq_true, if_false, List.cons_append,
        List.takeWhile_append_dropWhile]
      rw [← hmore, hchars]
  · cases h
    exact ⟨chars.dropWhile Char.isDigit, by simp [pointed]⟩

/-- Behind a number, only a digit or a point matters to it. -/
theorem spanNumber_append (hrest : ∀ c ∈ rest.head?, c.isDigit = false ∧ c ≠ '.') :
    spanNumber (chars ++ rest) = spanNumber chars := by
  have hdigits : ∀ chars, (chars ++ rest).takeWhile Char.isDigit = chars.takeWhile Char.isDigit ∧
      (chars ++ rest).dropWhile Char.isDigit = chars.dropWhile Char.isDigit ++ rest :=
    fun _ => takeWhile_append_of_ends fun c hc => (hrest c hc).1
  unfold spanNumber
  simp only [(hdigits chars).1, (hdigits chars).2]
  cases chars.dropWhile Char.isDigit with
  | nil =>
    cases rest with
    | nil => rfl
    | cons c rest =>
      have hpoint : c ≠ '.' := (hrest c rfl).2
      simp [hpoint]
  | cons c more =>
    by_cases hpoint : c = '.'
    · subst hpoint
      simp only [List.cons_append, (hdigits more).1]
    · simp [hpoint]

theorem length_readNumber_le (sign chars : List Char) :
    (readNumber sign chars).length ≤ (sign ++ chars).length := by
  cases hspan : spanNumber chars with
  | mk whole fraction =>
    rw [length_readNumber sign hspan]
    obtain ⟨after, rfl⟩ := exists_append_of_spanNumber hspan
    simp only [List.length_append]
    omega

theorem readNumber_append (sign : List Char) (hends : Ends endsGlued rest) :
    readNumber sign (chars ++ rest) = readNumber sign chars := by
  cases hspan : spanNumber chars with
  | mk whole fraction =>
    have hlonger := (spanNumber_append (not_digit_or_point_of_ends hends)).trans hspan
    have hlength := length_readNumber_le sign chars
    rw [length_readNumber sign hspan] at hlength
    unfold readNumber
    simp only [hspan, hlonger]
    rw [← pointed, ← List.append_assoc, List.drop_append_of_le_length hlength, head?_any_append]
    exact fun c hc => not_startsName_of_endsGlued (hends c hc)

theorem readQuote_append {token : Token} (h : (readQuote chars).token = .ok token)
    (hends : Ends endsGlued rest) : readQuote (chars ++ rest) = readQuote chars := by
  unfold readQuote at h ⊢
  split at h
  · cases h
  · cases h
  · next text after hquoted =>
    have hleft : (after ++ rest).dropWhile (!endsGlued ·) =
        after.dropWhile (!endsGlued ·) ++ rest :=
      (takeWhile_append_of_ends fun c hc => by rw [hends c hc, Bool.not_true]).2
    rw [Text.readQuoted_append (by decide) hquoted]
    simp only [hleft, List.length_append]
    congr 1
    omega

/-- Behind signs, what is read does not depend on the text behind. -/
theorem read_append_of_notMem_signs {c : Char} (hc : c ∉ signs) (hends : Ends endsGlued rest) :
    read (c :: chars ++ rest) = read (c :: chars) := by
  have hword : (c :: chars ++ rest).takeWhile continuesName =
      (c :: chars).takeWhile continuesName :=
    (takeWhile_append_of_ends fun d hd => not_continuesName_of_endsGlued (hends d hd)).1
  have hdigit : (chars ++ rest).head?.any Char.isDigit = chars.head?.any Char.isDigit :=
    head?_any_append fun d hd => (not_digit_or_point_of_ends hends d hd).1
  have hnumber : readNumber [] (c :: chars ++ rest) = readNumber [] (c :: chars) :=
    readNumber_append [] hends
  rw [List.cons_append] at hword hnumber ⊢
  rw [read_of_notMem_signs hc, read_of_notMem_signs hc, hdigit, hword, hnumber,
    readNumber_append _ hends]

/-- An equals sign behind some signs makes another token of them; no text behind brings one. -/
theorem equals_append (hends : Ends endsGlued rest) :
    (∃ more, chars ++ rest = '=' :: more) ↔ ∃ more, chars = '=' :: more := by
  cases chars with
  | nil =>
    refine ⟨?_, nofun⟩
    rintro ⟨more, rfl⟩
    exact absurd (hends '=' rfl) (by decide)
  | cons c chars => simp

theorem read_append_of_mem_signs {c : Char} {token : Token} (hc : c ∈ signs)
    (h : (read (c :: chars)).token = .ok token) (hends : Ends endsGlued rest) :
    read (c :: chars ++ rest) = read (c :: chars) := by
  simp only [signs, List.mem_cons, List.not_mem_nil, or_false] at hc
  rw [List.cons_append]
  rcases hc with rfl | rfl | rfl | rfl | rfl | rfl | rfl | rfl | rfl | rfl | rfl | rfl
  all_goals try first | rfl | exact readQuote_append h hends
  -- Only the signs are left that make another token with an equals sign.
  all_goals
    by_cases hmore : ∃ more, chars = '=' :: more
    · obtain ⟨more, rfl⟩ := hmore
      rfl
    · have hlonger := mt (equals_append hends).1 hmore
      rw [not_exists] at hmore hlonger
      rw [read, read]
      all_goals assumption

theorem length_readQuote_le (chars : List Char) :
    (readQuote chars).length ≤ chars.length + 1 := by
  unfold readQuote
  split
  · exact Nat.le_refl _
  · exact Nat.le_refl _
  · exact Nat.sub_le _ _

theorem length_read_le (chars : List Char) : (read chars).length ≤ chars.length := by
  have hreads := reads_read chars
  generalize read chars = reading at hreads ⊢
  cases hreads with
  | done | flawed => exact Nat.zero_le _
  | sign _ _ _ hle => exact hle
  | quote => exact length_readQuote_le _
  | number => exact length_readNumber_le _ _
  | word => exact (List.takeWhile_prefix _).length_le

theorem token_readQuote_ne_done (chars : List Char) : (readQuote chars).token ≠ .ok .done := by
  unfold readQuote
  split <;> nofun

theorem token_readNumber_ne_done (sign chars : List Char) :
    (readNumber sign chars).token ≠ .ok .done := by
  intro h
  obtain ⟨-, -, hdone⟩ := (token_readNumber_eq_ok sign rfl).1 h
  cases hdone

/-- A text that a token was read from is read alike before any text that does not run on it. -/
theorem settled_read : Settled read endsGlued where
  length_le := length_read_le
  eq_nil {chars} h := by
    have hreads := reads_read chars
    generalize read chars = reading at h hreads
    cases hreads with
    | done => rfl
    | sign _ hne _ _ => cases h; exact absurd rfl hne
    | quote => exact absurd h (token_readQuote_ne_done _)
    | number => exact absurd h (token_readNumber_ne_done _ _)
    | word =>
      injection h with h
      exact absurd h (ofWord_ne_done _)
    | flawed => cases h
  append {chars rest token} h hends hne := by
    cases chars with
    | nil => exact absurd rfl hne
    | cons c chars =>
      by_cases hc : c ∈ signs
      · exact read_append_of_mem_signs hc h hends
      · exact read_append_of_notMem_signs hc hends

end Settled

/-! ### Words are read back -/

/-- A text that is read as these tokens, and any text behind it that does not run on it by
itself. -/
abbrev Writes (text : String) (tokens : List Token) : Prop :=
  Spells read Text.isBlank endsGlued text.toList tokens

/-- A text that yields its tokens yields them before any text that does not run on it. -/
theorem writes_of_yields {text : String} {tokens : List Token}
    (h : Source.Yields read Text.isBlank (Source.ofString text) tokens) : Writes text tokens :=
  .of_yields orderly_read settled_read h

/-- A word that is read as a token by itself. -/
theorem writes_of_read {text : String} {token : Token} (hne : token ≠ .done)
    (hblank : text.toList.head?.any Text.isBlank = false)
    (h : read text.toList = ⟨.ok token, text.toList.length⟩) : Writes text [token] := by
  have hread : (read text.toList).token = .ok token := by rw [h]
  unfold Writes
  cases hword : text.toList with
  | nil =>
    rw [hword, orderly_read.atEnd] at hread
    cases hread
    exact absurd rfl hne
  | cons c word =>
    rw [hword] at h hblank hread
    refine Spells.word hblank hne fun rest hends => ?_
    rw [settled_read.append hread hends (List.cons_ne_nil _ _), h, List.length_cons]

theorem read_of_startsName {c : Char} (rest : List Char) (h : startsName c = true) :
    read (c :: rest) = ⟨.ok (ofWord (String.ofList ((c :: rest).takeWhile continuesName))),
      ((c :: rest).takeWhile continuesName).length⟩ := by
  have hminus : c ≠ '-' := by
    rintro rfl
    exact absurd h (by decide +kernel)
  have hdigit : ¬ c.isDigit = true := fun hd => by
    rw [not_startsName_of_isDigit hd] at h
    cases h
  rw [read_of_notMem_signs (notMem_signs_of_startsName h), if_neg (by simp [hminus]),
    if_neg hdigit, if_pos h]

theorem writes_word {word : String} (hs : word.toList.head?.any startsName = true)
    (hc : ∀ c ∈ word.toList, continuesName c = true) :
    Writes word [ofWord word] :=
  .of_class (fun _ => read_of_startsName) (fun _ => not_isBlank_of_startsName)
    (fun _ => not_continuesName_of_endsGlued) (ofWord_ne_done word) hs hc

theorem writes_name {path : String} (h : IsName path) : Writes path [.name path] := by
  have hword := writes_word h.starts h.continues
  unfold ofWord at hword
  rwa [if_neg h.notTruth.1, if_neg h.notTruth.2, h.notKeyword] at hword

theorem writes_keyword (word : Keyword) : Writes word.text [.keyword word] := by
  have hall : ∀ word ∈ Keyword.every, word.text.toList.head?.any startsName = true ∧
      word.text.toList.all continuesName = true ∧ ofWord word.text = .keyword word := by
    decide +kernel
  obtain ⟨hs, hc, hword⟩ := hall word word.mem_every
  exact hword ▸ writes_word hs (List.all_eq_true.1 hc)

theorem writes_truth (b : Bool) : Writes (Literal.ofBool b).text [.literal (.ofBool b)] := by
  have hall : (Literal.ofBool b).text.toList.head?.any startsName = true ∧
      (Literal.ofBool b).text.toList.all continuesName = true ∧
      ofWord (Literal.ofBool b).text = .literal (.ofBool b) := by
    cases b <;> decide +kernel
  obtain ⟨hs, hc, hword⟩ := hall
  exact hword ▸ writes_word hs (List.all_eq_true.1 hc)

theorem spanNumber_pointed {whole fraction : List Char} (hw : ∀ c ∈ whole, c.isDigit = true)
    (hf : ∀ c ∈ fraction, c.isDigit = true) :
    spanNumber (whole ++ pointed fraction) = (whole, fraction) := by
  unfold spanNumber
  cases fraction with
  | nil =>
    rw [append_pointed_nil, List.takeWhile_eq_self_iff.2 hw, List.dropWhile_eq_nil_iff.2 hw]
  | cons d digits =>
    have hpoint : ∀ c ∈ (pointed (d :: digits)).head?, c.isDigit = false := by
      rintro c ⟨⟩
      rfl
    obtain ⟨htake, hdrop⟩ := takeWhile_append hw hpoint
    simp only [htake, hdrop]
    simp only [pointed, List.isEmpty_cons, Bool.false_eq_true, if_false,
      List.takeWhile_eq_self_iff.2 hf]

theorem readNumber_pointed {sign whole fraction : List Char} (hw : ∀ c ∈ whole, c.isDigit = true)
    (hf : ∀ c ∈ fraction, c.isDigit = true)
    (hd : (Decimal.read? (sign ++ whole ++ pointed fraction)).isSome = true) :
    readNumber sign (whole ++ pointed fraction) =
      ⟨.ok (.literal ⟨if fraction.isEmpty then .integer else .decimal,
        String.ofList (sign ++ whole ++ pointed fraction)⟩),
        (sign ++ whole ++ pointed fraction).length⟩ := by
  have hspan := spanNumber_pointed hw hf
  have hlength := length_readNumber sign hspan
  have htoken := (token_readNumber_eq_ok sign hspan).2 ⟨?_, hd, rfl⟩
  · generalize readNumber sign (whole ++ pointed fraction) = reading at htoken hlength
    cases reading with
    | mk token length => rw [← htoken, ← hlength]
  · rw [← List.append_assoc, List.drop_length]
    rfl

/-- A number is told by its sign or by its first digit. -/
theorem read_eq_readNumber {sign whole : List Char} (hsign : IsSign sign) (hw : IsDigits whole)
    (rest : List Char) :
    read (sign ++ (whole ++ rest)) = readNumber sign (whole ++ rest) := by
  obtain ⟨hne, hw⟩ := hw
  cases whole with
  | nil => exact absurd rfl hne
  | cons d whole =>
    have hdigit : d.isDigit = true := hw d List.mem_cons_self
    rcases hsign with rfl | rfl
    · have hminus : d ≠ '-' := by
        rintro rfl
        cases hdigit
      rw [List.nil_append, List.cons_append,
        read_of_notMem_signs (notMem_signs_of_isDigit hdigit), if_neg (by simp [hminus]),
        if_pos hdigit]
    · rw [List.singleton_append, read_of_notMem_signs (by decide), if_pos (by simp [hdigit])]

theorem writes_number {sign whole fraction : List Char} (hsign : IsSign sign)
    (hw : IsDigits whole) (hf : ∀ c ∈ fraction, c.isDigit = true)
    (hd : (Decimal.read? (sign ++ whole ++ pointed fraction)).isSome = true) :
    Writes (String.ofList (sign ++ whole ++ pointed fraction))
      [.literal ⟨if fraction.isEmpty then .integer else .decimal,
        String.ofList (sign ++ whole ++ pointed fraction)⟩] := by
  refine writes_of_read (by nofun) ?_ ?_
  · rw [String.toList_ofList, List.append_assoc]
    rcases hsign with rfl | rfl
    · cases whole with
      | nil => exact absurd rfl hw.1
      | cons d whole => exact Text.not_isBlank_of_isDigit (hw.2 d List.mem_cons_self)
    · exact (by decide : Text.isBlank '-' = false)
  · rw [String.toList_ofList, List.append_assoc, read_eq_readNumber hsign hw,
      readNumber_pointed hw.2 hf hd, List.append_assoc]

/-- A quoted text is read back, and what sticks to its closing quote is dropped. -/
theorem writes_glued {text glued : String} (h : Text.sound '\'' text.toList = true)
    (hglued : ∀ c ∈ glued.toList, endsGlued c = false) :
    Writes (Text.quoted text ++ glued) [.literal (.ofText text)] := by
  have hquoted : Text.readQuoted '\'' (Text.escapeQuote '\'' text.toList ++ '\'' :: glued.toList) =
      .ok (text.toList, glued.toList) := Text.readQuoted_escapeQuote (by decide) h
  have hdropped : glued.toList.dropWhile (!endsGlued ·) = [] :=
    List.dropWhile_eq_nil_iff.2 fun c hc => by rw [hglued c hc, Bool.not_false]
  have htext : (Text.quoted text ++ glued).toList =
      '\'' :: (Text.escapeQuote '\'' text.toList ++ '\'' :: glued.toList) := by
    simp [Text.toList_quoted]
  refine writes_of_read (by nofun) ?_ ?_
  · rw [htext]
    exact (by decide : Text.isBlank '\'' = false)
  · rw [htext]
    show readQuote _ = _
    unfold readQuote
    rw [hquoted]
    simp [hdropped]

theorem writes_quoted {text : String} (h : Text.sound '\'' text.toList = true) :
    Writes (Text.quoted text) [.literal (.ofText text)] := by
  have hglued := @writes_glued text "" h (by simp)
  rwa [String.append_empty] at hglued

/-- A well-formed literal is read back from its text. -/
theorem writes_literal {value : Literal} (h : value.WellFormed) :
    Writes value.render [.literal value] := by
  by_cases hnumeric : value.kind.isNumeric = true
  · obtain ⟨sign, whole, fraction, hsign, hwhole, hfraction, rfl, hread⟩ :=
      h.exists_digits hnumeric
    have hnumber := writes_number hsign hwhole hfraction hread
    cases fraction <;> exact hnumber
  · cases h with
    | integer | decimal => exact absurd rfl hnumeric
    | boolean b => exact writes_truth b
    | quoted h => exact writes_quoted h

end Query.Token

end RecordQuery
