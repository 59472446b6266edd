import RecordQuery.Formula.Printer
import RecordQuery.Formula.Token
import RecordQuery.Proofs.Query.Spelling

/-! The spelling of the tokens of formulas. Each kind of word is read back as its token where no
character behind it goes on a word (`writes_name`, `writes_number`), and signs and quoted texts
wherever they stand (`signs_spaced`, `signs_quoted`). Names and numbers are made of the same
characters as those of queries. -/

namespace RecordQuery.Formula

/-- The words that are no names. -/
def reservedWords : List String :=
  ["true", "false", "if", "else", "elseif", "switch", "case", "default"]

/-- A name that can be written: letters, digits, underscores and points, the first of them a letter
or an underscore, that make up no reserved word. -/
structure IsName (name : String) : Prop where
  starts : name.toList.head?.any Token.startsName = true
  continues : ∀ c ∈ name.toList, Token.continuesName c = true
  free : name ∉ reservedWords

namespace Token

/-! ### Reading -/

theorem startsName_eq : startsName = Query.Token.startsName := rfl

theorem continuesName_eq : continuesName = Query.Token.continuesName := rfl

theorem spanNumber_eq (chars : List Char) : spanNumber chars = Query.Token.spanNumber chars := by
  unfold spanNumber Query.Token.spanNumber
  cases chars.dropWhile Char.isDigit with
  | nil => rfl
  | cons c rest =>
    by_cases hc : c = '.'
    · subst hc
      cases hfraction : rest.takeWhile Char.isDigit with
      | nil => simp [hfraction]
      | cons d fraction => simp [hfraction]
    · simp [hc]

/-- The characters that are tokens by themselves or begin tokens of signs. -/
def signs : List Char :=
  ['=', '!', '<', '>', '&', '|', '+', '-', '*', '/', '%', '(', ')', '[', ']', '\x7b', '\x7d', ',',
    ':', ';', '\'', '"']

/-- Behind signs, the reader tells numbers and words by their first characters. -/
theorem read_of_notMem_signs {c : Char} {rest : List Char} (h : c ∉ signs) :
    read (c :: rest) =
      if c.isDigit then readNumber (c :: rest)
      else if startsName c then
        let word := (c :: rest).takeWhile continuesName
        ⟨.ok (ofWord (String.ofList word)), word.length⟩
      else ⟨.error (.fault (.unexpectedCharacter c)), 0⟩ := by
  simp only [signs, List.mem_cons, List.not_mem_nil, or_false, not_or] at h
  rw [read] <;> simp_all

theorem notMem_signs_of_startsName {c : Char} (h : startsName c = true) : c ∉ signs :=
  Text.notMem_of_all_not (by decide +kernel) h

theorem notMem_signs_of_isDigit {c : Char} (h : c.isDigit = true) : c ∉ signs :=
  Text.notMem_of_all_not (by decide) h

theorem sign_ne_done (sign : Sign) : Token.sign sign ≠ .done := by nofun

theorem literal_ne_done (value : Value) : Token.literal value ≠ .done := by nofun

theorem ofWord_ne_done (word : String) : ofWord word ≠ .done := by
  unfold ofWord
  repeat' split
  all_goals nofun

theorem length_readNumber_pos {c : Char} {rest : List Char} (h : c.isDigit = true) :
    0 < (readNumber (c :: rest)).length := by
  have hne : (spanNumber (c :: rest)).1 ≠ [] := by
    rw [spanNumber_eq]
    exact Query.Token.spanNumber_ne_nil h
  cases hspan : spanNumber (c :: rest) with
  | mk whole fraction =>
    rw [hspan] at hne
    have hpos : 0 < whole.length := List.length_pos_iff.2 hne
    unfold readNumber
    simp only [hspan]
    generalize hlength : whole.length + (if fraction.isEmpty then 0 else fraction.length + 1) =
      length
    have hpos : 0 < length := by omega
    split
    · exact hpos
    · split
      · exact Nat.succ_pos _
      · split
        · exact hpos
        · exact hpos

theorem length_readString_pos (quote : Char) (chars : List Char) :
    0 < (readString quote chars).length := by
  unfold readString
  split
  · exact Nat.succ_pos _
  · next text rest hq =>
    have hlt := Text.length_of_readQuoted hq
    simp only
    omega

theorem orderly_read : Orderly read where
  atEnd := rfl
  moves := by
    intro chars token h hne
    unfold read at h ⊢
    split at h
    case h_1 => cases h; exact absurd rfl hne
    case h_28 => exact length_readString_pos ..
    case h_29 => exact length_readString_pos ..
    case h_30 =>
      split at h
      · next hd =>
        rw [if_pos hd]
        exact length_readNumber_pos hd
      · next hd =>
        rw [if_neg hd]
        split at h
        · next hs =>
          have hc := Query.Token.continuesName_of_startsName hs
          rw [← continuesName_eq] at hc
          rw [if_pos hs]
          simp [hc]
        · cases h
    all_goals
      first
        | exact Nat.succ_pos _
        | cases h

theorem length_readNumber_le (chars : List Char) :
    (readNumber chars).length ≤ chars.length := by
  cases hspan : spanNumber chars with
  | mk whole fraction =>
    obtain ⟨after, hchars⟩ :=
      Query.Token.exists_append_of_spanNumber ((spanNumber_eq chars).symm.trans hspan)
    have hle : whole.length + (if fraction.isEmpty then 0 else fraction.length + 1) ≤
        chars.length := by
      rw [← length_pointed, hchars, List.length_append, List.length_append]
      omega
    unfold readNumber
    simp only [hspan]
    generalize whole.length + (if fraction.isEmpty then 0 else fraction.length + 1) = length at *
    split
    · exact hle
    · split
      · next hsuffix =>
        -- The suffix is a character behind the digits.
        have hrest : chars.drop length ≠ [] := by
          intro hnil
          rw [hnil] at hsuffix
          cases hsuffix
        have := List.length_pos_iff.2 hrest
        rw [List.length_drop] at this
        show length + 1 ≤ chars.length
        omega
      · split
        · exact hle
        · exact hle

theorem length_readString_le (quote : Char) (chars : List Char) :
    (readString quote chars).length ≤ chars.length + 1 := by
  unfold readString
  split
  · exact Nat.le_refl _
  · exact Nat.sub_le _ _

/-- What is read of a text is at its front. -/
theorem length_read_le (chars : List Char) : (read chars).length ≤ chars.length := by
  unfold read
  split
  case h_28 => exact length_readString_le ..
  case h_29 => exact length_readString_le ..
  case h_30 =>
    split
    · exact length_readNumber_le _
    · split
      · exact (List.takeWhile_prefix _).length_le
      · exact Nat.zero_le _
  all_goals
    simp only [List.length_nil, List.length_cons]
    omega

/-! ### Words are read back -/

/-- Characters that end a word or a number. -/
def endsWord (c : Char) : Bool := !continuesName c

/-- A text that is read as these tokens, and any text behind it that does not run on it by
itself. -/
abbrev Writes (text : String) (tokens : List Token) : Prop :=
  Spells read Text.isBlank endsWord text.toList tokens

/-- A text that is read as these tokens, and any text behind it by itself. -/
abbrev Signs (text : String) (tokens : List Token) : Prop :=
  Spells read Text.isBlank (fun _ => true) text.toList tokens

theorem not_continuesName_of_endsWord {c : Char} (h : endsWord c = true) :
    continuesName c = false := by
  simpa [endsWord] using h

theorem read_of_startsName {c : Char} (rest : List Char) (h : startsName c = true) :
    read (c :: rest) = ⟨.ok (ofWord (String.ofList ((c :: rest).takeWhile continuesName))),
      ((c :: rest).takeWhile continuesName).length⟩ := by
  have hdigit : ¬ c.isDigit = true := fun hd => by
    rw [startsName_eq, Query.Token.not_startsName_of_isDigit hd] at h
    cases h
  rw [read_of_notMem_signs (notMem_signs_of_startsName h), if_neg hdigit, if_pos h]

theorem writes_word {word : String} (hs : word.toList.head?.any startsName = true)
    (hc : ∀ c ∈ word.toList, continuesName c = true) :
    Writes word [ofWord word] :=
  .of_class (fun _ => read_of_startsName) (fun _ => Query.Token.not_isBlank_of_startsName)
    (fun _ => not_continuesName_of_endsWord) (ofWord_ne_done word) hs hc

theorem ofWord_of_notMem {word : String} (h : word ∉ reservedWords) : ofWord word = .name word := by
  simp only [reservedWords, List.mem_cons, List.not_mem_nil, or_false, not_or] at h
  obtain ⟨htrue, hfalse, hif, helse, helseIf, hswitch, hcase, hdefault⟩ := h
  rw [ofWord, if_neg htrue, if_neg hfalse, if_neg hif, if_neg helse, if_neg helseIf,
    if_neg hswitch, if_neg hcase, if_neg hdefault]

theorem writes_name {name : String} (h : IsName name) : Writes name [.name name] := by
  have hword := writes_word h.starts h.continues
  rwa [ofWord_of_notMem h.free] at hword

theorem writes_truth (b : Bool) :
    Writes (Value.boolean b).render [.literal (.boolean b)] := by
  cases b with
  | true =>
    have hall : "true".toList.all continuesName = true := by decide +kernel
    exact writes_word (by decide +kernel) (List.all_eq_true.1 hall)
  | false =>
    have hall : "false".toList.all continuesName = true := by decide +kernel
    exact writes_word (by decide +kernel) (List.all_eq_true.1 hall)

/-! ### Numbers are read back -/

/-- The letter that a suffix is written as. -/
def Suffix.text : Option Suffix → List Char
  | none => []
  | some .long => ['L']
  | some .double => ['d']

/-- The suffix of a number is found again where no word goes on behind it. -/
theorem suffix?_append (suffix : Option Suffix) {rest : List Char} (hends : Ends endsWord rest) :
    suffix? (Suffix.text suffix ++ rest) = suffix := by
  have hstop : ∀ c ∈ rest.head?, (Text.isAlphanumeric c || c = '_') = false := by
    intro c hc
    have h := not_continuesName_of_endsWord (hends c hc)
    rw [continuesName, Bool.or_eq_false_iff] at h
    exact h.1
  have hhead : (rest.head?.any fun next => Text.isAlphanumeric next || next = '_') = false := by
    cases rest with
    | nil => rfl
    | cons c rest => exact hstop c rfl
  cases suffix with
  | some suffix => cases suffix <;> simp [Suffix.text, suffix?, hhead]
  | none =>
    cases rest with
    | nil => rfl
    | cons c rest =>
      have h := not_continuesName_of_endsWord (hends c rfl)
      have hletters : ['L', 'l', 'd', 'D', 'f', 'F'].all continuesName = true := by
        decide +kernel
      have hmem : c ∉ ['L', 'l', 'd', 'D', 'f', 'F'] := fun hc => by
        rw [List.all_eq_true.1 hletters c hc] at h
        cases h
      simp only [List.mem_cons, List.not_mem_nil, or_false, not_or] at hmem
      simp [Suffix.text, suffix?, hmem]

section Numbers

variable {whole fraction rest : List Char} {suffix : Option Suffix}

/-- The digits of a number are found again before its suffix. -/
theorem spanNumber_suffixed (hw : ∀ c ∈ whole, c.isDigit = true)
    (hf : ∀ c ∈ fraction, c.isDigit = true) (hends : Ends endsWord rest) :
    spanNumber (whole ++ (pointed fraction ++ (Suffix.text suffix ++ rest))) =
      (whole, fraction) := by
  have hhead : ∀ c ∈ (Suffix.text suffix ++ rest).head?, c.isDigit = false ∧ c ≠ '.' := by
    intro c hc
    rcases suffix with _ | _ | _
    · exact Query.Token.not_digit_or_point_of_not_continuesName
        (not_continuesName_of_endsWord (hends c hc))
    · cases hc; decide
    · cases hc; decide
  have hspan := (Query.Token.spanNumber_append hhead).trans (Query.Token.spanNumber_pointed hw hf)
  rwa [← spanNumber_eq, List.append_assoc] at hspan

/-- A number is read as its digits and its suffix say, well formed or not; all of it is taken if it
is. -/
theorem readNumber_suffixed (hw : ∀ c ∈ whole, c.isDigit = true)
    (hf : ∀ c ∈ fraction, c.isDigit = true) (hends : Ends endsWord rest) :
    readNumber (whole ++ (pointed fraction ++ (Suffix.text suffix ++ rest))) =
      match ofNumber whole fraction suffix with
      | .error flaw => ⟨.error flaw, (whole ++ pointed fraction).length⟩
      | .ok token => ⟨.ok token, (whole ++ pointed fraction ++ Suffix.text suffix).length⟩ := by
  have hlength : whole.length + (if fraction.isEmpty then 0 else fraction.length + 1) =
      (whole ++ pointed fraction).length := by
    rw [List.length_append, length_pointed]
  have hdrop : (whole ++ (pointed fraction ++ (Suffix.text suffix ++ rest))).drop
      (whole ++ pointed fraction).length = Suffix.text suffix ++ rest := by
    rw [← List.append_assoc, List.drop_left]
  have hstarts : rest.head?.any startsName = false := by
    cases rest with
    | nil => rfl
    | cons c rest =>
      refine Bool.eq_false_iff.2 fun hs => ?_
      have h := not_continuesName_of_endsWord (hends c rfl)
      rw [continuesName_eq, Query.Token.continuesName_of_startsName hs] at h
      cases h
  have hall : (whole ++ pointed fraction ++ Suffix.text suffix).length =
      (whole ++ pointed fraction).length + (Suffix.text suffix).length := List.length_append
  rw [hall]
  unfold readNumber
  simp only [spanNumber_suffixed hw hf hends, hlength, hdrop, suffix?_append suffix hends]
  cases ofNumber whole fraction suffix with
  | error flaw => rfl
  | ok token =>
    rcases suffix with _ | _ | _
    · simp [Suffix.text, hstarts]
    · rfl
    · rfl

theorem readNumber_append {token : Token} (hw : ∀ c ∈ whole, c.isDigit = true)
    (hf : ∀ c ∈ fraction, c.isDigit = true) (htoken : ofNumber whole fraction suffix = .ok token)
    (hends : Ends endsWord rest) :
    readNumber (whole ++ (pointed fraction ++ (Suffix.text suffix ++ rest))) =
      ⟨.ok token, (whole ++ pointed fraction ++ Suffix.text suffix).length⟩ := by
  rw [readNumber_suffixed hw hf hends, htoken]

end Numbers

theorem writes_number {whole fraction : List Char} {suffix : Option Suffix} {token : Token}
    (hw : IsDigits whole) (hf : ∀ c ∈ fraction, c.isDigit = true)
    (htoken : ofNumber whole fraction suffix = .ok token) (hne : token ≠ .done) :
    Writes (String.ofList (whole ++ pointed fraction ++ Suffix.text suffix)) [token] := by
  unfold Writes
  rw [String.toList_ofList]
  cases whole with
  | nil => exact absurd rfl hw.1
  | cons d whole =>
    have hdigit : d.isDigit = true := hw.2 d (by simp)
    show Spells _ _ _ (d :: (whole ++ pointed fraction ++ Suffix.text suffix)) _
    refine Spells.word (Text.not_isBlank_of_isDigit hdigit) hne ?_
    intro rest hends
    have hnumber := readNumber_append hw.2 hf htoken hends
    rw [List.cons_append] at hnumber ⊢
    rw [List.append_assoc, List.append_assoc, read_of_notMem_signs (notMem_signs_of_isDigit hdigit),
      if_pos hdigit, hnumber]
    rfl

/-! ### Quoted texts and signs are read back -/

theorem signs_quoted {text : String} (h : Text.sound '\'' text.toList = true) :
    Signs (Text.quoted text) [.literal (.string text)] := by
  unfold Signs
  rw [Text.toList_quoted]
  refine Spells.word (by decide) (literal_ne_done _) ?_
  intro rest _
  have hquoted : Text.readQuoted '\'' (_ ++ '\'' :: rest) = _ :=
    Text.readQuoted_escapeQuote (by decide) h
  show readString '\'' (_ ++ _ ++ rest) = _
  rw [List.append_assoc, List.singleton_append]
  unfold readString
  rw [hquoted]
  simp only [String.ofList_toList, List.length_append, List.length_cons, List.length_nil]
  congr 1
  omega

theorem signs_char {c : Char} {sign : Sign} (hc : Text.isBlank c = false)
    (hread : ∀ rest, read (c :: rest) = ⟨.ok (.sign sign), 1⟩) :
    Spells read Text.isBlank (fun _ => true) [c] [.sign sign] :=
  Spells.word hc (sign_ne_done _) fun rest _ => hread rest

theorem signs_spaced {text : String} {c : Char} {word : List Char} {sign : Sign}
    (htext : text.toList = c :: word) (hc : Text.isBlank c = false)
    (hread : ∀ rest, read (c :: word ++ ' ' :: rest) = ⟨.ok (.sign sign), word.length + 1⟩) :
    Signs (" " ++ text ++ " ") [.sign sign] := by
  intro rest more _ hrest
  have hblank : Text.isBlank ' ' = true := by decide
  have hword := Spelled.word hc (sign_ne_done _) (hread rest) (Spelled.after_blank hblank hrest)
  have hchars : (" " ++ text ++ " ").toList ++ rest = ' ' :: (c :: word ++ ' ' :: rest) := by
    simp [htext]
  rw [hchars]
  exact Spelled.after_blank hblank hword

end Token

end RecordQuery.Formula
