import RecordQuery.Text.Quote

/-! Quoted texts are read back. `sound` texts come back as they were written
(`readQuoted_escapeQuote`), and every text that is read is `sound` (`sound_of_readQuoted`). -/

namespace RecordQuery.Text

variable {quote : Char}

theorem toList_quoted (text : String) :
    (quoted text).toList = '\'' :: (escapeQuote '\'' text.toList ++ ['\'']) := by
  simp [quoted]

theorem escapeQuote_cons_of_ne {c : Char} {text : List Char} (hc : c ≠ quote) :
    escapeQuote quote (c :: text) = c :: escapeQuote quote text := by
  rw [escapeQuote, if_neg hc]

theorem readQuoted_pair {c : Char} {chars text rest : List Char} (hc : c ≠ quote)
    (h : readQuoted quote chars = .ok (text, rest)) :
    readQuoted quote ('\\' :: c :: chars) = .ok ('\\' :: c :: text, rest) := by
  rw [readQuoted, h]
  simp [hc]

theorem readQuoted_escaped {chars text rest : List Char}
    (h : readQuoted quote chars = .ok (text, rest)) :
    readQuoted quote ('\\' :: quote :: chars) = .ok (quote :: text, rest) := by
  rw [readQuoted, h]
  simp

theorem readQuoted_plain {c : Char} {chars text rest : List Char} (hb : c ≠ '\\') (hc : c ≠ quote)
    (h : readQuoted quote chars = .ok (text, rest)) :
    readQuoted quote (c :: chars) = .ok (c :: text, rest) := by
  rw [readQuoted, h]
  · simp [hc]
  · exact fun hc _ => hb hc
  · exact fun _ _ hc _ => hb hc

theorem readQuoted_quote {rest : List Char} (hquote : quote ≠ '\\') :
    readQuoted quote (quote :: rest) = .ok ([], rest) := by
  rw [readQuoted]
  · simp
  · exact fun hc _ => hquote hc
  · exact fun _ _ hc _ => hquote hc

/-- A character that neither ends a text as a backslash nor escapes the next one. -/
theorem ne_backslash {c : Char} {text : List Char} (hend : c = '\\' → text = [] → False)
    (hpair : ∀ d rest, c = '\\' → text = d :: rest → False) : c ≠ '\\' := by
  rintro rfl
  cases text with
  | nil => exact hend rfl rfl
  | cons d rest => exact hpair d rest rfl rfl

/-- A sound text is read back from between its quotes. -/
theorem readQuoted_escapeQuote {text rest : List Char} (hquote : quote ≠ '\\')
    (h : sound quote text = true) :
    readQuoted quote (escapeQuote quote text ++ quote :: rest) = .ok (text, rest) := by
  fun_induction sound quote text with
  | case1 => exact readQuoted_quote hquote
  | case2 => cases h
  | case3 c text ih =>
    rw [Bool.and_eq_true, bne_iff_ne] at h
    rw [escapeQuote_cons_of_ne hquote.symm, escapeQuote_cons_of_ne h.1]
    exact readQuoted_pair h.1 (ih h.2)
  | case4 c text hend hpair ih =>
    by_cases hc : c = quote
    · subst hc
      rw [escapeQuote, if_pos rfl]
      exact readQuoted_escaped (ih h)
    · rw [escapeQuote_cons_of_ne hc]
      exact readQuoted_plain (ne_backslash hend hpair) hc (ih h)

theorem sound_cons {c : Char} {text : List Char} (hb : c ≠ '\\') :
    sound quote (c :: text) = sound quote text := by
  rw [sound]
  · exact fun hc _ => hb hc
  · exact fun _ _ hc _ => hb hc

theorem sound_append {first second : List Char} (h : sound quote first = true)
    (h' : sound quote second = true) : sound quote (first ++ second) = true := by
  fun_induction sound quote first with
  | case1 => exact h'
  | case2 => cases h
  | case3 c text ih =>
    rw [Bool.and_eq_true] at h
    rw [List.cons_append, List.cons_append, sound, Bool.and_eq_true]
    exact ⟨h.1, ih h.2⟩
  | case4 c text hend hpair ih =>
    rw [List.cons_append, sound_cons (ne_backslash hend hpair)]
    exact ih h

theorem sound_of_no_backslash {text : List Char} (h : '\\' ∉ text) : sound quote text = true := by
  induction text with
  | nil => rfl
  | cons c text ih =>
    rw [List.mem_cons, not_or] at h
    rw [sound_cons (Ne.symm h.1)]
    exact ih h.2

theorem sound_of_digits {digits : List Char} (h : ∀ c ∈ digits, c.isDigit = true) :
    sound quote digits = true :=
  sound_of_no_backslash fun hmem => absurd (h _ hmem) (by decide)

/-- What is read from between quotes is sound. -/
theorem sound_of_readQuoted {chars text rest : List Char} (hquote : quote ≠ '\\')
    (h : readQuoted quote chars = .ok (text, rest)) : sound quote text = true := by
  fun_induction readQuoted quote chars generalizing text rest with
  | case1 => cases h
  | case2 => cases h
  | case3 => cases h
  | case4 c chars text' after hr ih =>
    rw [Except.ok.injEq, Prod.mk.injEq] at h
    obtain ⟨rfl, -⟩ := h
    have ih := ih hr
    split
    · next hc =>
      rw [sound_cons (hc ▸ hquote)]
      exact ih
    · next hc =>
      rw [sound, Bool.and_eq_true, bne_iff_ne]
      exact ⟨hc, ih⟩
  | case5 => cases h; rfl
  | case6 => cases h
  | case7 c chars hend hpair hc text' after hr ih =>
    rw [Except.ok.injEq, Prod.mk.injEq] at h
    obtain ⟨rfl, -⟩ := h
    rw [sound_cons (ne_backslash hend hpair)]
    exact ih hr

/-- What follows a quoted text is shorter than the text from its first quote on. -/
theorem length_of_readQuoted {chars text rest : List Char}
    (h : readQuoted quote chars = .ok (text, rest)) : rest.length < chars.length := by
  fun_induction readQuoted quote chars generalizing text rest with
  | case1 => cases h
  | case2 => cases h
  | case3 => cases h
  | case4 c chars text' after hr ih =>
    cases h
    have := ih hr
    simp only [List.length_cons]
    omega
  | case5 => cases h; exact Nat.lt_succ_self _
  | case6 => cases h
  | case7 c chars hend hpair hc text' after hr ih =>
    cases h
    exact Nat.lt_succ_of_lt (ih hr)

/-- A text that is closed is read the same before anything. -/
theorem readQuoted_append {chars text after : List Char} (hquote : quote ≠ '\\')
    (h : readQuoted quote chars = .ok (text, after)) (rest : List Char) :
    readQuoted quote (chars ++ rest) = .ok (text, after ++ rest) := by
  fun_induction readQuoted quote chars generalizing text after with
  | case1 => cases h
  | case2 => cases h
  | case3 => cases h
  | case4 c chars text' after' hr ih =>
    cases h
    rw [List.cons_append, List.cons_append, readQuoted, ih hr]
  | case5 => cases h; exact readQuoted_quote hquote
  | case6 => cases h
  | case7 c chars hend hpair hc text' after' hr ih =>
    cases h
    exact readQuoted_plain (ne_backslash hend hpair) hc (ih hr)

end RecordQuery.Text
