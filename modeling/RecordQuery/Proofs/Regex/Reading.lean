import RecordQuery.Pattern
import RecordQuery.Proofs.Characters
import RecordQuery.Proofs.Numerals
import RecordQuery.Proofs.Regex.Languages
import RecordQuery.Regex.Reader

/-! What the texts of regular expressions mean. `Means` says of a text that it is read as parts that
match the words of a language, one part after another, whatever follows that does not repeat the
last of them; `Unit` says that it is one part, which may be repeated. Texts that mean something are
put together from classes, choices and characters. -/

namespace RecordQuery.Regex

@[simp] theorem skip_initial (chars : List Char) : skip .initial chars = chars := rfl

/-! ### Classes -/

/-- Hexadecimal digits of the code of a character. -/
structure IsCode (digits : List Char) (code : Nat) : Prop where
  number : hexNumber? digits = some code
  closed : '\x7d' ∉ digits
  valid : code < 0xD800 ∨ 0xDFFF < code ∧ code < 0x110000

section Elements

variable {digits more name rest : List Char} {code last : Nat} {property : Property}

theorem braced_initial {inside : List Char} (h : '\x7d' ∉ inside) :
    braced? .initial false (inside ++ '\x7d' :: rest) = some (inside, rest) := by
  induction inside with
  | nil => rfl
  | cons c inside ih =>
    rw [List.mem_cons, not_or] at h
    have hc : c ≠ '\x7d' := Ne.symm h.1
    simp [braced?, Flags.initial, hc] at ih ⊢
    exact ih h.2

theorem IsCode.toNat_ofNat (h : IsCode digits code) : (Char.ofNat code).toNat = code := by
  rw [Char.ofNat, dif_pos h.valid]
  rfl

theorem IsCode.escape (h : IsCode digits code) :
    escape? .initial ('x' :: '\x7b' :: (digits ++ '\x7d' :: rest)) =
      some (.char (Char.ofNat code), rest) := by
  have hcode : charOfCode? code = some (Char.ofNat code) := if_pos h.valid
  simp [escape?, hexCode?, braced_initial h.closed, h.number, hcode]

theorem escape_property (hname : propertyNamed? name = some (property, false))
    (hclosed : '\x7d' ∉ name) :
    escape? .initial ('p' :: '\x7b' :: (name ++ '\x7d' :: rest)) =
      some (.among (.property property), rest) := by
  have hproperty : property? .initial false ('\x7b' :: (name ++ '\x7d' :: rest)) =
      some (.property property, rest) := by
    simp only [property?, skip_initial, braced_initial hclosed, Option.bind_some, hname]
    rfl
  simp [escape?, hproperty]

/-- One character or escape before no hyphen is an item within brackets. -/
theorem classRange_single {chars : List Char} {atom : Atom} {set : CharSet} {c : Char}
    (hatom : classAtom? .initial chars = some (atom, c :: rest))
    (hset : atom.set? .initial = some set) (hc : c ≠ '-') :
    classRange? .initial chars = some (set, c :: rest) := by
  rw [classRange?, hatom, Option.bind_some]
  simp only [skip_initial]
  split
  · contradiction
  · next heq => exact absurd (List.cons.inj heq).1 hc
  · rw [hset, Option.map_some]

theorem classRange_codes {c : Char} (hfirst : IsCode digits code) (hlast : IsCode more last)
    (hle : code ≤ last) : classRange? .initial
      ('\\' :: 'x' :: '\x7b' :: (digits ++ '\x7d' :: '-' :: '\\' :: 'x' :: '\x7b' ::
        (more ++ '\x7d' :: c :: rest))) = some (.span code last, c :: rest) := by
  have hstand (c : Char) : mayStand .initial c = true := rfl
  rw [classRange?, classAtom?, hfirst.escape, Option.bind_some]
  simp only [skip_initial]
  show (classAtom? .initial ('\\' :: 'x' :: '\x7b' :: (more ++ '\x7d' :: c :: rest))).bind _ = _
  rw [classAtom?, hlast.escape, Option.bind_some]
  simp only [hfirst.toNat_ofNat, hlast.toNat_ofNat, hstand, hle, and_self, if_true]

/-- The text is read within brackets as this set, before anything but a hyphen, and begins with
none. -/
structure IsElement (text : List Char) (set : CharSet) : Prop where
  head : ∃ c more, text = c :: more ∧ c ≠ '-'
  reads (nested : List Char → Option (Nested CharSet × List Char)) (fuel : Nat)
    (pending : Option (SetOperator × Nested CharSet)) (items : ClassItems) (c : Char)
    (rest : List Char) : c ≠ '-' →
      classItems? nested .initial (fuel + 1) pending items (text ++ c :: rest) =
        classItems? nested .initial fuel pending (items.push ⟨set, 0⟩) (c :: rest)

/-- What begins with a backslash within brackets is an item, or the first character of a range. -/
theorem classItems_escaped {nested : List Char → Option (Nested CharSet × List Char)} {fuel : Nat}
    {pending : Option (SetOperator × Nested CharSet)} {items : ClassItems} {chars : List Char}
    {set : CharSet} (h : classRange? .initial ('\\' :: chars) = some (set, rest)) :
    classItems? nested .initial (fuel + 1) pending items ('\\' :: chars) =
      classItems? nested .initial fuel pending (items.push ⟨set, 0⟩) rest := by
  show (classRange? .initial ('\\' :: chars)).bind _ = _
  rw [h]
  rfl

theorem isElement_range (hfirst : IsCode digits code) (hlast : IsCode more last)
    (hle : code ≤ last) :
    IsElement ('\\' :: 'x' :: '\x7b' :: (digits ++ '\x7d' :: '-' :: '\\' :: 'x' :: '\x7b' ::
      (more ++ ['\x7d']))) (.span code last) where
  head := ⟨_, _, rfl, by decide⟩
  reads nested fuel pending items c rest hc := by
    simp only [List.cons_append, List.append_assoc, List.nil_append]
    exact classItems_escaped (classRange_codes hfirst hlast hle)

theorem isElement_property (hname : propertyNamed? name = some (property, false))
    (hclosed : '\x7d' ∉ name) :
    IsElement ('\\' :: 'p' :: '\x7b' :: (name ++ ['\x7d'])) (.property property) where
  head := ⟨_, _, rfl, by decide⟩
  reads nested fuel pending items c rest hc := by
    simp only [List.cons_append, List.append_assoc, List.nil_append]
    exact classItems_escaped (classRange_single (escape_property hname hclosed) rfl hc)

theorem holds_single (c : Char) : (CharSet.single c).holds = (· == c) := by
  funext d
  rw [Bool.eq_iff_iff, beq_iff_eq]
  simp only [CharSet.single, CharSet.holds, Bool.and_eq_true, decide_eq_true_eq]
  rw [← Char.toNat_inj]
  omega

theorem isElement_bar : IsElement ['|'] (.single '|') where
  head := ⟨_, _, rfl, by decide⟩
  reads nested fuel pending items c rest hc := by
    show (classRange? .initial ('|' :: c :: rest)).bind _ = _
    rw [classRange_single rfl rfl hc]
    rfl

/-- What stands within brackets so far, with more elements behind. -/
def ClassItems.pushAll (items : ClassItems) (elements : List (List Char × CharSet)) : ClassItems :=
  elements.foldl (fun items element => items.push ⟨element.2, 0⟩) items

theorem ClassItems.holds_pushAll (items : ClassItems) (elements : List (List Char × CharSet))
    (c : Char) : (items.pushAll elements).set.holds c =
      (items.set.holds c || elements.any (·.2.holds c)) := by
  induction elements generalizing items with
  | nil => exact (Bool.or_false _).symm
  | cons element elements ih =>
    rw [pushAll, List.foldl_cons, ← pushAll, ih, List.any_cons, ← Bool.or_assoc]
    rfl

/-- Elements are read up to the closing bracket. -/
theorem classItems_elements {nested : List Char → Option (Nested CharSet × List Char)}
    {elements : List (List Char × CharSet)}
    (h : ∀ element ∈ elements, IsElement element.1 element.2) {fuel : Nat}
    (hfuel : elements.length < fuel) (items : ClassItems) :
    classItems? nested .initial fuel none items (elements.flatMap Prod.fst ++ ']' :: rest) =
      some ((items.pushAll elements).whole, rest) := by
  induction elements generalizing fuel items with
  | nil =>
    obtain ⟨fuel, rfl⟩ : ∃ less, fuel = less + 1 := ⟨_, (Nat.sub_add_cancel hfuel).symm⟩
    rfl
  | cons element elements ih =>
    obtain ⟨fuel, rfl⟩ : ∃ less, fuel = less + 1 := ⟨fuel - 1, by omega⟩
    obtain ⟨helement, hmore⟩ := List.forall_mem_cons.1 h
    obtain ⟨c, behind, hbehind, hc⟩ : ∃ c behind,
        elements.flatMap Prod.fst ++ ']' :: rest = c :: behind ∧ c ≠ '-' := by
      cases elements with
      | nil => exact ⟨']', rest, rfl, by decide⟩
      | cons next others =>
        obtain ⟨c, more, htext, hc⟩ := (List.forall_mem_cons.1 hmore).1.head
        rw [List.flatMap_cons, htext]
        exact ⟨c, _, rfl, hc⟩
    rw [List.flatMap_cons, List.append_assoc, hbehind, helement.reads _ _ _ _ _ _ hc, ← hbehind]
    exact ih hmore (Nat.lt_of_succ_lt_succ hfuel) (items.push ⟨element.2, 0⟩)

/-- A class of elements, the first of them escaped. -/
theorem class_elements {elements : List (List Char × CharSet)}
    (h : ∀ element ∈ elements, IsElement element.1 element.2)
    (hfirst : (elements.flatMap Prod.fst).head? = some '\\') {fuel levels : Nat}
    (hfuel : elements.length < fuel) :
    class? .initial fuel (levels + 1) (elements.flatMap Prod.fst ++ ']' :: rest) =
      some (⟨(ClassItems.none.pushAll elements).set,
        (ClassItems.none.pushAll elements).whole.depth + 1⟩, rest) := by
  obtain ⟨fuel, rfl⟩ : ∃ less, fuel = less + 1 := ⟨fuel - 1, by omega⟩
  obtain ⟨more, hmore⟩ : ∃ more, elements.flatMap Prod.fst = '\\' :: more :=
    List.head?_eq_some_iff.1 hfirst
  have hitems : classItems? (class? .initial (fuel + 1) levels) .initial (fuel + 1) none .none
      (elements.flatMap Prod.fst ++ ']' :: rest) = _ := classItems_elements h hfuel .none
  rw [hmore, List.cons_append] at hitems ⊢
  show (classItems? _ .initial (fuel + 1) none .none ('\\' :: (more ++ ']' :: rest))).bind _ = _
  rw [hitems]
  rfl

end Elements

/-! ### Parts -/

/-- A text that begins with no sign of repetition. -/
def Quiet (chars : List Char) : Prop :=
  ∀ c ∈ chars.head?, c ∉ ['?', '*', '+', '\x7b']

theorem Quiet.append {chars more : List Char} (h : Quiet chars) (h' : Quiet more) :
    Quiet (chars ++ more) := by
  cases chars with
  | nil => exact h'
  | cons c chars => exact h

/-- The items that are read of a text up to a bar, a closing parenthesis or the end, and what is
left, whatever fuel there is for them as long as there is enough. -/
def ReadsItems (fuel levels : Nat) (chars : List Char) (items : List (Nested Regex))
    (rest : List Char) : Prop :=
  ∀ own, chars.length < own →
    items? (levels + 1) (regex? fuel levels) own .initial chars = some (items, .initial, rest)

namespace ReadsItems

variable {fuel levels : Nat} {rest : List Char}

theorem atEnd : ReadsItems fuel levels [] [] [] := by
  intro own hown
  cases own with
  | zero => exact absurd hown (Nat.not_lt_zero _)
  | succ own => rfl

theorem bar : ReadsItems fuel levels ('|' :: rest) [] ('|' :: rest) := by
  intro own hown
  cases own with
  | zero => exact absurd hown (Nat.not_lt_zero _)
  | succ own => rfl

theorem close : ReadsItems fuel levels (')' :: rest) [] (')' :: rest) := by
  intro own hown
  cases own with
  | zero => exact absurd hown (Nat.not_lt_zero _)
  | succ own => rfl

end ReadsItems

/-- The text is read as one item, which may be repeated behind it. Groups in it nest no deeper than
`height` levels. -/
def ReadsItem (height : Nat) (text : List Char) (item : Nested Regex) : Prop :=
  ∀ (fuel levels own : Nat) (rest : List Char), height ≤ levels →
    (text ++ rest).length < fuel → (text ++ rest).length ≤ own →
      items? (levels + 1) (regex? fuel levels) (own + 1) .initial (text ++ rest) =
        (repetitions? .initial (own + 1) item rest).bind fun (item, rest) =>
          (items? (levels + 1) (regex? fuel levels) own .initial rest).map
            fun (items, found) => (item :: items, found)

/-- An item that is neither a group nor a place for alternatives. -/
theorem ReadsItem.of_item {height : Nat} {text : List Char} {item : Nested Regex}
    (hhead : ∃ c more, text = c :: more ∧ c ∉ ['|', ')', '('])
    (hreads : ∀ own levels rest, text.length ≤ own →
      item? (own + 1) (levels + 1) .initial (text ++ rest) = some (item, rest)) :
    ReadsItem height text item := by
  intro fuel levels own rest _ _ hown
  have hreads := hreads own levels rest (by rw [List.length_append] at hown; omega)
  obtain ⟨c, more, rfl, hc⟩ := hhead
  simp only [List.mem_cons, List.not_mem_nil, or_false, not_or] at hc
  rw [List.cons_append] at hreads ⊢
  rw [items?]
  simp only [skip_initial]
  split
  · next heq => cases heq
  · next heq => exact absurd (List.cons.inj heq).1 hc.1
  · next heq => exact absurd (List.cons.inj heq).1 hc.2.1
  · next heq => exact absurd (List.cons.inj heq).1 hc.2.2
  · rw [hreads, Option.bind_some]

theorem repetitions_quiet {fuel : Nat} {item : Nested Regex} {rest : List Char} (h : Quiet rest) :
    repetitions? .initial (fuel + 1) item rest = some (item, rest) := by
  rw [repetitions?]
  simp only [skip_initial]
  cases rest with
  | nil => rfl
  | cons c rest =>
    have hc := h c rfl
    simp only [List.mem_cons, List.not_mem_nil, or_false, not_or] at hc
    split <;> simp_all

/-- The text is read as these items before anything that does not repeat the last of them. Groups in
it nest no deeper than `height` levels. -/
def ReadsText (height : Nat) (text : List Char) (items : List (Nested Regex)) : Prop :=
  ∀ (fuel levels : Nat) (rest left : List Char) (parts : List (Nested Regex)), height ≤ levels →
    (text ++ rest).length < fuel → Quiet rest → ReadsItems fuel levels rest parts left →
      ReadsItems fuel levels (text ++ rest) (items ++ parts) left

theorem ReadsText.append {height : Nat} {text more : List Char} {items others : List (Nested Regex)}
    (h : ReadsText height text items) (hquiet : Quiet more) (h' : ReadsText height more others) :
    ReadsText height (text ++ more) (items ++ others) := by
  intro fuel levels rest left parts hheight hfuel hrest hparts
  rw [List.append_assoc] at hfuel ⊢
  rw [List.append_assoc]
  refine h _ _ _ _ _ hheight hfuel (hquiet.append hrest) ?_
  refine h' _ _ _ _ _ hheight ?_ hrest hparts
  rw [List.length_append] at hfuel
  omega

/-- An item with what is written behind it to repeat it, or nothing. -/
theorem ReadsItem.readsText {height : Nat} {text counts : List Char} {item repeated : Nested Regex}
    (h : ReadsItem height text item) (hne : text ≠ [])
    (hcounts : ∀ fuel rest, Quiet rest →
      repetitions? .initial (fuel + 2) item (counts ++ rest) = some (repeated, rest)) :
    ReadsText height (text ++ counts) [repeated] := by
  intro fuel levels rest left parts hheight hfuel hrest hparts own hown
  have hpos := List.length_pos_iff.2 hne
  rw [List.append_assoc] at hfuel hown ⊢
  rw [List.length_append, List.length_append] at hown
  obtain ⟨own, rfl⟩ : ∃ less, own = less + 2 := ⟨own - 2, by omega⟩
  rw [h fuel levels (own + 1) _ hheight hfuel (by simp only [List.length_append]; omega),
    hcounts own rest hrest, Option.bind_some]
  simp only
  rw [hparts (own + 1) (by omega)]
  rfl

theorem ReadsItem.readsText_single {height : Nat} {text : List Char} {item : Nested Regex}
    (h : ReadsItem height text item) (hne : text ≠ []) : ReadsText height text [item] := by
  rw [← List.append_nil text]
  exact h.readsText hne fun _ _ hrest => repetitions_quiet hrest

theorem leadingDigits_append {digits rest : List Char} {c : Char}
    (h : ∀ d ∈ digits, d.isDigit = true) (hc : c.isDigit = false) :
    leadingDigits .initial false (digits ++ c :: rest) = (digits, c :: rest) := by
  induction digits with
  | nil => simp [leadingDigits, Flags.initial, hc]
  | cons d digits ih =>
    obtain ⟨hd, hdigits⟩ := List.forall_mem_cons.1 h
    rw [List.cons_append, leadingDigits, ih hdigits]
    simp [Flags.initial, hd]

theorem count_toDigits (n : Nat) {c : Char} {rest : List Char} (hc : c.isDigit = false)
    (hblank : Text.isBlank c = false) :
    count? .initial (Nat.toDigits 10 n ++ c :: rest) = some (n, c :: rest) := by
  obtain ⟨hne, hdigits⟩ := isDigits_toDigits n
  have hfront : (Nat.toDigits 10 n ++ c :: rest).dropWhile Text.isBlank =
      Nat.toDigits 10 n ++ c :: rest := by
    cases hn : Nat.toDigits 10 n with
    | nil => exact absurd hn hne
    | cons d digits =>
      rw [hn] at hdigits
      have hd := Text.not_isBlank_of_isDigit (List.forall_mem_cons.1 hdigits).1
      simp [hd]
  have hbehind : (c :: rest).dropWhile Text.isBlank = c :: rest := by simp [hblank]
  rw [count?, hfront]
  simp only [leadingDigits_append hdigits hc, hbehind, skip_initial, digitsValue_toDigits]
  rw [if_neg (by simp)]

theorem counts_exactly (n : Nat) (rest : List Char) :
    counts? .initial (Nat.toDigits 10 n ++ '\x7d' :: rest) = some ((n, some n), rest) := by
  rw [counts?, skip_initial, count_toDigits n rfl (by decide +kernel)]
  rfl

theorem counts_atLeast (n : Nat) (rest : List Char) :
    counts? .initial (Nat.toDigits 10 n ++ ',' :: '\x7d' :: rest) = some ((n, none), rest) := by
  rw [counts?, skip_initial, count_toDigits n rfl (by decide +kernel)]
  rfl

/-- A repetition is read behind what it repeats. -/
theorem repetitions_counted {fuel least : Nat} {most : Option Nat} {item : Nested Regex}
    {counts rest : List Char} (hcounts : counts? .initial counts = some ((least, most), rest))
    (h : Quiet rest) :
    repetitions? .initial (fuel + 2) item ('\x7b' :: counts) =
      some (⟨.times item.value least most true, item.depth + 1⟩, rest) := by
  have hgreed : greed .initial rest = (true, rest) := by
    cases rest with
    | nil => rfl
    | cons c rest =>
      have hc := h c rfl
      simp only [List.mem_cons, List.not_mem_nil, or_false, not_or] at hc
      unfold greed
      split <;> simp_all [Flags.initial]
  rw [repetitions?]
  simp only [skip_initial, hcounts, Option.bind_some, hgreed, repetitions_quiet h]

/-! ### Meanings -/

/-- The text is read as parts that match the words of the language one after another. Groups in it
nest no deeper than `height` levels, and none is named. -/
structure Means (height : Nat) (text : List Char) (language : Language Char) : Prop where
  quiet : Quiet text
  reads : ∃ items : List (Nested Regex), Denotes (sequenceOf (items.map Nested.value)) language ∧
    (∀ item ∈ items, item.value.names = []) ∧ ReadsText height text items

/-- The text is read as one part that matches the words of the language, and may be repeated. -/
structure Unit (height : Nat) (text : List Char) (language : Language Char) : Prop where
  quiet : Quiet text
  ne_nil : text ≠ []
  reads : ∃ item : Nested Regex,
    Denotes item.value language ∧ item.value.names = [] ∧ ReadsItem height text item

namespace Means

variable {height : Nat} {text more : List Char} {first second : Language Char}

theorem nil : Means height [] 1 where
  quiet := fun _ hc => nomatch hc
  reads := ⟨[], .empty, List.forall_mem_nil _, fun _ _ _ _ _ _ _ _ h => h⟩

theorem append (h : Means height text first) (h' : Means height more second) :
    Means height (text ++ more) (first * second) where
  quiet := h.quiet.append h'.quiet
  reads := by
    obtain ⟨items, hitems, hnames, hreads⟩ := h.reads
    obtain ⟨others, hothers, hnames', hreads'⟩ := h'.reads
    refine ⟨items ++ others, ?_, List.forall_mem_append.2 ⟨hnames, hnames'⟩,
      hreads.append h'.quiet hreads'⟩
    rw [List.map_append]
    exact hitems.append hothers

end Means

namespace Unit

variable {height : Nat} {text : List Char} {language : Language Char}

/-- A part with what is written behind it to repeat it, or nothing. -/
theorem means_of_repetitions {counts : List Char} {whole : Language Char}
    (repeated : Regex → Regex) (h : Unit height text language)
    (hrepeated : ∀ regex, Denotes regex language → Denotes (repeated regex) whole)
    (hnames : ∀ regex, (repeated regex).names = regex.names)
    (hreads : ∀ item, ∃ depth, ∀ fuel rest, Quiet rest →
      repetitions? .initial (fuel + 2) item (counts ++ rest) =
        some (⟨repeated item.value, depth⟩, rest)) :
    Means height (text ++ counts) whole where
  quiet := by
    have hquiet := h.quiet
    cases htext : text with
    | nil => exact absurd htext h.ne_nil
    | cons => rwa [htext] at hquiet
  reads := by
    obtain ⟨item, hitem, hitemNames, hitemReads⟩ := h.reads
    obtain ⟨depth, hdepth⟩ := hreads item
    refine ⟨[⟨repeated item.value, depth⟩], hrepeated _ hitem, ?_,
      hitemReads.readsText h.ne_nil hdepth⟩
    rw [List.forall_mem_singleton, hnames]
    exact hitemNames

theorem means (h : Unit height text language) : Means height text language := by
  rw [← List.append_nil text]
  exact h.means_of_repetitions id (fun _ hregex => hregex) (fun _ => rfl) fun item =>
    ⟨item.depth, fun fuel rest hquiet => repetitions_quiet hquiet⟩

theorem exactly (h : Unit height text language) (n : Nat) :
    Means height (text ++ '\x7b' :: (Nat.toDigits 10 n ++ ['\x7d'])) (language ^ n) := by
  refine h.means_of_repetitions (.times · n (some n) true) (fun _ hregex => hregex.exactly)
    (fun _ => rfl) fun item => ⟨item.depth + 1, fun fuel rest hquiet => ?_⟩
  rw [List.cons_append, List.append_assoc]
  exact repetitions_counted (counts_exactly n rest) hquiet

theorem atLeast (h : Unit height text language) (n : Nat) :
    Means height (text ++ '\x7b' :: (Nat.toDigits 10 n ++ [',', '\x7d']))
      (anyOf fun extra => language ^ (n + extra)) := by
  refine h.means_of_repetitions (.times · n none true) (fun _ hregex => hregex.atLeast)
    (fun _ => rfl) fun item => ⟨item.depth + 1, fun fuel rest hquiet => ?_⟩
  rw [List.cons_append, List.append_assoc]
  exact repetitions_counted (counts_atLeast n rest) hquiet

/-- A part that is neither a group nor a place for alternatives. -/
theorem of_item (item : Nested Regex) (hquiet : Quiet text)
    (hhead : ∃ c more, text = c :: more ∧ c ∉ ['|', ')', '(']) (hitem : Denotes item.value language)
    (hnames : item.value.names = [])
    (hreads : ∀ own levels rest, text.length ≤ own →
      item? (own + 1) (levels + 1) .initial (text ++ rest) = some (item, rest)) :
    Unit height text language where
  quiet := hquiet
  ne_nil := by
    obtain ⟨c, more, rfl, -⟩ := hhead
    exact List.cons_ne_nil c more
  reads := ⟨item, hitem, hnames, .of_item hhead hreads⟩

/-- A part that begins with a backslash is read as what is escaped. -/
theorem of_escape {chars : List Char} (atom : Atom) {set : CharSet}
    (hescape : ∀ rest, escape? .initial (chars ++ rest) = some (atom, rest))
    (hatom : ofAtom? .initial atom = some (.among set)) :
    Unit height ('\\' :: chars) (singles set.holds) := by
  refine of_item ⟨.among set, 0⟩ (by simp [Quiet]) ⟨_, _, rfl, by decide⟩ (Denotes.among _) rfl
    fun own levels rest _ => ?_
  show (escape? .initial (chars ++ rest)).bind _ = _
  rw [hescape, Option.bind_some]
  simp only [hatom]
  rfl

theorem literal_initial (c : Char) : literal? .initial c = some (.among (.single c)) :=
  if_neg fun h => Bool.false_ne_true h.1

theorem code {digits : List Char} {code : Nat} (h : IsCode digits code) :
    Unit height ('\\' :: 'x' :: '\x7b' :: (digits ++ ['\x7d']))
      (singles (CharSet.span code code).holds) := by
  refine of_escape (.char (Char.ofNat code)) (fun rest => ?_) ?_
  · rw [List.cons_append, List.cons_append, List.append_assoc]
    exact h.escape
  · rw [ofAtom?, literal_initial, CharSet.single, h.toNat_ofNat]

theorem property {name : List Char} {property : Property}
    (hname : propertyNamed? name = some (property, false)) (hclosed : '\x7d' ∉ name) :
    Unit height ('\\' :: 'p' :: '\x7b' :: (name ++ ['\x7d'])) (singles property.holds) := by
  show Unit height _ (singles (CharSet.property property).holds)
  refine of_escape (.among (.property property)) (fun rest => ?_) rfl
  rw [List.cons_append, List.cons_append, List.append_assoc]
  exact escape_property hname hclosed

theorem elements {elements : List (List Char × CharSet)}
    (h : ∀ element ∈ elements, IsElement element.1 element.2)
    (hfirst : (elements.flatMap Prod.fst).head? = some '\\') :
    Unit height ('[' :: (elements.flatMap Prod.fst ++ [']']))
      (singles fun c => elements.any (·.2.holds c)) := by
  have hholds : (ClassItems.none.pushAll elements).set.holds =
      fun c => elements.any (·.2.holds c) := by
    funext c
    rw [ClassItems.holds_pushAll]
    exact Bool.false_or _
  refine of_item ⟨.among (ClassItems.none.pushAll elements).set,
    (ClassItems.none.pushAll elements).whole.depth + 1⟩ (by simp [Quiet]) ⟨_, _, rfl, by decide⟩
    (hholds ▸ Denotes.among _) rfl fun own levels rest hown => ?_
  have hlength : elements.length ≤ (elements.flatMap Prod.fst).length := by
    clear hfirst hholds hown
    induction elements with
    | nil => exact Nat.le_refl _
    | cons element elements ih =>
      obtain ⟨helement, hmore⟩ := List.forall_mem_cons.1 h
      obtain ⟨c, more, htext, -⟩ := helement.head
      have := ih hmore
      rw [List.flatMap_cons, List.length_append, htext]
      simp only [List.length_cons]
      omega
  rw [List.cons_append, List.append_assoc]
  show (class? .initial (own + 1) (levels + 1) (elements.flatMap Prod.fst ++ ']' :: rest)).map _ = _
  rw [class_elements h hfirst (by rw [List.length_cons, List.length_append] at hown; omega)]
  rfl

theorem element {chars : List Char} {set : CharSet} (h : IsElement ('\\' :: chars) set) :
    Unit height ('[' :: '\\' :: (chars ++ [']'])) (singles set.holds) := by
  have hunit : Unit height _ (singles fun c => [('\\' :: chars, set)].any (·.2.holds c)) :=
    elements (List.forall_mem_singleton.2 h) rfl
  simpa using hunit

/-- A character that stands for itself, with a backslash if it means something. -/
theorem escaped (c : Char) : Unit height (Pattern.escape [c]) (singles (· == c)) := by
  rw [← holds_single]
  by_cases hc : Pattern.isMeta c = true
  · rw [Pattern.escape, if_pos hc]
    refine of_escape (.char c) (fun rest => ?_) (literal_initial c)
    simp only [Pattern.isMeta, List.mem_cons, List.not_mem_nil, or_false, decide_eq_true_eq] at hc
    rcases hc with rfl | rfl | rfl | rfl | rfl | rfl | rfl | rfl | rfl | rfl | rfl | rfl | rfl |
      rfl | rfl | rfl | rfl | rfl
    all_goals rfl
  · rw [Pattern.escape, if_neg hc]
    simp only [Pattern.isMeta, List.mem_cons, List.not_mem_nil, or_false, decide_eq_true_eq,
      not_or] at hc
    refine of_item ⟨.among (.single c), 0⟩ (by simp [Quiet, hc]) ⟨_, _, rfl, by simp [hc]⟩
      (Denotes.among _) rfl fun own levels rest _ => ?_
    show item? (own + 1) (levels + 1) .initial (c :: rest) = _
    rw [item?]
    · simp [hc, literal_initial]
    all_goals simp_all

end Unit

/-! ### Alternatives -/

theorem names_sequenceOf (parts : List Regex) :
    (sequenceOf parts).names = parts.flatMap names := by
  fun_induction sequenceOf parts with
  | case1 => rfl
  | case2 part => simp
  | case3 part next parts ih => simp [names, ih]

theorem names_choiceOf (parts : List Regex) : (choiceOf parts).names = parts.flatMap names := by
  fun_induction choiceOf parts with
  | case1 => rfl
  | case2 part => simp
  | case3 part next parts ih => simp [names, ih]

theorem Denotes.choiceOf {found : List Regex} {languages : List (Language Char)}
    (h : List.Forall₂ Denotes found languages) (hne : found ≠ []) :
    Denotes (choiceOf found) languages.sum := by
  induction h with
  | nil => exact absurd rfl hne
  | @cons regex language found languages hregex hfound ih =>
    cases hfound with
    | nil => simpa [Regex.choiceOf] using hregex
    | cons => exact hregex.choice (ih (List.cons_ne_nil _ _))

theorem opening_quiet {chars : List Char} (h : Quiet chars) :
    opening? .initial chars = some (.capture none, chars) := by
  have hmark (rest : List Char) : chars ≠ '?' :: rest := by
    rintro rfl
    exact h '?' rfl (by simp)
  rw [opening?, skip_initial]
  split
  · exact absurd rfl (hmark _)
  · exact absurd rfl (hmark _)
  · exact absurd rfl (hmark _)
  · rfl

section Alternatives

variable {height : Nat} {texts : List String} {languages : List (Language Char)}

/-- Texts with bars between are read as alternatives up to a closing parenthesis. -/
theorem exists_alternatives
    (h : List.Forall₂ (fun text language => Means height text.toList language) texts languages)
    (hne : texts ≠ []) : ∃ found : List (Nested Regex),
      List.Forall₂ Denotes (found.map Nested.value) languages ∧
      (∀ part ∈ found, part.value.names = []) ∧
      ∀ fuel levels own rest, height ≤ levels →
        ((Text.joined "|" texts).toList ++ ')' :: rest).length < fuel →
        ((Text.joined "|" texts).toList ++ ')' :: rest).length < own →
        alternatives? (levels + 1) (regex? fuel levels) own .initial
          ((Text.joined "|" texts).toList ++ ')' :: rest) = some (found, ')' :: rest) := by
  induction h with
  | nil => exact absurd rfl hne
  | @cons text language texts languages htext htexts ih =>
    obtain ⟨items, hitems, hnames, hreads⟩ := htext.reads
    have hfirstNames : (Nested.all sequenceOf items).value.names = [] := by
      show (sequenceOf (items.map Nested.value)).names = []
      rw [names_sequenceOf, List.flatMap_map, List.flatMap_eq_nil_iff]
      exact hnames
    cases htexts with
    | nil =>
      refine ⟨[Nested.all sequenceOf items], .cons hitems .nil,
        List.forall_mem_singleton.2 hfirstNames, fun fuel levels own rest hheight hfuel hown => ?_⟩
      obtain ⟨own, rfl⟩ : ∃ less, own = less + 1 := ⟨own - 1, by omega⟩
      have hquiet : Quiet (')' :: rest) := by simp [Quiet]
      rw [Text.joined] at hfuel hown ⊢
      rw [alternatives?, hreads fuel levels _ _ _ hheight hfuel hquiet .close (own + 1) hown,
        List.append_nil]
      rfl
    | @cons next _ texts =>
      obtain ⟨found, hfound, hfoundNames, hmore⟩ := ih (List.cons_ne_nil _ _)
      refine ⟨Nested.all sequenceOf items :: found, .cons hitems hfound,
        List.forall_mem_cons.2 ⟨hfirstNames, hfoundNames⟩,
        fun fuel levels own rest hheight hfuel hown => ?_⟩
      obtain ⟨own, rfl⟩ : ∃ less, own = less + 1 := ⟨own - 1, by omega⟩
      rw [Text.joined, String.toList_append, String.toList_append, List.append_assoc,
        List.append_assoc] at hfuel hown ⊢
      have hbehind := hmore fuel levels own rest hheight
      generalize (Text.joined "|" (next :: texts)).toList ++ ')' :: rest = behind
        at hfuel hown hbehind ⊢
      have hquiet : Quiet ('|' :: behind) := by simp [Quiet]
      replace hfuel : (text.toList ++ '|' :: behind).length < fuel := hfuel
      replace hown : (text.toList ++ '|' :: behind).length < own + 1 := hown
      have hitems := hreads fuel levels _ _ _ hheight hfuel hquiet .bar (own + 1) hown
      rw [List.length_append, List.length_cons] at hown hfuel
      show alternatives? _ _ (own + 1) _ (text.toList ++ '|' :: behind) = _
      rw [alternatives?, hitems, List.append_nil]
      show (alternatives? (levels + 1) (regex? fuel levels) own .initial behind).map _ = _
      rw [hbehind (by omega) (by omega)]
      rfl

/-- A choice between texts in parentheses. -/
theorem Unit.choice
    (h : List.Forall₂ (fun text language => Means height text.toList language) texts languages)
    (hne : texts ≠ []) : Unit (height + 1) (Pattern.choice texts).toList languages.sum := by
  obtain ⟨found, hfound, hnames, hreads⟩ := exists_alternatives h hne
  have htext : (Pattern.choice texts).toList =
      '(' :: ((Text.joined "|" texts).toList ++ [')']) := by
    rw [Pattern.choice, String.toList_append, String.toList_append]
    rfl
  have hfoundNe : found.map Nested.value ≠ [] := by
    rintro heq
    rw [heq] at hfound
    cases hfound
    cases h
    exact hne rfl
  have hquiet (rest : List Char) : Quiet ((Text.joined "|" texts).toList ++ ')' :: rest) := by
    cases h with
    | nil => exact absurd rfl hne
    | cons hfirst hothers =>
      cases hothers with
      | nil => exact hfirst.quiet.append (by simp [Quiet])
      | cons =>
        rw [Text.joined, String.toList_append, String.toList_append, List.append_assoc,
          List.append_assoc]
        exact hfirst.quiet.append (by simp [Quiet])
  rw [htext]
  refine ⟨by simp [Quiet], List.cons_ne_nil _ _,
    ⟨.capture none (choiceOf (found.map Nested.value)), (Nested.all choiceOf found).depth + 1⟩,
    (Denotes.choiceOf hfound hfoundNe).capture none, ?_, ?_⟩
  · show (choiceOf (found.map Nested.value)).names = []
    rw [names_choiceOf, List.flatMap_map, List.flatMap_eq_nil_iff]
    exact hnames
  · intro fuel levels own rest hheight hfuel hown
    obtain ⟨levels, rfl⟩ : ∃ less, levels = less + 1 := ⟨levels - 1, by omega⟩
    rw [List.cons_append, List.append_assoc, List.singleton_append] at hfuel hown ⊢
    rw [List.length_cons] at hfuel hown
    have hinner := hreads fuel levels fuel rest (by omega) (by omega) (by omega)
    rw [items?]
    simp only [skip_initial]
    rw [opening_quiet (hquiet rest), Option.bind_some]
    simp only
    rw [regex?, hinner]
    rfl

end Alternatives

/-! ### Whole texts -/

section Whole

variable {height fuel levels : Nat} {chars rest : List Char} {items : List (Nested Regex)}

/-- What is read where there are no alternatives. -/
def single (items : List (Nested Regex)) : Nested Regex :=
  Nested.all choiceOf [Nested.all sequenceOf items]

theorem ReadsItems.regex (h : ReadsItems fuel levels chars items rest) (hfuel : chars.length < fuel)
    (hrest : ∀ more, rest ≠ '|' :: more) :
    regex? fuel (levels + 1) .initial chars = some (single items, rest) := by
  obtain ⟨fuel, rfl⟩ : ∃ less, fuel = less + 1 := ⟨fuel - 1, by omega⟩
  rw [regex?, alternatives?, h (fuel + 1) hfuel, Option.bind_some]
  simp only
  rfl

theorem readsItem_textStart : ReadsItem height ['^'] ⟨.look .textStart, 0⟩ :=
  .of_item ⟨_, _, rfl, by decide⟩ fun _ _ _ _ => rfl

theorem readsItem_textEnd : ReadsItem height ['$'] ⟨.look .textEnd, 0⟩ :=
  .of_item ⟨_, _, rfl, by decide⟩ fun _ _ _ _ => rfl

/-- A group that is not remembered. -/
theorem ReadsText.group (h : ReadsText height chars items) :
    ReadsItem (height + 1) ('(' :: '?' :: ':' :: (chars ++ [')']))
      ⟨.group (sequenceOf (items.map Nested.value)), (single items).depth + 1⟩ := by
  intro fuel levels own rest hheight hfuel hown
  obtain ⟨levels, rfl⟩ : ∃ less, levels = less + 1 := ⟨levels - 1, by omega⟩
  simp only [List.cons_append, List.append_assoc, List.nil_append, List.length_cons] at hfuel hown ⊢
  have hopening : opening? .initial ('?' :: ':' :: (chars ++ ')' :: rest)) =
      some (.group .initial, chars ++ ')' :: rest) := rfl
  have hitems : ReadsItems fuel levels (chars ++ ')' :: rest) items (')' :: rest) := by
    rw [← List.append_nil items]
    exact h _ _ _ _ _ (by omega) (by omega) (by simp [Quiet]) .close
  have hinner := hitems.regex (by omega) (by simp)
  rw [items?]
  simp only [skip_initial, hopening, Option.bind_some, hinner]
  rfl

/-- Items between anchors. -/
def between (items : List (Nested Regex)) : List (Nested Regex) :=
  [⟨.look .textStart, 0⟩] ++ items ++ [⟨.look .textEnd, 0⟩]

theorem ReadsText.between (h : ReadsText height chars items) (hquiet : Quiet chars) :
    ReadsText height (['^'] ++ chars ++ ['$']) (between items) :=
  ((readsItem_textStart.readsText_single (List.cons_ne_nil _ _)).append hquiet h).append
    (by simp [Quiet]) (readsItem_textEnd.readsText_single (List.cons_ne_nil _ _))

/-- What is read between anchors around a group between anchors. -/
def wholeOf (items : List (Nested Regex)) : Nested Regex :=
  single (between [⟨.group (sequenceOf ((between items).map Nested.value)),
    (single (between items)).depth + 1⟩])

theorem value_wholeOf (items : List (Nested Regex)) :
    (wholeOf items).value = anchored (items.map Nested.value) := by
  have hparts : (between items).map Nested.value =
      [.look .textStart] ++ items.map Nested.value ++ [.look .textEnd] := by
    rw [between, List.map_append, List.map_append]
    rfl
  rw [anchored, ← hparts]
  rfl

theorem names_wholeOf (h : ∀ item ∈ items, item.value.names = []) :
    (wholeOf items).value.names = [] := by
  rw [value_wholeOf, anchored, names_sequenceOf]
  simp [names, names_sequenceOf, List.flatMap_map, List.flatMap_eq_nil_iff.2 h]

/-- A text between anchors, as it is compiled. -/
def whole (text : String) : String := "^(?:" ++ ("^" ++ text ++ "$") ++ ")$"

theorem toList_whole (text : String) : (whole text).toList =
    ['^'] ++ ('(' :: '?' :: ':' :: (['^'] ++ text.toList ++ ['$'] ++ [')'])) ++ ['$'] := by
  simp [whole]

theorem ReadsText.regex_whole {text : String} (h : ReadsText height text.toList items)
    (hquiet : Quiet text.toList) (hlevels : height + 1 ≤ levels)
    (hfuel : (whole text).toList.length < fuel) :
    regex? fuel (levels + 1) .initial (whole text).toList = some (wholeOf items, []) := by
  have hgroup := (h.between hquiet).group
  have hwhole := (hgroup.readsText_single (List.cons_ne_nil _ _)).between (by simp [Quiet])
  rw [← toList_whole] at hwhole
  have hitems := hwhole fuel levels [] [] [] hlevels (by rwa [List.append_nil])
    (fun _ hc => nomatch hc) .atEnd
  rw [List.append_nil, List.append_nil] at hitems
  exact hitems.regex hfuel (by simp)

/-- A text that means something is compiled between anchors to what matches the words of its
language, within any limits that let groups nest deep enough and are kept to. -/
theorem compileWhole_of_means {text : String} {language : Language Char} (hheight : height < 8)
    (h : Means height text.toList language) :
    ∃ found : Nested Regex,
      (∀ source, found.value.matchesPart source = true ↔ source ∈ language) ∧
      ∀ limits : Limits, height < limits.nesting.getD 8 →
        compileWhole? limits ("^" ++ text ++ "$") =
          if limits.allow found then some found.value else none := by
  obtain ⟨items, hitems, hnames, hreads⟩ := h.reads
  refine ⟨wholeOf items, fun source => value_wholeOf items ▸ matchesPart_anchored hitems,
    fun limits hlimits => ?_⟩
  -- Without a limit, as many levels are open as there are characters, of which anchors are eight.
  have hlevels : height + 1 ≤ limits.nesting.getD (whole text).toList.length := by
    cases hnesting : limits.nesting with
    | none =>
      rw [toList_whole]
      simp only [Option.getD_none, List.length_append, List.length_cons, List.length_nil]
      omega
    | some nesting =>
      rw [hnesting] at hlimits
      exact hlimits
  have hread := hreads.regex_whole h.quiet hlevels (Nat.lt_succ_self _)
  show compile? limits (whole text) = _
  simp only [compile?, hread, names_wholeOf hnames, List.nodup_nil, decide_true, Bool.true_and]

end Whole

end RecordQuery.Regex
