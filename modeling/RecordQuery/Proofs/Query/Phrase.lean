import RecordQuery.Query.Parser

/-! The grammar of queries, as trees with one constructor for each way to derive a phrase:

* `query := or_expr`, with nothing behind it
* `or_expr := and_expr ( "or" and_expr )*`
* `and_expr := unary ( "and" unary )*`
* `unary := "not" unary | "(" or_expr ")" | predicate`
* `predicate := field test`

A phrase has tokens and a value, and no two phrases have the same tokens
(`OrPhrase.tokens_injective`). -/

namespace RecordQuery

open Query (Token)

/-- `field := identifier | "*"` -/
def Field.token : Field → Token
  | .named path => .name path
  | .all => .star

/-- `operand := literal | identifier` -/
def Operand.token : Operand → Token
  | .literal value => .literal value
  | .field path => .name path

namespace Range

/-- The bracket at the lower end of a range, turned outwards where the end is open. -/
def lowerToken (isOpen : Bool) : Token := if isOpen then .rightBracket else .leftBracket

/-- The bracket at the upper end of a range, turned outwards where the end is open. -/
def upperToken (isOpen : Bool) : Token := if isOpen then .leftBracket else .rightBracket

/-- `bound literal "," literal bound` -/
def tokens (range : Range) : List Token :=
  [lowerToken range.lowerOpen, .literal range.left, .comma, .literal range.right,
    upperToken range.upperOpen]

/-- The bounds are no truth values, and both are numbers or both quoted texts. -/
def BoundsFit (range : Range) : Prop :=
  range.left.kind ≠ .boolean ∧ range.right.kind ≠ .boolean ∧
    (range.left.kind.isNumeric = true ∧ range.right.kind.isNumeric = true ∨
      range.left.kind = .quoted ∧ range.right.kind = .quoted)

end Range

/-- `literal ( "," literal )*` -/
def Literal.listTokens : List Literal → List Token
  | [] => []
  | [value] => [.literal value]
  | value :: next :: values => .literal value :: .comma :: listTokens (next :: values)

namespace Test

/-- `test := cmp_op operand | "between" bound literal "," literal bound |
"in" "[" literal ( "," literal )* "]" | "~" quoted | "contains" quoted |
"containsIgnoreCase" quoted | "complies" quoted | "wordComplies" quoted |
"is" ( "null" | "empty" | "valid" | "invalid" )` -/
def tokens : Test → List Token
  | .compare operator operand => [.compare operator, operand.token]
  | .between range => .keyword .between :: range.tokens
  | .oneOf values =>
    .keyword .oneOf :: .leftBracket :: (Literal.listTokens values ++ [.rightBracket])
  | .contains text caseSensitive => [.keyword (.contains caseSensitive), .literal (.ofText text)]
  | .matching regex => [.tilde, .literal (.ofText regex)]
  | .complies kind pattern => [.keyword (.complies kind), .literal (.ofText pattern)]
  | .is check => [.keyword .is, .keyword (.state check)]

/-- The bounds of a range fit; any other test has none. -/
def BoundsFit : Test → Prop
  | .between range => range.BoundsFit
  | _ => True

end Test

/-- `predicate := field test` -/
def Predicate.tokens (predicate : Predicate) : List Token :=
  predicate.field.token :: predicate.test.tokens

theorem checkBounds_eq_ok_iff {range : Range} :
    checkBounds range.left range.right = .ok () ↔ range.BoundsFit := by
  rcases range with ⟨⟨leftKind, left⟩, ⟨rightKind, right⟩, lowerOpen, upperOpen⟩
  cases leftKind <;> cases rightKind <;>
    simp [checkBounds, Range.BoundsFit, LiteralKind.isNumeric]

namespace Query

mutual

/-- `or_expr := and_expr ( "or" and_expr )*` -/
inductive OrPhrase where
  | one (first : AndPhrase)
  | or (first : AndPhrase) (rest : OrPhrase)

/-- `and_expr := unary ( "and" unary )*` -/
inductive AndPhrase where
  | one (first : UnaryPhrase)
  | and (first : UnaryPhrase) (rest : AndPhrase)

/-- `unary := "not" unary | "(" or_expr ")" | predicate` -/
inductive UnaryPhrase where
  | not (operand : UnaryPhrase)
  | group (inner : OrPhrase)
  /-- A predicate; a list of values holds one at least. -/
  | predicate (predicate : Predicate) (listed : predicate.test ≠ .oneOf [])

end

mutual

/-- The tokens of a phrase, in order. -/
def OrPhrase.tokens : OrPhrase → List Token
  | .one first => first.tokens
  | .or first rest => first.tokens ++ .keyword .or :: rest.tokens
termination_by structural phrase => phrase

def AndPhrase.tokens : AndPhrase → List Token
  | .one first => first.tokens
  | .and first rest => first.tokens ++ .keyword .and :: rest.tokens
termination_by structural phrase => phrase

def UnaryPhrase.tokens : UnaryPhrase → List Token
  | .not operand => .keyword .not :: operand.tokens
  | .group inner => .leftParen :: (inner.tokens ++ [.rightParen])
  | .predicate predicate _ => predicate.tokens
termination_by structural phrase => phrase

end

mutual

/-- The queries of the alternatives of a phrase. -/
def OrPhrase.branches : OrPhrase → List Query
  | .one first => [conjunction first.children]
  | .or first rest => conjunction first.children :: rest.branches
termination_by structural phrase => phrase

/-- The queries that a phrase joins by "and". -/
def AndPhrase.children : AndPhrase → List Query
  | .one first => [first.value]
  | .and first rest => first.value :: rest.children
termination_by structural phrase => phrase

/-- The query of a phrase. -/
def UnaryPhrase.value : UnaryPhrase → Query
  | .not operand => negation operand.value
  | .group inner => disjunction inner.branches
  | .predicate predicate _ => .leaf predicate
termination_by structural phrase => phrase

end

/-- The query of a phrase. -/
def OrPhrase.value (phrase : OrPhrase) : Query := disjunction phrase.branches

mutual

/-- The bounds of every range in a phrase fit. -/
def OrPhrase.BoundsFit : OrPhrase → Prop
  | .one first => first.BoundsFit
  | .or first rest => first.BoundsFit ∧ rest.BoundsFit
termination_by structural phrase => phrase

def AndPhrase.BoundsFit : AndPhrase → Prop
  | .one first => first.BoundsFit
  | .and first rest => first.BoundsFit ∧ rest.BoundsFit
termination_by structural phrase => phrase

def UnaryPhrase.BoundsFit : UnaryPhrase → Prop
  | .not operand => operand.BoundsFit
  | .group inner => inner.BoundsFit
  | .predicate predicate _ => predicate.test.BoundsFit
termination_by structural phrase => phrase

end

end Query

/-! ### One phrase for given tokens -/

theorem Field.token_injective {a b : Field} (h : a.token = b.token) : a = b := by
  cases a <;> cases b <;> simp_all [Field.token]

theorem Operand.token_injective {a b : Operand} (h : a.token = b.token) : a = b := by
  cases a <;> cases b <;> simp_all [Operand.token]

theorem Range.tokens_injective {a b : Range} (h : a.tokens = b.tokens) : a = b := by
  rcases a with ⟨al, ar, alo, auo⟩
  rcases b with ⟨bl, br, blo, buo⟩
  cases alo <;> cases blo <;> cases auo <;> cases buo <;>
    simp_all [Range.tokens, Range.lowerToken, Range.upperToken]

/-- A list of literals ends at its closing bracket. -/
theorem Literal.listTokens_injective {rest rest' : List Token} :
    {a b : List Literal} → a ≠ [] → b ≠ [] →
      Literal.listTokens a ++ .rightBracket :: rest =
        Literal.listTokens b ++ .rightBracket :: rest' → a = b ∧ rest = rest'
  | [], _, ha, _, _ => absurd rfl ha
  | _, [], _, hb, _ => absurd rfl hb
  | [_], [_], _, _, h => by simpa [Literal.listTokens] using h
  | [_], _ :: _ :: _, _, _, h | _ :: _ :: _, [_], _, _, h => by simp [Literal.listTokens] at h
  | v :: v' :: a, w :: w' :: b, _, _, h => by
    simp only [Literal.listTokens, List.cons_append, List.cons.injEq, Token.literal.injEq,
      true_and] at h
    obtain ⟨rfl, h⟩ := h
    obtain ⟨hab, hr⟩ := Literal.listTokens_injective (by simp) (by simp) h
    exact ⟨by rw [hab], hr⟩

theorem Test.tokens_injective {a b : Test} {rest rest' : List Token} (ha : a ≠ .oneOf [])
    (hb : b ≠ .oneOf []) (h : a.tokens ++ rest = b.tokens ++ rest') : a = b ∧ rest = rest' := by
  cases a with
  | compare operator operand =>
    cases b <;> simp only [Test.tokens, List.cons_append, List.nil_append, List.cons.injEq,
      reduceCtorEq, false_and, Token.compare.injEq] at h
    obtain ⟨rfl, ho, rfl⟩ := h
    rw [Operand.token_injective ho]
    exact ⟨rfl, rfl⟩
  | between range =>
    cases b with
    | between other =>
      simp only [Test.tokens, List.cons_append, List.cons.injEq, true_and] at h
      obtain ⟨hr, rfl⟩ := List.append_inj h rfl
      rw [Range.tokens_injective hr]
      exact ⟨rfl, rfl⟩
    | _ => simp [Test.tokens] at h
  | oneOf values =>
    cases b with
    | oneOf others =>
      simp only [Test.tokens, List.cons_append, List.cons.injEq, true_and, List.append_assoc,
        List.nil_append] at h
      obtain ⟨rfl, rfl⟩ := Literal.listTokens_injective (fun e => ha (by rw [e]))
        (fun e => hb (by rw [e])) h
      exact ⟨rfl, rfl⟩
    | _ => simp [Test.tokens] at h
  | _ => cases b <;> simp_all [Test.tokens, Literal.ofText]

theorem Predicate.tokens_injective {a b : Predicate} {rest rest' : List Token}
    (ha : a.test ≠ .oneOf []) (hb : b.test ≠ .oneOf [])
    (h : a.tokens ++ rest = b.tokens ++ rest') : a = b ∧ rest = rest' := by
  simp only [Predicate.tokens, List.cons_append, List.cons.injEq] at h
  obtain ⟨ht, rfl⟩ := Test.tokens_injective ha hb h.2
  rcases a with ⟨field, test⟩
  rcases b with ⟨field', test'⟩
  obtain rfl := Field.token_injective h.1
  obtain rfl : test = test' := ht
  exact ⟨rfl, rfl⟩

theorem Predicate.tokens_ne_cons {predicate : Predicate} {token : Token} {rest tokens : List Token}
    (hname : ∀ path, token ≠ .name path) (hstar : token ≠ .star) :
    predicate.tokens ++ rest ≠ token :: tokens := by
  intro h
  simp only [Predicate.tokens, List.cons_append, List.cons.injEq] at h
  cases hf : predicate.field with
  | named path => rw [hf] at h; exact hname path h.1.symm
  | all => rw [hf] at h; exact hstar h.1.symm

namespace Query

mutual

/-- Behind an `or_expr` stands neither "and" nor "or"; then its tokens tell where it ends. -/
theorem OrPhrase.eq_of_append {rest rest' : List Token} (hand : rest.head? ≠ some (.keyword .and))
    (hor : rest.head? ≠ some (.keyword .or)) (hand' : rest'.head? ≠ some (.keyword .and))
    (hor' : rest'.head? ≠ some (.keyword .or)) :
    (a b : OrPhrase) → a.tokens ++ rest = b.tokens ++ rest' → a = b ∧ rest = rest'
  | .one a, .one b, h => by
    obtain ⟨rfl, hr⟩ := AndPhrase.eq_of_append hand hand' a b h
    exact ⟨rfl, hr⟩
  | .one a, .or b bs, h => by
    simp only [OrPhrase.tokens, List.append_assoc] at h
    obtain ⟨-, rfl⟩ := AndPhrase.eq_of_append hand (by simp) a b h
    exact absurd rfl hor
  | .or a as, .one b, h => by
    simp only [OrPhrase.tokens, List.append_assoc] at h
    obtain ⟨-, hr⟩ := AndPhrase.eq_of_append (by simp) hand' a b h
    exact absurd (by rw [← hr]; rfl) hor'
  | .or a as, .or b bs, h => by
    simp only [OrPhrase.tokens, List.append_assoc] at h
    obtain ⟨rfl, hr⟩ := AndPhrase.eq_of_append (by simp) (by simp) a b h
    obtain ⟨rfl, hend⟩ := OrPhrase.eq_of_append hand hor hand' hor' as bs (by simpa using hr)
    exact ⟨rfl, hend⟩
termination_by structural a => a

theorem AndPhrase.eq_of_append {rest rest' : List Token} (hand : rest.head? ≠ some (.keyword .and))
    (hand' : rest'.head? ≠ some (.keyword .and)) :
    (a b : AndPhrase) → a.tokens ++ rest = b.tokens ++ rest' → a = b ∧ rest = rest'
  | .one a, .one b, h => by
    obtain ⟨rfl, hr⟩ := UnaryPhrase.eq_of_append a b h
    exact ⟨rfl, hr⟩
  | .one a, .and b bs, h => by
    simp only [AndPhrase.tokens, List.append_assoc] at h
    obtain ⟨-, rfl⟩ := UnaryPhrase.eq_of_append a b h
    exact absurd rfl hand
  | .and a as, .one b, h => by
    simp only [AndPhrase.tokens, List.append_assoc] at h
    obtain ⟨-, hr⟩ := UnaryPhrase.eq_of_append a b h
    exact absurd (by rw [← hr]; rfl) hand'
  | .and a as, .and b bs, h => by
    simp only [AndPhrase.tokens, List.append_assoc] at h
    obtain ⟨rfl, hr⟩ := UnaryPhrase.eq_of_append a b h
    obtain ⟨rfl, hend⟩ := AndPhrase.eq_of_append hand hand' as bs (by simpa using hr)
    exact ⟨rfl, hend⟩
termination_by structural a => a

theorem UnaryPhrase.eq_of_append {rest rest' : List Token} :
    (a b : UnaryPhrase) → a.tokens ++ rest = b.tokens ++ rest' → a = b ∧ rest = rest'
  | .not a, .not b, h => by
    simp only [UnaryPhrase.tokens, List.cons_append, List.cons.injEq, true_and] at h
    obtain ⟨rfl, hr⟩ := UnaryPhrase.eq_of_append a b h
    exact ⟨rfl, hr⟩
  | .group a, .group b, h => by
    simp only [UnaryPhrase.tokens, List.cons_append, List.cons.injEq, true_and,
      List.append_assoc] at h
    obtain ⟨rfl, hr⟩ := OrPhrase.eq_of_append (by simp) (by simp) (by simp) (by simp) a b h
    exact ⟨rfl, by simpa using hr⟩
  | .predicate a ha, .predicate b hb, h => by
    obtain ⟨rfl, hr⟩ := Predicate.tokens_injective ha hb h
    exact ⟨rfl, hr⟩
  | .not _, .group _, h | .group _, .not _, h => by simp [UnaryPhrase.tokens] at h
  | .predicate _ _, .not _, h | .predicate _ _, .group _, h =>
    absurd h (Predicate.tokens_ne_cons (by simp) (by simp))
  | .not _, .predicate _ _, h | .group _, .predicate _ _, h =>
    absurd h.symm (Predicate.tokens_ne_cons (by simp) (by simp))
termination_by structural a => a

end

/-- Tokens make up one phrase at most. -/
theorem OrPhrase.tokens_injective {a b : OrPhrase} (h : a.tokens = b.tokens) : a = b := by
  have hnil : ∀ token : Token, ([] : List Token).head? ≠ some token := by simp
  exact (OrPhrase.eq_of_append (hnil _) (hnil _) (hnil _) (hnil _) a b (by rw [h])).1

end Query

end RecordQuery
