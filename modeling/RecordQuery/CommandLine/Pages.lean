import RecordQuery.Text.Case

/-! The texts that the command line shows about queries: an overview and a page for each topic. -/

namespace RecordQuery.CommandLine

/-- A text of these lines, each of them ended by a line break. -/
def page (lines : List String) : String :=
  String.join (lines.map (· ++ "\n"))

/-- The list of the topics, with some examples. -/
def overview : String := page [
  "TQL DOCUMENTATION",
  "",
  "TQL is a small query language for record filters. A query combines",
  "predicates on fields with 'and', 'or' and 'not', and can be translated into",
  "an embedded expression language (EL), a document-store criteria document,",
  "or evaluated directly on JSON records.",
  "",
  "DOCUMENTATION CATEGORIES",
  "",
  "  syntax            Fields, literals, grouping and the canonical form",
  "  operators         Comparisons, ranges, membership, text and state checks",
  "  patterns          Character and word patterns for complies/wordComplies",
  "  policies          Lowering to EL: generic, storage and runtime policies",
  "  backends          Raising EL, criteria documents and record filtering",
  "",
  "QUICK REFERENCE",
  "",
  "  age >= 18                      Comparison",
  "  age between [18, 65[           Range, ']' or '[' mark open ends",
  "  code in [1, 2, 3]              Membership",
  "  name ~ '^[A-Z]'                Regex",
  "  * is empty                     Any field is empty",
  "  not (a = 1) and b = 2          Composition",
  "",
  "Run 'tql doc <category>' for detailed documentation."]

/-- How queries are written. -/
def syntaxPage : String := page [
  "SYNTAX",
  "",
  "FIELDS",
  "  name                 Simple field",
  "  address.city         Nested field, dot separated",
  "  *                    Every field (only meaningful in 'is' checks)",
  "",
  "LITERALS",
  "  12, -3               INT",
  "  12.5, -0.25          DECIMAL, the written text is kept ('99.20' stays '99.20')",
  "  true, false          BOOLEAN",
  "  'text'               QUOTED_VALUE, '\\'' escapes a quote",
  "",
  "  A quoted literal ends at the first unescaped quote. Characters glued to",
  "  the closing quote are dropped:",
  "    name = 'abc'def    is read as    name = 'abc'",
  "",
  "COMPOSITION",
  "  a and b              Both hold",
  "  a or b               Either holds",
  "  not (a)              Negation, parentheses required",
  "  (a or b) and c       Grouping",
  "",
  "  'and' binds tighter than 'or'. Keywords are case sensitive.",
  "",
  "CANONICAL FORM",
  "  Every query is stored as a disjunction of conjunctions and printed with",
  "  each predicate in parentheses:",
  "",
  "    age > 18 and country = 'FR'",
  "    =>",
  "    ((age > 18) and (country = 'FR'))",
  "",
  "  'tql check' prints that form. Parsing it again gives the same tree."]

/-- The predicates. -/
def operatorsPage : String := page [
  "OPERATORS",
  "",
  "COMPARISON",
  "  =  !=  <  >  <=  >=",
  "    age >= 18",
  "    country != 'FR'",
  "    start < end              A bare name on the right is another field",
  "",
  "RANGE",
  "  field between [low, high]  Closed on both ends",
  "    age between [18, 65]",
  "    age between ]18, 65]     Lower end open",
  "    age between [18, 65[     Upper end open",
  "",
  "  Bounds are literals of the same family: numbers (INT and DECIMAL mix)",
  "  or quoted values. Booleans and field names are rejected.",
  "",
  "MEMBERSHIP",
  "  code in [11, 22.22, true]",
  "    Values are literals; field names are rejected.",
  "",
  "TEXT",
  "  name contains 'oh'",
  "  name containsIgnoreCase 'OH'",
  "  name ~ '^[A-Z][a-z]*$'     Regular expression",
  "  code complies 'AA-999'     Character pattern (see 'tql doc patterns')",
  "  name wordComplies '[Word] [Word]'",
  "",
  "STATE",
  "  name is null",
  "  name is empty",
  "  name is valid              Valid for its declared type",
  "  name is invalid",
  "",
  "  '*' may replace the field in every state check:",
  "    * is empty"]

/-- The patterns of characters and of words. -/
def patternsPage : String := page [
  "PATTERNS",
  "",
  "CHARACTER PATTERNS (complies)",
  "  Each character stands for a class; runs are folded ('aaa' = 3 letters).",
  "",
  "    a    lowercase latin letter",
  "    A    uppercase latin letter",
  "    9    digit (ASCII or full-width)",
  "    h    hiragana",
  "    k    half-width katakana",
  "    K    full-width katakana",
  "    C    ideogram",
  "    G    hangul syllable",
  "",
  "  Anything else matches itself.",
  "",
  "    code complies 'AA-999'   matches 'FR-123'",
  "",
  "WORD PATTERNS (wordComplies)",
  "  Bracketed tokens match one word each; other text matches itself.",
  "",
  "    [word]        lowercase word",
  "    [Word]        capitalised word",
  "    [digit]       one digit, '[Number]' is an alias",
  "    [char]        single lowercase letter",
  "    [Char]        single uppercase letter",
  "    [alnum]       letters and digits",
  "    [Ideogram]    one ideogram, '[IdeogramSeq]' for several",
  "    [hira]        one hiragana, '[hiraSeq]' for several",
  "    [kata]        one katakana, '[kataSeq]' for several",
  "    [hangul]      one hangul syllable, '[hangulSeq]' for several",
  "",
  "  Unknown bracket content is matched literally, brackets included.",
  "  An unterminated '[' is an error.",
  "",
  "    name wordComplies '[Word] [Word]'   matches 'John Smith'"]

/-- The policies of lowering. -/
def policiesPage : String := page [
  "POLICIES",
  "",
  "'tql lower' translates a query into EL text. Three policies differ in how",
  "they handle '*', the 'contains' flag and ordering comparisons.",
  "",
  "  tql lower \"age > 18 and name containsIgnoreCase 'jo'\"",
  "  =>",
  "  age > 18 && contains(name, 'jo', false)",
  "",
  "GENERIC (default)",
  "  '*' is rejected.",
  "  contains gets a third argument only when ignoring case.",
  "",
  "STORAGE",
  "  * is empty       =>  hasEmpty(*)",
  "  * is invalid     =>  hasInvalid(*)",
  "  Other '*' checks are rejected.",
  "",
  "RUNTIME",
  "  '*' expands over the field type dictionary, in dictionary order:",
  "    * is empty     =>  isEmpty(a) || isEmpty(b)",
  "    * is valid     =>  isValid(a, 'INT') && isValid(b, 'STRING')",
  "  contains always gets its case flag.",
  "  Ordering comparisons are guarded by a numeric check:",
  "    age > 18       =>  matches(age, '^-?\\d+(\\.\\d+)?$') && age > 18",
  "",
  "FIELD TYPES",
  "  'is valid', 'is invalid' and runtime expansion need a dictionary:",
  "",
  "    tql lower \"age is valid\" --types types.json",
  "",
  "  types.json:",
  "    \x7b\"age\": \"INT\", \"name\": \"STRING\"\x7d",
  "",
  "LITERALS",
  "  INT that fits 32 bits     123",
  "  INT that fits 64 bits     3000000000L",
  "  Larger INT, DECIMAL       written as is"]

/-- What queries are turned into, and what they are read back from. -/
def backendsPage : String := page [
  "BACKENDS",
  "",
  "RAISE (EL to TQL)",
  "  tql raise \"between(age, 18, 65) && !(isNull(name))\"",
  "  =>",
  "  ((age between [18, 65]) and (not ((name is null))))",
  "",
  "  Understands the functions lowering emits: isNull, isEmpty, isValid,",
  "  isInvalid, hasEmpty, hasInvalid, matches, contains, between, in,",
  "  complies, wordComplies, and the operators == != < > <= >= && || !.",
  "  Arithmetic, conditionals, switch and arrays are rejected.",
  "",
  "  Output of the runtime policy needs --policy runtime, which turns each",
  "  numeric guard group back into its comparison:",
  "",
  "    tql raise --policy runtime \"matches(age, '^-?\\d+(\\.\\d+)?$') && age > 18\"",
  "    =>",
  "    (age > 18)",
  "",
  "CRITERIA",
  "  tql criteria \"age >= 18 and name contains 'jo'\"",
  "  =>",
  "  \x7b\"$and\":[\x7b\"age\":\x7b\"$gte\":18\x7d\x7d," ++
    "\x7b\"name\":\x7b\"$regex\":\"jo\"\x7d\x7d]\x7d",
  "",
  "  '*' and validity checks have no criteria equivalent.",
  "",
  "FILTER",
  "  tql filter \"age >= 18\" --input '[\x7b\"age\": 20\x7d, \x7b\"age\": 12\x7d]'",
  "  =>",
  "  \x7b\"age\":20\x7d",
  "",
  "  Records are read from --input or stdin, as a JSON array or one JSON",
  "  value per line. Matching records are printed one per line.",
  "",
  "  Equality ignores case and compares numbers by value. Ordering needs",
  "  numbers on both sides. Missing fields read as null."]

/-- What there is a page about. -/
inductive Topic where
  | grammar
  | operators
  | patterns
  | policies
  | backends
deriving DecidableEq, Repr

namespace Topic

/-- The page of a topic. -/
def text : Topic → String
  | .grammar => syntaxPage
  | .operators => operatorsPage
  | .patterns => patternsPage
  | .policies => policiesPage
  | .backends => backendsPage

/-- The topic of a name in lower case. -/
def ofLowerName? (name : String) : Option Topic :=
  if name = "syntax" then some .grammar
  else if name ∈ ["operators", "ops", "predicates"] then some .operators
  else if name ∈ ["patterns", "pattern", "complies"] then some .patterns
  else if name ∈ ["policies", "policy", "lowering", "el"] then some .policies
  else if name ∈ ["backends", "backend", "criteria", "raise", "filter"] then some .backends
  else none

/-- The topic of a name, in any case. -/
def ofName? (name : String) : Option Topic :=
  ofLowerName? (Text.lowerCase name)

end Topic

end RecordQuery.CommandLine
