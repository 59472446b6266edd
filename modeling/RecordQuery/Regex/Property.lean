import RecordQuery.Regex.Age
import RecordQuery.Regex.GraphemeBreak
import RecordQuery.Regex.PropertyTable
import RecordQuery.Regex.Script
import RecordQuery.Regex.SentenceBreak
import RecordQuery.Regex.WordBreak

/-! The names of properties of characters. Case, blanks, hyphens and underscores do not matter in
them, nor do characters beyond ASCII, nor does `is` at the start. -/

namespace RecordQuery.Regex.Property

/-- The characters of a name that matter in it. -/
def plainName (chars : List Char) : List Char :=
  (chars.filter fun c => c.toNat < 128 && c != ' ' && c != '_' && c != '-').map Char.toLower

/-- A name without what does not matter in it. The name `isc` is not that of the category `c`. -/
def normalName (name : String) : String :=
  match name.toList with
  | i :: s :: rest =>
    if i.toLower = 'i' ∧ s.toLower = 's' then
      let rest := plainName rest
      if rest = ['c'] then "isc" else String.ofList rest
    else String.ofList (plainName (i :: s :: rest))
  | chars => String.ofList (plainName chars)

/-- Every code point has it. -/
def any : Property := ofSpans [⟨0x0, 0x10FFFF⟩]

/-- Characters that have a meaning. -/
def assigned : Property := ⟨[.lu, .ll, .lt, .lm, .lo, .mn, .mc, .me, .nd, .nl, .no, .pc, .pd, .ps,
  .pe, .pi, .pf, .po, .sm, .sc, .sk, .so, .zs, .zl, .zp, .cc, .cf, .cs, .co], [], []⟩

/-- The names of the general categories and of their groups. -/
def categoryNames : List (List String × Property) := [
  (["any"], any), (["assigned"], assigned), (["ascii"], ofSpans [⟨0x0, 0x7F⟩]),
  (["lu", "uppercaseletter"], ofCategories [.lu]),
  (["ll", "lowercaseletter"], ofCategories [.ll]),
  (["lt", "titlecaseletter"], ofCategories [.lt]),
  (["lc", "casedletter"], ofCategories [.lu, .ll, .lt]),
  (["lm", "modifierletter"], ofCategories [.lm]),
  (["lo", "otherletter"], ofCategories [.lo]),
  (["l", "letter"], ofCategories [.lu, .ll, .lt, .lm, .lo]),
  (["mn", "nonspacingmark"], ofCategories [.mn]),
  (["mc", "spacingmark"], ofCategories [.mc]),
  (["me", "enclosingmark"], ofCategories [.me]),
  (["m", "mark", "combiningmark"], ofCategories [.mn, .mc, .me]),
  (["nd", "decimalnumber", "digit"], ofCategories [.nd]),
  (["nl", "letternumber"], ofCategories [.nl]),
  (["no", "othernumber"], ofCategories [.no]),
  (["n", "number"], ofCategories [.nd, .nl, .no]),
  (["pc", "connectorpunctuation"], ofCategories [.pc]),
  (["pd", "dashpunctuation"], ofCategories [.pd]),
  (["ps", "openpunctuation"], ofCategories [.ps]),
  (["pe", "closepunctuation"], ofCategories [.pe]),
  (["pi", "initialpunctuation"], ofCategories [.pi]),
  (["pf", "finalpunctuation"], ofCategories [.pf]),
  (["po", "otherpunctuation"], ofCategories [.po]),
  (["p", "punctuation", "punct"], ofCategories [.pc, .pd, .ps, .pe, .pi, .pf, .po]),
  (["sm", "mathsymbol"], ofCategories [.sm]),
  (["sc", "currencysymbol"], ofCategories [.sc]),
  (["sk", "modifiersymbol"], ofCategories [.sk]),
  (["so", "othersymbol"], ofCategories [.so]),
  (["s", "symbol"], ofCategories [.sm, .sc, .sk, .so]),
  (["zs", "spaceseparator"], ofCategories [.zs]),
  (["zl", "lineseparator"], ofCategories [.zl]),
  (["zp", "paragraphseparator"], ofCategories [.zp]),
  (["z", "separator"], ofCategories [.zs, .zl, .zp]),
  (["cc", "control", "cntrl"], ofCategories [.cc]),
  (["cf", "format"], ofCategories [.cf]),
  (["co", "privateuse"], ofCategories [.co]),
  (["cn", "unassigned"], ofCategories [.cn]),
  (["c", "other"], ofCategories [.cc, .cf, .cs, .co, .cn])]

/-- The names of properties that a character has or has not. -/
def binaryNames : List (List String × Property) := [
  (["alphabetic", "alpha"], alphabetic),
  (["whitespace", "wspace", "space"], blank),
  (["lowercase", "lower"], lowercase),
  (["uppercase", "upper"], uppercase),
  (["cased"], cased),
  (["caseignorable", "ci"], caseIgnorable),
  (["otheralphabetic", "oalpha"], ofSpans (known Text.Properties.alphabeticMarks)),
  (["otherlowercase", "olower"], ofSpans (known Text.Properties.lowercaseExtras)),
  (["otheruppercase", "oupper"], ofSpans (known Text.Properties.uppercaseExtras)),
  (["othergraphemeextend", "ogrext"], ofSpans (known Text.Properties.graphemeExtendExtras))]

/-- The property of a name in a list of names. -/
def find? (names : List (List String × Property)) (name : String) : Option Property :=
  (names.find? (·.1.contains name)).map Prod.snd

/-- The script of a name. -/
def script? (name : String) : Option Script :=
  Script.all.find? (·.names.contains name)

/-- To be used in a script: its own characters and those it shares. What another script shares with
the scripts of no language is no longer theirs. -/
def ofScriptExtensions (script : Script) : Property :=
  let all := Text.Span.union script.spans (Text.Span.unionAll script.shared)
  if script.names.contains "common" || script.names.contains "inherited" then
    ofSpans (Text.Span.difference all (Text.Span.unionAll (Script.all.flatMap Script.shared)))
  else ofSpans all

/-- The property of a name that stands alone. -/
def named? (name : String) : Option Property :=
  let name := normalName name
  (find? (binaryNames ++ table ++ categoryNames) name).or
    ((script? name).map fun script => ofSpans script.spans)

/-- The property of having a value, in what another name says: a category, a script, an age, or
where text may be divided. -/
def valued? (kind name : String) : Option Property :=
  let name := normalName name
  match normalName kind with
  | "gc" | "generalcategory" => find? categoryNames name
  | "sc" | "script" => (script? name).map fun script => ofSpans script.spans
  | "scx" | "scriptextensions" => (script? name).map ofScriptExtensions
  | "age" => Version.known? name
  | "gcb" | "graphemeclusterbreak" => find? GraphemeBreak.table name
  | "wb" | "wordbreak" => find? WordBreak.table name
  | "sb" | "sentencebreak" => find? SentenceBreak.table name
  | _ => none

end RecordQuery.Regex.Property
