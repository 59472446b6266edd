import RecordQuery.Regex.Normal
import RecordQuery.Regex.SetStates

/-! How much room the program of a regular expression takes. The program is built twice: to read
texts forward, and to read them backward. -/

namespace RecordQuery.Regex

namespace Build

/-- Texts by their first byte, without it and in the same order; empty texts are left out. -/
def byFirst : List (List Nat) → List (Nat × List (List Nat))
  | [] => []
  | [] :: texts => byFirst texts
  | (byte :: rest) :: texts =>
    let groups := byFirst texts
    if groups.any (·.1 == byte) then
      groups.map fun group => if group.1 = byte then (byte, rest :: group.2) else group
    else (byte, [rest]) :: groups

/-- Runs of texts that are not empty. -/
def runs : List (List Nat) → List (List (List Nat))
  | [] => []
  | [] :: texts => runs texts
  | text :: [] :: texts => [text] :: runs texts
  | text :: texts =>
    match runs texts with
    | [] => [[text]]
    | run :: runs => (text :: run) :: runs

/-- Adds the states that read one of several texts, none longer than `length`. Texts that begin
alike share their beginnings, but not across a text that ends there, since those before it are
preferred to it and it is preferred to those after it. -/
def texts : (length : Nat) → List (List Nat) → Build Unit
  | 0, _ => pure ()
  | length + 1, all => do
    let ends := match all with
      | [] :: more => 1 + (more.dropWhile List.isEmpty).countP List.isEmpty
      | all => all.countP List.isEmpty
    let runs := runs all
    for run in runs do
      let groups := byFirst run
      for group in groups do
        if group.2.any (!·.isEmpty) then texts length group.2
      let _ ← state (if groups.length = 1 then 0 else spanSize * groups.length)
    let _ ← state (wayOutSize * (runs.length + ends))

/-- The bytes of a part that is a text. -/
def text? : Normal → Option (List Nat)
  | .literal bytes => some bytes
  | _ => none

/-- Adds the states that read one of several texts. -/
def someText (backward : Bool) (all : List (List Nat)) : Build Bool := do
  states 1
  texts ((all.map List.length).foldl max 0) (if backward then all.map List.reverse else all)
  return false

mutual

/-- Adds a part of a program. -/
def part (backward : Bool) : Normal → Build Bool
  | .empty | .look _ => do
    states 1
    return false
  | .literal bytes => do
    states bytes.length
    return false
  | .among chars => among backward chars
  | .times inner least most _ =>
    times (part backward inner) (inner.fewest?.any (0 < ·)) least most
  | .capture inner =>
    if backward then part backward inner
    else do
      states 1
      let several ← part backward inner
      states 1
      wayOut several
      return false
  | .sequence parts => do
    let last ← if backward then before parts else behind none parts
    return last.getD false
  | .choice parts =>
    match parts.mapM text? with
    | some all => someText backward all
    | none => do
      branches backward 0 parts
      return false
termination_by structural normal => normal

/-- Adds parts one behind the other, after one that ended in several ways or not. -/
def behind (several : Option Bool) : List Normal → Build (Option Bool)
  | [] => pure several
  | first :: parts => do
    let next ← part false first
    wayOut (several.getD false)
    behind (some next) parts
termination_by structural parts => parts

/-- Adds parts one before the other, the last one first. -/
def before : List Normal → Build (Option Bool)
  | [] => pure none
  | first :: parts => do
    let several ← before parts
    let next ← part true first
    wayOut (several.getD false)
    return some next
termination_by structural parts => parts

/-- Adds parts side by side, of which `done` are there already, and the states around them. -/
def branches (backward : Bool) (done : Nat) : List Normal → Build Unit
  | [] => pure ()
  | first :: parts => do
    let several ← part backward first
    if done = 1 then states 2
    spend wayOutSize
    wayOut several
    branches backward (done + 1) parts
termination_by structural parts => parts

end

/-- Adds a whole program. Where a match need not begin at the start of a text, or backward at its
end, states before it skip bytes. The whole match is remembered, but not backward. -/
def program (backward : Bool) (normal : Normal) : Build Unit := do
  if normal.mustMeet (if backward then .textEnd else .textStart) backward then states 1
  else
    let _ ← state (2 * wayOutSize)
    states 1
    let _ ← state spanSize
  let several ← part backward (if backward then normal else .capture normal)
  states 1
  wayOut several

end Build

/-- Whether the programs of a regular expression take no more than so many bytes each. -/
def programFits (regex : Regex) (bytes : Nat) : Bool :=
  let normal := regex.normal
  [false, true].all fun backward => ((Build.program backward normal).run ⟨0, bytes⟩).isSome

end RecordQuery.Regex
