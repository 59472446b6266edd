/-! Building a program within limited room. A program is a list of states, numbered in the order in
which they are added. What the states do plays no part here, only how much room they take, and
whether a part ends in several ways, as each way out of it then takes room. -/

namespace RecordQuery.Regex

/-- A program as far as it is built: how many states it has, and how many bytes are left. -/
structure Draft where
  states : Nat
  room : Nat

/-- A step of building, which fails when there is no room left. -/
abbrev Build := StateT Draft Option

namespace Build

/-- The bytes that every state takes. -/
def stateSize : Nat := 32

/-- The bytes that a way out of a state to one of several others takes. -/
def wayOutSize : Nat := 4

/-- The bytes that a span of bytes takes in a state that reads one of several. -/
def spanSize : Nat := 8

/-- Takes room. -/
def spend (bytes : Nat) : Build Unit := fun draft =>
  if bytes ≤ draft.room then some ((), { draft with room := draft.room - bytes }) else none

/-- Adds a state that takes so many bytes more than every state does, and gives its number. -/
def state (bytes : Nat) : Build Nat := fun draft =>
  let size := stateSize + bytes
  if size ≤ draft.room then some (draft.states, ⟨draft.states + 1, draft.room - size⟩) else none

/-- Adds states that take no more bytes than every state does. -/
def states (count : Nat) : Build Unit := fun draft =>
  let size := stateSize * count
  if size ≤ draft.room then some ((), ⟨draft.states + count, draft.room - size⟩) else none

/-- Adds a way out behind a part; it takes room only where the part ends in several ways. -/
def wayOut (several : Bool) : Build Unit :=
  if several then spend wayOutSize else pure ()

/-- Adds parts one behind the other, `count` more after the first, which ended in several ways or
not. -/
def copies (part : Build Bool) : (count : Nat) → (several : Bool) → Build Bool
  | 0, several, draft => some (several, draft)
  | count + 1, several, draft =>
    match part draft with
    | none => none
    | some (next, draft) =>
      match wayOut several draft with
      | none => none
      | some (_, draft) => copies part count next draft

/-- Adds a part so many times; no time at all is a state that does nothing. -/
def exactly (part : Build Bool) : (count : Nat) → Build Bool
  | 0 => do
    states 1
    return false
  | count + 1 => do copies part count (← part)

/-- Adds a part that may be left out, `count` times, each only after the one before. -/
def optional (part : Build Bool) : (count : Nat) → (several : Bool) → Build Bool
  | 0, several, draft => some (several, draft)
  | count + 1, several, draft =>
    match (do
      let _ ← state (2 * wayOutSize)
      let next ← part
      wayOut several
      return next : Build Bool) draft with
    | none => none
    | some (next, draft) => optional part count next draft

/-- Adds a part `least` times and from there on as often as there is need; `takesSome` says that
every match of the part is known to take something. -/
def atLeast (part : Build Bool) (takesSome : Bool) (least : Nat) : Build Bool := do
  if least = 0 then
    if takesSome then
      let _ ← state wayOutSize
      wayOut (← part)
      return true
    else
      let several ← part
      let _ ← state (2 * wayOutSize)
      let _ ← state (2 * wayOutSize)
      states 1
      wayOut several
      return false
  else
    let several ← exactly part least
    let _ ← state wayOutSize
    wayOut several
    return true

/-- Adds a repetition of a part. -/
def times (part : Build Bool) (takesSome : Bool) (least : Nat) (most : Option Nat) :
    Build Bool := do
  match most with
  | none => atLeast part takesSome least
  | some most =>
    if least = most then exactly part least
    else if least = 0 ∧ most = 1 then
      let _ ← state (2 * wayOutSize)
      let several ← part
      states 1
      wayOut several
      return false
    else
      let several ← exactly part least
      states 1
      wayOut (← optional part (most - least) several)
      return false

end Build

end RecordQuery.Regex
