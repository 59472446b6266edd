import RecordQuery.Text.Span

/-! Characters as bytes in UTF-8, and spans of characters as sequences of spans of bytes. A sequence
stands for every choice of one byte from each of its spans. -/

namespace RecordQuery.Text.Utf8

/-- The bytes of a code point. -/
def bytes (code : Nat) : List Nat :=
  let further := fun shift => 0x80 + code / shift % 64
  if code < 0x80 then [code]
  else if code < 0x800 then [0xC0 + code / 64, further 1]
  else if code < 0x10000 then [0xE0 + code / 4096, further 64, further 1]
  else [0xF0 + code / 262144, further 4096, further 64, further 1]

/-- Cuts the code points from `first` to `last` where a block of the given sizes, from the smallest
up, is not there as a whole. -/
def cut : (blocks : List Nat) → (first last : Nat) → List Span
  | [], first, last => [⟨first, last⟩]
  | block :: blocks, first, last =>
    if first / block = last / block then [⟨first, last⟩]
    else
      let start := (first + block - 1) / block * block
      let stop := (last + 1) / block * block
      let head := if first < start then [⟨first, start - 1⟩] else []
      let tail := if stop ≤ last then [⟨stop, last⟩] else []
      head ++ (if start < stop then cut blocks start (stop - 1) else []) ++ tail

/-- The characters of one, two, three and four bytes; surrogates are left out. -/
def lengths : List Span :=
  [⟨0x0, 0x7F⟩, ⟨0x80, 0x7FF⟩, ⟨0x800, 0xD7FF⟩, ⟨0xE000, 0xFFFF⟩, ⟨0x10000, 0x10FFFF⟩]

/-- The sequences of spans of bytes for a span of characters, in rising order. -/
def sequences (span : Span) : List (List Span) :=
  lengths.flatMap fun length =>
    let first := max span.first length.first
    let last := min span.last length.last
    if first ≤ last then
      let pieces := if last < 0x80 then [⟨first, last⟩] else cut [64, 4096, 262144] first last
      pieces.map fun piece => List.zipWith Span.mk (bytes piece.first) (bytes piece.last)
    else []

end RecordQuery.Text.Utf8
