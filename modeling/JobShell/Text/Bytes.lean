/-!
Byte strings, and the text they hold when they are valid UTF-8.
-/

namespace JobShell

/-- A byte string. -/
abbrev Bytes := List UInt8

namespace Bytes

/-- The UTF-8 form of a text. -/
def ofString (s : String) : Bytes := s.toUTF8.toList

/-- The text with this UTF-8 form, if there is one. -/
def text? (bytes : Bytes) : Option String := String.fromUTF8? ⟨bytes.toArray⟩

/-- One byte for each character, for texts whose characters are all below U+0100. -/
def ofLatin (cs : List Char) : Bytes := cs.map fun c => UInt8.ofNat c.toNat

/-- One character for each byte. -/
def toLatin (bytes : Bytes) : List Char := bytes.map fun b => Char.ofNat b.toNat

/-- How many bytes after this first byte belong to its sequence, and the least and greatest second
byte; `none` for a byte that begins no sequence. -/
def sequenceTail (first : Nat) : Option (Nat × Nat × Nat) :=
  if first < 0x80 then some (0, 0, 0)
  else if first < 0xc2 then none
  else if first < 0xe0 then some (1, 0x80, 0xbf)
  else if first = 0xe0 then some (2, 0xa0, 0xbf)
  else if first = 0xed then some (2, 0x80, 0x9f)
  else if first < 0xf0 then some (2, 0x80, 0xbf)
  else if first = 0xf0 then some (3, 0x90, 0xbf)
  else if first < 0xf4 then some (3, 0x80, 0xbf)
  else if first = 0xf4 then some (3, 0x80, 0x8f)
  else none

/-- The number of bytes after `first` that continue its sequence, out of those at hand. -/
def continuation (first : UInt8) (rest : Bytes) : Nat :=
  match sequenceTail first.toNat with
  | none => 0
  | some (0, _, _) => 0
  | some (n, lo, hi) =>
    match rest with
    | [] => 0
    | second :: more =>
      if lo ≤ second.toNat ∧ second.toNat ≤ hi then
        1 + ((more.take (n - 1)).takeWhile fun b => 0x80 ≤ b.toNat && b.toNat ≤ 0xbf).length
      else 0

/-- The text with each ill-formed stretch shown as one U+FFFD. -/
def lossyText (bytes : Bytes) : String :=
  match bytes with
  | [] => ""
  | first :: rest =>
    let n := continuation first rest
    let shown := (text? (first :: rest.take n)).getD "\ufffd"
    shown ++ lossyText (rest.drop n)
termination_by bytes.length
decreasing_by
  rw [List.length_drop, List.length_cons]
  omega

end Bytes

end JobShell
