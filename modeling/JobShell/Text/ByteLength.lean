/-!
The bytes that characters take in UTF-8.

A text can be cut at a byte only where a character ends: `dropBytes?` and `takeBytes?` give the two
halves of such a cut, and `byteLength_dropBytes?` says how much the first of them leaves.
-/

namespace JobShell.Text

/-- The number of bytes that characters take. -/
def byteLength (cs : List Char) : Nat := cs.foldr (fun c n => c.utf8Size + n) 0

/-- What follows the first `n` bytes, if a character ends there. -/
def dropBytes? : Nat → List Char → Option (List Char)
  | 0, cs => some cs
  | _ + 1, [] => none
  | n + 1, c :: cs => if c.utf8Size ≤ n + 1 then dropBytes? (n + 1 - c.utf8Size) cs else none

/-- The first `n` bytes, if a character ends there. -/
def takeBytes? : Nat → List Char → Option (List Char)
  | 0, _ => some []
  | _ + 1, [] => none
  | n + 1, c :: cs =>
    if c.utf8Size ≤ n + 1 then (takeBytes? (n + 1 - c.utf8Size) cs).map (c :: ·) else none

/-- The bytes from `start` up to `stop`, if both are ends of characters. -/
def sliceBytes? (start stop : Nat) (cs : List Char) : Option (List Char) :=
  (dropBytes? start cs).bind (takeBytes? (stop - start))

@[simp] theorem byteLength_nil : byteLength [] = 0 := rfl

@[simp] theorem byteLength_cons (c : Char) (cs : List Char) :
    byteLength (c :: cs) = c.utf8Size + byteLength cs := rfl

theorem byteLength_dropBytes? {n : Nat} {cs rest : List Char} (h : dropBytes? n cs = some rest) :
    n + byteLength rest = byteLength cs := by
  induction cs generalizing n with
  | nil =>
    cases n with
    | zero => cases h; rfl
    | succ n => cases h
  | cons c cs ih =>
    cases n with
    | zero => cases h; simp
    | succ n =>
      unfold dropBytes? at h
      split at h
      · have := ih h
        simp only [byteLength_cons]
        omega
      · cases h

end JobShell.Text
