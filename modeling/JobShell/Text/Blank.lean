/-!
White space and the words of a line.

`words` cuts a text at every run of characters with the property White_Space; the words are the
maximal runs of the other characters (`words_cons`), so each is non-empty and free of white space
(`mem_words`).
-/

namespace JobShell.Text

/-- The property White_Space. -/
def isBlank (c : Char) : Bool :=
  let n := c.toNat
  (9 ≤ n && n ≤ 13) || n == 0x20 || n == 0x85 || n == 0xa0 || n == 0x1680 ||
    (0x2000 ≤ n && n ≤ 0x200a) || n == 0x2028 || n == 0x2029 || n == 0x202f || n == 0x205f ||
    n == 0x3000

/-- A text without the white space at its end. -/
def trimRight (cs : List Char) : List Char := (cs.reverse.dropWhile isBlank).reverse

/-- A text without the white space around it. -/
def trim (cs : List Char) : List Char := trimRight (cs.dropWhile isBlank)

theorem length_dropWhile_le {α : Type} (p : α → Bool) (xs : List α) :
    (xs.dropWhile p).length ≤ xs.length :=
  (List.dropWhile_sublist p).length_le

/-- The maximal runs of characters that are not white space, in order. -/
def words (cs : List Char) : List (List Char) :=
  match _h : cs.dropWhile isBlank with
  | [] => []
  | c :: rest =>
    (c :: rest.takeWhile (!isBlank ·)) :: words (rest.dropWhile (!isBlank ·))
termination_by cs.length
decreasing_by
  have h₁ := length_dropWhile_le isBlank cs
  have h₂ := length_dropWhile_le (!isBlank ·) rest
  rw [_h] at h₁
  simp at h₁
  omega

theorem words_nil : words [] = [] := by
  rw [words.eq_def]; rfl

theorem words_eq_nil {cs : List Char} (h : cs.dropWhile isBlank = []) : words cs = [] := by
  rw [words.eq_def]
  split
  · rfl
  · rename_i heq; rw [h] at heq; cases heq

theorem words_cons {cs rest : List Char} {c : Char} (h : cs.dropWhile isBlank = c :: rest) :
    words cs = (c :: rest.takeWhile (!isBlank ·)) :: words (rest.dropWhile (!isBlank ·)) := by
  rw [words.eq_def]
  split
  · rename_i heq; rw [h] at heq; cases heq
  · rename_i heq; rw [h] at heq; cases heq; rfl

theorem isBlank_of_dropWhile {cs rest : List Char} {c : Char}
    (h : cs.dropWhile isBlank = c :: rest) : isBlank c = false := by
  have := List.head_dropWhile_not isBlank (l := cs) (by rw [h]; simp)
  simpa [h] using this

theorem mem_words {cs w : List Char} (h : w ∈ words cs) : w ≠ [] ∧ ∀ c ∈ w, isBlank c = false := by
  induction hn : cs.length using Nat.strongRecOn generalizing cs with
  | _ n ih =>
    match hd : cs.dropWhile isBlank with
    | [] => rw [words_eq_nil hd] at h; cases h
    | c :: rest =>
      rw [words_cons hd] at h
      rcases List.mem_cons.mp h with rfl | h
      · refine ⟨by simp, fun d hmem => ?_⟩
        rcases List.mem_cons.mp hmem with rfl | hmem
        · exact isBlank_of_dropWhile hd
        · simpa using List.all_eq_true.mp List.all_takeWhile d hmem
      · have h₁ := length_dropWhile_le isBlank cs
        have h₂ := length_dropWhile_le (!isBlank ·) rest
        rw [hd] at h₁
        simp at h₁
        exact ih _ (by omega) h rfl

end JobShell.Text
