import JobShell.Reader.Stream

/-!
# The segments of a byte stream

A segment is a line with the line feed that ends it; the last one may lack it.  Put together the
segments are the stream (`flatten_segments`), there is one for each line feed and one for bytes
behind the last (`length_segments`), and a reader takes one at a time (`segments_eq_cons`).
-/

namespace JobShell

def segments : Bytes → List Bytes
  | [] => []
  | b :: rest =>
    if b = lineFeed then [b] :: segments rest
    else match segments rest with
      | [] => [[b]]
      | segment :: more => (b :: segment) :: more

theorem segments_lineFeed (rest : Bytes) :
    segments (lineFeed :: rest) = [lineFeed] :: segments rest := by
  rw [segments, if_pos rfl]

theorem segments_cons_of_nil {b : UInt8} {rest : Bytes} (hb : b ≠ lineFeed)
    (h : segments rest = []) : segments (b :: rest) = [[b]] := by
  rw [segments, if_neg hb, h]

theorem segments_cons_of_cons {b : UInt8} {rest segment : Bytes} {more : List Bytes}
    (hb : b ≠ lineFeed) (h : segments rest = segment :: more) :
    segments (b :: rest) = (b :: segment) :: more := by
  rw [segments, if_neg hb, h]

theorem segments_eq_nil {input : Bytes} : segments input = [] ↔ input = [] := by
  constructor
  · intro h
    cases input with
    | nil => rfl
    | cons b rest =>
      by_cases hb : b = lineFeed
      · rw [hb, segments_lineFeed] at h
        cases h
      · cases hrest : segments rest with
        | nil =>
          rw [segments_cons_of_nil hb hrest] at h
          cases h
        | cons segment more =>
          rw [segments_cons_of_cons hb hrest] at h
          cases h
  · rintro rfl
    rfl

theorem flatten_segments (input : Bytes) : (segments input).flatten = input := by
  induction input with
  | nil => rfl
  | cons b rest ih =>
    by_cases hb : b = lineFeed
    · rw [hb, segments_lineFeed, List.flatten_cons, ih]
      rfl
    · cases hrest : segments rest with
      | nil =>
        rw [segments_cons_of_nil hb hrest, segments_eq_nil.mp hrest]
        rfl
      | cons segment more =>
        rw [segments_cons_of_cons hb hrest]
        rw [hrest] at ih
        rw [← ih]
        rfl

/-- There is a segment for each line feed, and one more when the stream goes on behind the last. -/
theorem length_segments (input : Bytes) : (segments input).length =
    input.count lineFeed + (if input.getLast? = none ∨ input.getLast? = some lineFeed then 0
      else 1) := by
  induction input with
  | nil => rfl
  | cons b rest ih =>
    by_cases hb : b = lineFeed
    · rw [hb, segments_lineFeed, List.length_cons, ih, List.count_cons_self]
      cases rest with
      | nil => rfl
      | cons c rest =>
        rw [List.getLast?_cons_cons]
        omega
    · rw [List.count_cons_of_ne hb]
      cases rest with
      | nil =>
        rw [segments_cons_of_nil hb rfl, List.getLast?_singleton,
          if_neg (by simpa using hb)]
        rfl
      | cons c rest =>
        rw [List.getLast?_cons_cons, ← ih]
        cases hrest : segments (c :: rest) with
        | nil =>
          cases segments_eq_nil.mp hrest
        | cons segment more =>
          rw [segments_cons_of_cons hb hrest]
          rfl

/-! ## What a reader takes -/

theorem cutLine_lineFeed (rest : Bytes) : cutLine (lineFeed :: rest) = ([lineFeed], rest) := rfl

theorem cutLine_cons_of_ne {b : UInt8} (hb : b ≠ lineFeed) (rest : Bytes) :
    cutLine (b :: rest) = (b :: (cutLine rest).1, (cutLine rest).2) := by
  have hkeep : (b != lineFeed) = true := by simpa using hb
  unfold cutLine
  simp only [List.takeWhile_cons, List.dropWhile_cons, hkeep, if_true]
  cases rest.dropWhile (· != lineFeed) <;> rfl

/-- A cut takes the first segment. -/
theorem segments_eq_cons {input : Bytes} (h : input ≠ []) :
    segments input = (cutLine input).1 :: segments (cutLine input).2 := by
  induction input with
  | nil => exact absurd rfl h
  | cons b rest ih =>
    by_cases hb : b = lineFeed
    · rw [hb, segments_lineFeed, cutLine_lineFeed]
    · rw [cutLine_cons_of_ne hb]
      cases rest with
      | nil => exact segments_cons_of_nil hb rfl
      | cons c rest => exact segments_cons_of_cons hb (ih (List.cons_ne_nil c rest))

/-- No segment is empty. -/
theorem length_segments_le (input : Bytes) : (segments input).length ≤ input.length := by
  induction hn : input.length using Nat.strongRecOn generalizing input with
  | _ n ih =>
    by_cases h : input = []
    · rw [h]
      exact Nat.zero_le _
    · have hrest := length_cutLine_rest_lt h
      have hle := ih _ (hn ▸ hrest) _ rfl
      rw [segments_eq_cons h, List.length_cons]
      omega

end JobShell
