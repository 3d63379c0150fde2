import JobShell.Text.ByteLength
import JobShell.Text.GraphemeBreak

/-!
Extended grapheme clusters: the units in which a reader sees a text.

`clusters` cuts a text at every border that `breaksBetween` allows; the clusters in order spell the
text again.
-/

namespace JobShell.Text

/-- What the characters of the current cluster have shown so far. -/
structure ClusterState where
  last : Char
  /-- An odd number of regional indicators ends here. -/
  oddRegional : Bool
  /-- A pictograph followed by extending characters only ends here. -/
  pictograph : Bool
  /-- A pictograph, extending characters and a joiner end here. -/
  joinedPictograph : Bool
  /-- A consonant followed by extending characters only ends here. -/
  consonant : Bool
  /-- Among those extending characters is a virama. -/
  linked : Bool

/-- The state after a further character, which either opens a cluster or stays in this one. -/
def ClusterState.push (before : Option ClusterState) (c : Char) : ClusterState :=
  let cls := BreakClass.ofChar c
  let extends_ := cls = .extend
  let conjunct := conjunctConsonants.has c
  let links := conjunctLinkers.has c
  let stays := (extends_ || cls = .joiner) && c != '\u200c'
  match before with
  | none =>
    ⟨c, cls = .regional, pictographs.has c, false, conjunct, false⟩
  | some s =>
    ⟨c, cls = .regional && !s.oddRegional,
      pictographs.has c || (s.pictograph && extends_),
      s.pictograph && cls = .joiner,
      conjunct || (s.consonant && stays),
      !conjunct && s.consonant && stays && (s.linked || links)⟩

/-- The rules that keep two characters in one cluster, in the order of their standard; any two
characters that no rule joins are parted. -/
def breaksBetween (s : ClusterState) (c : Char) : Bool :=
  let left := BreakClass.ofChar s.last
  let right := BreakClass.ofChar c
  if left = .cr ∧ right = .lf then false
  else if left = .cr ∨ left = .lf ∨ left = .control then true
  else if right = .cr ∨ right = .lf ∨ right = .control then true
  else if left = .lead ∧
      (right = .lead ∨ right = .vowel ∨ right = .leadVowel ∨ right = .leadVowelTrail) then false
  else if (left = .leadVowel ∨ left = .vowel) ∧ (right = .vowel ∨ right = .trail) then false
  else if (left = .leadVowelTrail ∨ left = .trail) ∧ right = .trail then false
  else if right = .extend ∨ right = .joiner ∨ right = .spacing then false
  else if left = .prepend then false
  else if s.consonant ∧ s.linked ∧ conjunctConsonants.has c then false
  else if s.joinedPictograph ∧ pictographs.has c then false
  else if s.oddRegional ∧ right = .regional then false
  else true

/-- The clusters of a text that continues an open cluster, whose characters are kept in reverse. -/
def clustersFrom (s : ClusterState) (openCluster : List Char) : List Char → List (List Char)
  | [] => [openCluster.reverse]
  | c :: cs =>
    if breaksBetween s c then
      openCluster.reverse :: clustersFrom (ClusterState.push none c) [c] cs
    else clustersFrom (ClusterState.push (some s) c) (c :: openCluster) cs

/-- The grapheme clusters of a text. -/
def clusters : List Char → List (List Char)
  | [] => []
  | c :: cs => clustersFrom (ClusterState.push none c) [c] cs

theorem flatten_clustersFrom (s : ClusterState) (o cs : List Char) :
    (clustersFrom s o cs).flatten = o.reverse ++ cs := by
  induction cs generalizing s o with
  | nil => simp [clustersFrom]
  | cons c cs ih =>
    unfold clustersFrom
    split
    · simp [ih]
    · simp [ih]

theorem flatten_clusters (cs : List Char) : (clusters cs).flatten = cs := by
  cases cs with
  | nil => rfl
  | cons c cs => simp [clusters, flatten_clustersFrom]

/-- What is left of a line, last character first, and the sizes of its clusters. -/
structure Kept where
  reversed : List Char := []
  sizes : List Nat := []

/-- A backspace cuts the bytes of the cluster before it, if there is one; any other cluster is kept
with its size.  A size is held in one byte, so that a cluster of 256 bytes counts as empty; a cut
must fall between two characters. -/
def Kept.add? (kept : Kept) (cluster : List Char) : Option Kept :=
  if cluster = ['\x08'] then
    match kept.sizes with
    | [] => some kept
    | size :: sizes => (dropBytes? size kept.reversed).map (⟨·, sizes⟩)
  else some ⟨cluster.reverse ++ kept.reversed, byteLength cluster % 256 :: kept.sizes⟩

/-- A line with its backspaces carried out, unless one of them would split a character. -/
def applyBackspaces? (cs : List Char) : Option (List Char) :=
  ((clusters cs).foldlM Kept.add? {}).map (·.reversed.reverse)

end JobShell.Text
