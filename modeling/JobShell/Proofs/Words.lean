import JobShell.Text.Blank
import Mathlib.Data.List.TakeWhile

/-!
# Lines and their words

A `Layout` is a choice of words with white space between them and perhaps around them.  Cutting its
line gives its words back, whatever white space was chosen (`Layout.words_line`), and any line that
has words is the line of some layout (`exists_layout`).
-/

namespace JobShell

namespace Text

/-- White space only, and perhaps nothing. -/
def Blanks (cs : List Char) : Prop := ∀ c ∈ cs, isBlank c = true

/-- Some characters, none of them white space. -/
def IsWord (cs : List Char) : Prop := cs ≠ [] ∧ ∀ c ∈ cs, isBlank c = false

instance (cs : List Char) : Decidable (Blanks cs) := List.decidableBAll (isBlank · = true) cs

instance (cs : List Char) : Decidable (IsWord cs) :=
  @instDecidableAnd _ _ inferInstance (List.decidableBAll (isBlank · = false) cs)

theorem Blanks.nil : Blanks [] := fun _ h => absurd h List.not_mem_nil

theorem Blanks.reverse {cs : List Char} (h : Blanks cs) : Blanks cs.reverse :=
  fun c hc => h c (List.mem_reverse.mp hc)

theorem blanks_takeWhile (cs : List Char) : Blanks (cs.takeWhile isBlank) :=
  fun _ hc => List.mem_takeWhile_imp hc

/-! ## Cutting a line -/

theorem words_of_blanks {cs : List Char} (h : Blanks cs) : words cs = [] :=
  words_eq_nil (List.dropWhile_eq_nil_iff.mpr h)

theorem blanks_of_words {cs : List Char} (h : words cs = []) : Blanks cs := by
  cases hd : cs.dropWhile isBlank with
  | nil => exact List.dropWhile_eq_nil_iff.mp hd
  | cons c rest =>
    rw [words_cons hd] at h
    cases h

/-- Nothing is left of a line between the white space around it if it is white space only. -/
theorem trim_eq_nil_iff {cs : List Char} : trim cs = [] ↔ Blanks cs := by
  unfold trim trimRight
  rw [List.reverse_eq_nil_iff, List.dropWhile_eq_nil_iff]
  constructor
  · intro h
    cases hd : cs.dropWhile isBlank with
    | nil => exact List.dropWhile_eq_nil_iff.mp hd
    | cons c rest =>
      -- the first character that is left is none of the white space
      have hc : isBlank c = true := h c (by rw [hd]; simp)
      rw [isBlank_of_dropWhile hd] at hc
      cases hc
  · intro h c hc
    exact h c ((List.dropWhile_sublist isBlank).mem (List.mem_reverse.mp hc))

theorem words_blanks_append {gap : List Char} (h : Blanks gap) (cs : List Char) :
    words (gap ++ cs) = words cs := by
  have hdrop : (gap ++ cs).dropWhile isBlank = cs.dropWhile isBlank :=
    List.dropWhile_append_of_pos h
  cases hd : cs.dropWhile isBlank with
  | nil => rw [words_eq_nil hd, words_eq_nil (hdrop.trans hd)]
  | cons c rest => rw [words_cons hd, words_cons (hdrop.trans hd)]

/-- What begins with a word that white space or the end follows has this word first. -/
theorem words_word_append {word rest : List Char} (hword : IsWord word)
    (hrest : ∀ c ∈ rest.head?, isBlank c = true) : words (word ++ rest) = word :: words rest := by
  obtain ⟨hne, hsolid⟩ := hword
  cases word with
  | nil => exact absurd rfl hne
  | cons c cs =>
    have hc : isBlank c = false := hsolid c List.mem_cons_self
    have hcs : ∀ d ∈ cs, (!isBlank d) = true := fun d hd => by
      rw [hsolid d (List.mem_cons_of_mem c hd)]
      rfl
    have hstop : rest.takeWhile (!isBlank ·) = [] ∧ rest.dropWhile (!isBlank ·) = rest := by
      cases rest with
      | nil => exact ⟨rfl, rfl⟩
      | cons d ds =>
        have hd : isBlank d = true := hrest d rfl
        constructor
        · exact List.takeWhile_cons_of_neg (by simp [hd])
        · exact List.dropWhile_cons_of_neg (by simp [hd])
    have hdrop : (c :: cs ++ rest).dropWhile isBlank = c :: (cs ++ rest) :=
      List.dropWhile_cons_of_neg (by simp [hc])
    rw [words_cons hdrop, List.takeWhile_append_of_pos hcs, List.dropWhile_append_of_pos hcs,
      hstop.1, hstop.2, List.append_nil]

/-- What stands behind a word before the next begins with white space. -/
theorem gap_ne_nil {rest : List Char} (h : words (rest.dropWhile (!isBlank ·)) ≠ []) :
    (rest.dropWhile (!isBlank ·)).takeWhile isBlank ≠ [] := by
  intro hnil
  cases hrest : rest.dropWhile (!isBlank ·) with
  | nil => exact h (by rw [hrest, words_nil])
  | cons d ds =>
    have hstop := List.head_dropWhile_not (!isBlank ·) (l := rest) (by rw [hrest]; simp)
    have hblank : isBlank d = true := by simpa [hrest] using hstop
    rw [hrest, List.takeWhile_cons_of_pos hblank] at hnil
    cases hnil

end Text

open Text (Blanks IsWord words isBlank)

/-! ## Layouts -/

/-- Words laid out in a line.  The white space between two of them is not empty; that before the
first and that behind the last may be. -/
structure Layout where
  lead : String
  /-- The words but the last, each with the white space behind it. -/
  body : List (String × String)
  last : String
  trail : String
  lead_blank : Blanks lead.toList
  body_apart : ∀ p ∈ body, IsWord p.1.toList ∧ Blanks p.2.toList ∧ p.2 ≠ ""
  last_word : IsWord last.toList
  trail_blank : Blanks trail.toList

namespace Layout

def line (layout : Layout) : String :=
  layout.lead ++ String.join (layout.body.map fun p => p.1 ++ p.2) ++ layout.last ++ layout.trail

def words (layout : Layout) : List String := layout.body.map Prod.fst ++ [layout.last]

theorem toList_line (layout : Layout) : layout.line.toList = layout.lead.toList ++
    (layout.body.flatMap (fun p => p.1.toList ++ p.2.toList) ++
      (layout.last.toList ++ layout.trail.toList)) := by
  unfold line
  simp only [String.toList_append, String.toList_join, List.flatMap_map, List.append_assoc]

theorem words_body {last trail : List Char} (hlast : IsWord last) (htrail : Blanks trail)
    (body : List (String × String))
    (hbody : ∀ p ∈ body, IsWord p.1.toList ∧ Blanks p.2.toList ∧ p.2 ≠ "") :
    Text.words (body.flatMap (fun p => p.1.toList ++ p.2.toList) ++ (last ++ trail)) =
      body.map (·.1.toList) ++ [last] := by
  induction body with
  | nil =>
    have hend : ∀ c ∈ trail.head?, isBlank c = true :=
      fun c hc => htrail c (List.mem_of_mem_head? hc)
    show Text.words (last ++ trail) = [last]
    rw [Text.words_word_append hlast hend, Text.words_of_blanks htrail]
  | cons p body ih =>
    obtain ⟨hword, hgap, hne⟩ := hbody p List.mem_cons_self
    have hnext : ∀ more : List Char, ∀ c ∈ (p.2.toList ++ more).head?, isBlank c = true := by
      intro more c hc
      cases hp : p.2.toList with
      | nil => exact absurd (String.toList_eq_nil_iff.mp hp) hne
      | cons d ds =>
        rw [hp, List.cons_append, List.head?_cons] at hc
        rw [← Option.some.inj hc]
        exact hgap d (by rw [hp]; exact List.mem_cons_self)
    rw [List.flatMap_cons, List.append_assoc, List.append_assoc,
      Text.words_word_append hword (hnext _), Text.words_blanks_append hgap,
      ih fun q hq => hbody q (List.mem_cons_of_mem p hq)]
    rfl

/-- The words of a layout are those of its line. -/
theorem words_line (layout : Layout) :
    Text.words layout.line.toList = layout.words.map String.toList := by
  rw [toList_line, Text.words_blanks_append layout.lead_blank,
    words_body layout.last_word layout.trail_blank layout.body layout.body_apart]
  unfold words
  rw [List.map_append, List.map_map]
  rfl

/-- A single word. -/
def single {lead word trail : List Char} (hlead : Blanks lead) (hword : IsWord word)
    (htrail : Blanks trail) : Layout where
  lead := .ofList lead
  body := []
  last := .ofList word
  trail := .ofList trail
  lead_blank := by rwa [String.toList_ofList]
  body_apart p hp := by cases hp
  last_word := by rwa [String.toList_ofList]
  trail_blank := by rwa [String.toList_ofList]

/-- A word in front of a layout that begins with white space. -/
def cons {lead word : List Char} (hlead : Blanks lead) (hword : IsWord word) (later : Layout)
    (hgap : later.lead ≠ "") : Layout where
  lead := .ofList lead
  body := (.ofList word, later.lead) :: later.body
  last := later.last
  trail := later.trail
  lead_blank := by rwa [String.toList_ofList]
  body_apart p hp := by
    rcases List.mem_cons.mp hp with rfl | hp
    · exact ⟨by rwa [String.toList_ofList], later.lead_blank, hgap⟩
    · exact later.body_apart p hp
  last_word := later.last_word
  trail_blank := later.trail_blank

theorem toList_line_single {lead word trail : List Char} (hlead : Blanks lead)
    (hword : IsWord word) (htrail : Blanks trail) :
    (single hlead hword htrail).line.toList = lead ++ (word ++ trail) := by
  rw [toList_line]
  simp only [single, String.toList_ofList, List.flatMap_nil, List.nil_append]

theorem toList_line_cons {lead word : List Char} (hlead : Blanks lead) (hword : IsWord word)
    (later : Layout) (hgap : later.lead ≠ "") :
    (cons hlead hword later hgap).line.toList = lead ++ (word ++ later.line.toList) := by
  rw [toList_line, toList_line later]
  simp only [cons, String.toList_ofList, List.flatMap_cons, List.append_assoc]

/-- A line that has words is the line of a layout, whose lead is the white space before the
first. -/
theorem exists_layout {cs : List Char} (h : Text.words cs ≠ []) :
    ∃ layout : Layout, layout.line.toList = cs ∧ layout.lead.toList = cs.takeWhile isBlank := by
  induction hn : cs.length using Nat.strongRecOn generalizing cs with
  | _ n ih =>
    cases hd : cs.dropWhile isBlank with
    | nil => exact absurd (Text.words_eq_nil hd) h
    | cons c rest =>
      have hlead := Text.blanks_takeWhile cs
      have hword : IsWord (c :: rest.takeWhile (!isBlank ·)) := by
        have hmem : (c :: rest.takeWhile (!isBlank ·)) ∈ Text.words cs := by
          rw [Text.words_cons hd]
          exact List.mem_cons_self
        exact Text.mem_words hmem
      have hcs : cs.takeWhile isBlank ++ ((c :: rest.takeWhile (!isBlank ·)) ++
          rest.dropWhile (!isBlank ·)) = cs := by
        rw [List.cons_append, List.takeWhile_append_dropWhile, ← hd,
          List.takeWhile_append_dropWhile]
      by_cases hmore : Text.words (rest.dropWhile (!isBlank ·)) = []
      · refine ⟨single hlead hword (Text.blanks_of_words hmore), ?_, String.toList_ofList⟩
        rw [toList_line_single]
        exact hcs
      · have hshort : (rest.dropWhile (!isBlank ·)).length < n := by
          have := congrArg List.length hcs
          rw [List.length_append, List.length_append, List.length_cons] at this
          omega
        obtain ⟨later, hline, hlater⟩ := ih _ hshort hmore rfl
        have hgap : later.lead ≠ "" := by
          intro hempty
          rw [hempty] at hlater
          exact Text.gap_ne_nil hmore hlater.symm
        refine ⟨cons hlead hword later hgap, ?_, String.toList_ofList⟩
        rw [toList_line_cons, hline]
        exact hcs

end Layout

end JobShell
