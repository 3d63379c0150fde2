import JobShell.Command
import JobShell.Proofs.Words

/-!
# Laying commands out and parsing them

The marker is looked for behind everything but white space (`beforeMarker?_eq_some_iff`), so a line
can end in one character `&` that is no marker only if a marker follows it.  Hence every layout of
words parses back to these words, in the background exactly if a marker was set behind it
(`parse_layout`, `parse_layout_marked`), and a command that was parsed parses again from its
rendering (`layouts_and_renderings_parse_back`).
-/

namespace JobShell

open Text (Blanks IsWord words isBlank)

namespace Layout

theorem words_ne_nil (layout : Layout) : layout.words ≠ [] := by
  unfold Layout.words
  simp

/-- The last character of a layout but for white space is that of its last word. -/
theorem exists_line_eq (layout : Layout) : ∃ before c,
    layout.last.toList.getLast? = some c ∧ isBlank c = false ∧
      layout.line.toList = before ++ c :: layout.trail.toList := by
  obtain ⟨hne, hsolid⟩ := layout.last_word
  obtain ⟨front, c, hlast⟩ : ∃ front c, layout.last.toList = front ++ [c] :=
    ⟨_, _, (List.dropLast_concat_getLast hne).symm⟩
  rw [hlast] at hsolid
  refine ⟨layout.lead.toList ++ (layout.body.flatMap (fun p => p.1.toList ++ p.2.toList) ++
    front), c, ?_, hsolid c List.mem_concat_self, ?_⟩
  · rw [hlast, List.getLast?_concat]
  · rw [Layout.toList_line, hlast]
    simp only [List.append_assoc, List.singleton_append]

/-! ## The same words with single spaces -/

theorem intercalate_concat (first : List String) (last : String) :
    " ".intercalate (first ++ [last]) = String.join (first.map (· ++ " ")) ++ last := by
  induction first with
  | nil => simp
  | cons w first ih =>
    have hnext : " ".intercalate (w :: (first ++ [last])) =
        w ++ " " ++ " ".intercalate (first ++ [last]) := by
      cases first <;> exact String.intercalate_cons_cons
    rw [List.cons_append, hnext, ih, List.map_cons, String.join_cons]
    exact String.append_assoc.symm

theorem blanks_empty : Blanks "".toList := Blanks.nil

theorem blanks_space : Blanks " ".toList := by decide

/-- The same words separated by single spaces. -/
def tidy (layout : Layout) {trail : String} (htrail : Blanks trail.toList) : Layout where
  lead := ""
  body := layout.body.map fun p => (p.1, " ")
  last := layout.last
  trail
  lead_blank := Blanks.nil
  body_apart p hp := by
    obtain ⟨q, hq, rfl⟩ := List.mem_map.mp hp
    have hne : " " ≠ "" := by decide
    exact ⟨(layout.body_apart q hq).1, blanks_space, hne⟩
  last_word := layout.last_word
  trail_blank := htrail

theorem words_tidy (layout : Layout) {trail : String} (htrail : Blanks trail.toList) :
    (layout.tidy htrail).words = layout.words := by
  unfold tidy Layout.words
  rw [List.map_map]
  rfl

theorem line_tidy (layout : Layout) {trail : String} (htrail : Blanks trail.toList) :
    (layout.tidy htrail).line = " ".intercalate layout.words ++ trail := by
  unfold Layout.words
  rw [intercalate_concat]
  unfold tidy Layout.line
  rw [List.map_map, List.map_map, String.empty_append]
  rfl

end Layout

namespace Command

/-! ## The marker -/

theorem isBlank_backgroundMarker : isBlank backgroundMarker = false := by decide

/-- From behind, the white space at the end of a line goes first. -/
theorem dropWhile_reverse {before after : List Char} {c : Char} (hc : isBlank c = false)
    (hafter : Blanks after) :
    (before ++ c :: after).reverse.dropWhile isBlank = c :: before.reverse := by
  rw [List.reverse_append, List.reverse_cons, List.append_assoc,
    List.dropWhile_append_of_pos hafter.reverse]
  exact List.dropWhile_cons_of_neg (by rw [hc]; exact Bool.false_ne_true)

theorem beforeMarker?_eq_some_iff {line before : List Char} : beforeMarker? line = some before ↔
    ∃ after, Blanks after ∧ line = before ++ backgroundMarker :: after := by
  constructor
  · intro h
    unfold beforeMarker? at h
    split at h
    · rename_i c rest hdrop
      split at h
      · rename_i hmarker
        have hline : line.reverse = line.reverse.takeWhile isBlank ++ backgroundMarker :: rest := by
          rw [← hmarker, ← hdrop, List.takeWhile_append_dropWhile]
        have hback := congrArg List.reverse hline
        rw [List.reverse_reverse, List.reverse_append, List.reverse_cons,
          List.append_assoc] at hback
        refine ⟨(line.reverse.takeWhile isBlank).reverse,
          (Text.blanks_takeWhile line.reverse).reverse, ?_⟩
        rw [← Option.some.inj h]
        exact hback
      · cases h
    · cases h
  · rintro ⟨after, hafter, rfl⟩
    unfold beforeMarker?
    rw [dropWhile_reverse isBlank_backgroundMarker hafter]
    simp only [if_true, List.reverse_reverse]

theorem unmarked_marked (before : List Char) {after : List Char} (hafter : Blanks after) :
    unmarked (before ++ backgroundMarker :: after) = (before, true) := by
  unfold unmarked
  rw [beforeMarker?_eq_some_iff.mpr ⟨after, hafter, rfl⟩]

/-- A line whose last character but for white space is another one has no marker. -/
theorem unmarked_plain {before after : List Char} {c : Char} (hc : isBlank c = false)
    (hplain : c ≠ backgroundMarker) (hafter : Blanks after) :
    unmarked (before ++ c :: after) = (before ++ c :: after, false) := by
  unfold unmarked beforeMarker?
  rw [dropWhile_reverse hc hafter]
  simp only [if_neg hplain]

theorem of_unmarked_false {line before : List Char} (h : unmarked line = (before, false)) :
    before = line ∧ beforeMarker? line = none := by
  unfold unmarked at h
  cases hbefore : beforeMarker? line with
  | some rest =>
    rw [hbefore] at h
    cases h
  | none =>
    rw [hbefore] at h
    cases h
    exact ⟨rfl, rfl⟩

/-! ## Parsing a layout -/

/-- A command is what its line parses to if the line without its marker has the words of the
command. -/
theorem parse_eq_ok_iff {line : String} {cmd : Command} : parse line = .ok cmd ↔
    unmarked line.toList = (cmd.rawText.toList, cmd.isBackground) ∧
      words cmd.rawText.toList = cmd.arguments.map String.toList := by
  unfold parse
  generalize unmarked line.toList = marked
  obtain ⟨before, isBackground⟩ := marked
  obtain ⟨rawText, name, args, isMarked⟩ := cmd
  simp only [arguments, Prod.mk.injEq]
  constructor
  · intro h
    cases hwords : words before with
    | nil =>
      rw [hwords] at h
      cases h
    | cons first rest =>
      rw [hwords] at h
      cases h
      simp only [String.toList_ofList, and_self, hwords, List.map_cons, List.map_map,
        Function.comp_def, List.map_id']
  · rintro ⟨⟨rfl, rfl⟩, hwords⟩
    rw [hwords]
    simp only [List.map_cons, List.map_map, String.ofList_toList, Function.comp_def, List.map_id']

theorem parse_of_unmarked {line before : String} {isBackground : Bool}
    (hmarker : unmarked line.toList = (before.toList, isBackground)) {ws : List String}
    (hwords : words before.toList = ws.map String.toList) (hne : ws ≠ []) :
    ∃ cmd, parse line = .ok cmd ∧ cmd.arguments = ws ∧ cmd.isBackground = isBackground := by
  cases ws with
  | nil => exact absurd rfl hne
  | cons name args =>
    exact ⟨⟨before, name, args, isBackground⟩, parse_eq_ok_iff.mpr ⟨hmarker, hwords⟩, rfl, rfl⟩

theorem parse_layout_marked (layout : Layout) {after : String} (hafter : Blanks after.toList) :
    ∃ cmd, parse (layout.line ++ "&" ++ after) = .ok cmd ∧ cmd.arguments = layout.words ∧
      cmd.isBackground = true := by
  refine parse_of_unmarked ?_ layout.words_line layout.words_ne_nil
  rw [String.toList_append, String.toList_append, List.append_assoc]
  exact unmarked_marked layout.line.toList hafter

theorem parse_layout (layout : Layout)
    (hlast : layout.last.toList.getLast? ≠ some backgroundMarker) :
    ∃ cmd, parse layout.line = .ok cmd ∧ cmd.arguments = layout.words ∧
      cmd.isBackground = false := by
  refine parse_of_unmarked ?_ layout.words_line layout.words_ne_nil
  obtain ⟨before, c, hc, hsolid, hline⟩ := layout.exists_line_eq
  have hplain : c ≠ backgroundMarker := by
    rintro rfl
    exact hlast hc
  rw [hline]
  exact unmarked_plain hsolid hplain layout.trail_blank

/-- A command that was parsed has the words of a layout, the last of which ends in a marker only if
the command was marked. -/
theorem exists_layout_of_parse {line : String} {cmd : Command} (h : parse line = .ok cmd) :
    ∃ layout : Layout, layout.words = cmd.arguments ∧
      (cmd.isBackground = false → layout.last.toList.getLast? ≠ some backgroundMarker) := by
  obtain ⟨hmarker, hwords⟩ := parse_eq_ok_iff.mp h
  have hne : words cmd.rawText.toList ≠ [] := by
    rw [hwords]
    exact List.cons_ne_nil _ _
  obtain ⟨layout, hline, -⟩ := Layout.exists_layout hne
  refine ⟨layout, ?_, fun hback hlast => ?_⟩
  · have hcut := layout.words_line
    rw [hline, hwords] at hcut
    exact ((List.map_inj_right fun _ _ => String.toList_injective).mp hcut).symm
  · rw [hback] at hmarker
    obtain ⟨hraw, hnone⟩ := of_unmarked_false hmarker
    obtain ⟨before, c, hc, -, hend⟩ := layout.exists_line_eq
    rw [hlast, Option.some.injEq] at hc
    subst hc
    rw [← hraw, ← hline, hend, beforeMarker?_eq_some_iff.mpr ⟨_, layout.trail_blank, rfl⟩] at hnone
    cases hnone

/-- A command that was parsed is parsed again from its rendering, which sets its arguments apart by
single spaces. -/
theorem parse_render {line : String} {cmd : Command} (h : parse line = .ok cmd) :
    ∃ again, parse cmd.render = .ok again ∧ again.arguments = cmd.arguments ∧
      again.isBackground = cmd.isBackground := by
  obtain ⟨layout, hwords, hlast⟩ := exists_layout_of_parse h
  unfold render
  cases hback : cmd.isBackground with
  | true =>
    obtain ⟨again, hagain, hargs, hmarked⟩ :=
      parse_layout_marked (layout.tidy Layout.blanks_space) Layout.blanks_empty
    rw [Layout.line_tidy, hwords, String.append_empty, String.append_assoc] at hagain
    exact ⟨again, hagain, by rw [hargs, Layout.words_tidy, hwords], hmarked⟩
  | false =>
    obtain ⟨again, hagain, hargs, hplain⟩ :=
      parse_layout (layout.tidy Layout.blanks_empty) (hlast hback)
    rw [Layout.line_tidy, hwords, String.append_empty] at hagain
    exact ⟨again, hagain, by rw [hargs, Layout.words_tidy, hwords], hplain⟩

/-- **Rendering and parsing.**  A layout of words parses to these words: in the foreground if its
last word does not end in a marker, and in the background if a marker is set behind it.  A command
that was parsed is parsed again from its rendering. -/
theorem layouts_and_renderings_parse_back :
    (∀ layout : Layout, layout.last.toList.getLast? ≠ some backgroundMarker →
      ∃ cmd, parse layout.line = .ok cmd ∧ cmd.arguments = layout.words ∧
        cmd.isBackground = false) ∧
    (∀ (layout : Layout) (after : String), Blanks after.toList →
      ∃ cmd, parse (layout.line ++ "&" ++ after) = .ok cmd ∧ cmd.arguments = layout.words ∧
        cmd.isBackground = true) ∧
    ∀ line cmd, parse line = .ok cmd → ∃ again, parse cmd.render = .ok again ∧
      again.name = cmd.name ∧ again.arguments = cmd.arguments ∧
      again.argumentCount = cmd.argumentCount ∧ again.isBackground = cmd.isBackground := by
  refine ⟨parse_layout, fun layout after => parse_layout_marked layout, fun line cmd hparse => ?_⟩
  obtain ⟨again, hagain, hargs, hback⟩ := parse_render hparse
  exact ⟨again, hagain, (List.cons.inj hargs).1, hargs, congrArg List.length hargs, hback⟩

/-- The word `echo`, a tab, and another word. -/
def echoLayout {word : String} (hword : IsWord word.toList) : Layout where
  lead := ""
  body := [("echo", "\t")]
  last := word
  trail := ""
  lead_blank := Blanks.nil
  body_apart p hp := by
    rw [List.mem_singleton.mp hp]
    exact ⟨by decide, by decide, by decide⟩
  last_word := hword
  trail_blank := Blanks.nil

/-- Of two markers at the end of a line the first is a word, and stays one when the command is
rendered; a marker within a word is none. -/
theorem layouts_and_renderings_parse_back_markers :
    (∃ cmd, parse "echo\t&&" = .ok cmd ∧ cmd.arguments = ["echo", "&"] ∧ cmd.isBackground = true ∧
      ∃ again, parse cmd.render = .ok again ∧ again.arguments = ["echo", "&"]) ∧
    ∃ cmd, parse "echo\ta&b" = .ok cmd ∧ cmd.arguments = ["echo", "a&b"] ∧
      cmd.isBackground = false := by
  have hlone : IsWord "&".toList := by decide
  have hinner : IsWord "a&b".toList := by decide
  obtain ⟨hplain, hmarked, hrendered⟩ := layouts_and_renderings_parse_back
  obtain ⟨cmd, hparse, hargs, hback⟩ := hmarked (echoLayout hlone) "" Blanks.nil
  obtain ⟨again, hagain, -, hsame, -, -⟩ := hrendered _ cmd hparse
  have hline : (echoLayout hlone).line ++ "&" ++ "" = "echo\t&&" := rfl
  rw [hline] at hparse
  refine ⟨⟨cmd, hparse, hargs, hback, again, hagain, hsame.trans hargs⟩, ?_⟩
  have hline' : (echoLayout hinner).line = "echo\ta&b" := rfl
  have hlast : "a&b".toList.getLast? ≠ some backgroundMarker := by decide
  rw [← hline']
  exact hplain (echoLayout hinner) hlast

end Command

end JobShell
