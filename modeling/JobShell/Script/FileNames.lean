import JobShell.Script.Expansion

/-!
Words as lists of fields, where patterns stand for the names of files.

A pattern stands for all paths that it matches part by part, in the order of their bytes, and for
itself if there is none.
-/

namespace JobShell.Script

open Machine Toolbox

namespace FileNames

/-- A pattern as a text without its backslashes. -/
def unescaped : Text → Text
  | '\\' :: c :: rest => c :: unescaped rest
  | c :: rest => c :: unescaped rest
  | [] => []

/-- Whether a list in brackets is closed in the same part of a path. -/
def closes : Nat → Text → Bool
  | 0, _ => false
  | fuel + 1, text =>
    let text := match text with
      | '\\' :: rest => rest
      | text => text
    match text with
    | [] | '/' :: _ => false
    | _ :: rest => rest.head? = some ']' || closes fuel rest

/-- The front of a path up to the end of its first part with a sign of a pattern: what is before
that part, the part, and what is behind its slash, if there is one. -/
structure Cut where
  before : Text
  part : Text
  behind : Option Text

/-- Looks for the first part with a sign of a pattern; `before` and `part` have been passed. -/
def cut? : Nat → Bool → Text → Text → Text → Option Cut
  | 0, _, _, _, _ => none
  | fuel + 1, hasSign, before, part, text =>
    let atSlash := fun (slash rest : Text) =>
      if hasSign then some ⟨before, part, some rest⟩
      else cut? fuel false (before ++ part ++ slash) [] rest
    match text with
    | [] => if hasSign then some ⟨before, part, none⟩ else none
    | '\\' :: '/' :: rest => atSlash ['\\', '/'] rest
    | '/' :: rest => atSlash ['/'] rest
    | '\\' :: c :: rest => cut? fuel hasSign before (part ++ ['\\', c]) rest
    | '[' :: rest =>
      let inside := match rest with
        | '!' :: rest | '^' :: rest => rest
        | rest => rest
      cut? fuel (hasSign || closes (inside.length + 1) inside) before (part ++ ['[']) rest
    | c :: rest => cut? fuel (hasSign || c == '*' || c == '?') before (part ++ [c]) rest

/-- The names in a directory that a part of a pattern matches. -/
def namesIn (directory part : Text) : Acts (List Text) := do
  let place := if directory.isEmpty then ['.'] else directory
  match ← Acts.ask (.list (Toolbox.path place)) with
  | .error _ => pure []
  | .ok names =>
    let takesDots := match part with
      | '\\' :: '.' :: _ | '.' :: _ => true
      | _ => false
    let all := ['.'] :: ['.', '.'] :: names.map Bytes.toLatin
    pure (all.filter fun name =>
      (takesDots || name.head? != some '.') && Pattern.isMatch part name)

/-- The paths that go on from a directory as a pattern says. -/
def paths : Nat → Text → Text → Acts (List Text)
  | 0, _, _ => pure []
  | fuel + 1, directory, pattern => do
    match cut? (pattern.length + 1) false [] [] pattern with
    | none =>
      if directory.isEmpty then pure []
      else
        let path := directory ++ unescaped pattern
        match ← Acts.ask (.inspect (Toolbox.path path) false) with
        | .ok _ => pure [path]
        | .error _ => pure []
    | some cut =>
      let directory := directory ++ unescaped cut.before
      let names ← namesIn directory cut.part
      match cut.behind with
      | none => pure (names.map (directory ++ ·))
      | some behind => each fuel directory behind names
where
  each (fuel : Nat) (directory behind : Text) : List Text → Acts (List Text)
    | [] => pure []
    | name :: names => do
      let first ← paths fuel (directory ++ name ++ ['/']) behind
      pure (first ++ (← each fuel directory behind names))

/-- What a field stands for. -/
def ofField (glyphs : List Glyph) : Acts (List Text) := do
  let text := glyphs.filterMap Glyph.char?
  if (← get).has .noNames || !Pattern.hasSigns text then pure [text]
  else
    let pattern := patternText glyphs
    let found ← paths (pattern.length + 1) [] pattern
    if found.isEmpty then pure [text]
    else pure (found.mergeSort fun a b => String.ofList a ≤ String.ofList b)

def ofFields : List (List Glyph) → Acts (List Text)
  | [] => pure []
  | field :: rest => do
    let first ← ofField field
    pure (first ++ (← ofFields rest))

end FileNames

namespace Expansion

/-- The fields that a word stands for. -/
def fields (substitute : Substitute) (w : Word) : Acts (List Text) := do
  let expanded ← word substitute { isFull := true, tilde := true } w
  FileNames.ofFields (expanded.split (← get).separators none)

/-- The fields of several words. -/
def allFields (substitute : Substitute) : List Word → Acts (List Text)
  | [] => pure []
  | w :: rest => do
    let first ← fields substitute w
    pure (first ++ (← allFields substitute rest))

/-- The pattern that a word stands for. -/
def pattern (substitute : Substitute) (w : Word) : Acts Text := do
  pure (patternText (← word substitute { isPattern := true, tilde := true } w).glyphs)

end Expansion

end JobShell.Script
