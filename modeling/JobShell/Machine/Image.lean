import JobShell.Environment
import JobShell.Files.Tree

/-!
Which program a file holds.

A file with the mark `#!` at its front is run by the program that it names there, which may itself
be such a file, to a small depth.  Of a file only the front counts, and what does not fit into it is
cut off.
-/

namespace JobShell.Machine

open Files

/-- A program with its arguments, of which the first is the name it is run under. -/
structure Image where
  tool : Files.Tool
  words : List Bytes
  /-- The file name under which the program is known as a process. -/
  title : Bytes

/-- An argument of this length is too long to be passed. -/
def maxArgument : Nat := 131072

/-- How much of a file is looked at. -/
def frontSize : Nat := 256

def isBlankByte (b : UInt8) : Bool := b == 32 || b == 9

def withoutTrailingBlanks (line : Bytes) : Bytes :=
  (line.reverse.dropWhile isBlankByte).reverse

/-- The line of a front that names the interpreter, without the mark; a front without a line end
serves if the name in it ends.  Behind a short file there are null bytes. -/
def interpreterLine? (front : Bytes) : Option Bytes :=
  let behind := front.drop 2
  let isShort := front.length < frontSize
  if front.contains 10 then some (behind.takeWhile (· != 10))
  else if isShort then some (behind ++ [0])
  else if (behind.dropWhile isBlankByte).any fun b => isBlankByte b || b == 0 then
    some (behind.take (frontSize - 3))
  else none

/-- The interpreter that the front of a file names, and the one argument it may have there; an
empty line names none. -/
def interpreter? (content : Bytes) : Option (Bytes × List Bytes) :=
  match content with
  | 35 :: 33 :: _ =>
    (interpreterLine? (content.take frontSize)).bind fun line =>
      let line := (withoutTrailingBlanks line).dropWhile isBlankByte
      if line.isEmpty then none
      else
        let name := line.takeWhile fun b => !isBlankByte b && b != 0
        let behind := line.drop name.length
        let argument := (behind.dropWhile isBlankByte).takeWhile (· != 0)
        some (name, if behind.head? = some 0 || argument.isEmpty then [] else [argument])
  | _ => none

/-- How many files may be looked at for one program. -/
def maxLoads : Nat := 6

/-- The program in a file. -/
def load (tree : Tree) (directory : NodeId) (path : Bytes) (words : List Bytes) (title : Bytes) :
    Nat → Except Errno Image
  | 0 => .error .loop
  | depth + 1 => do
    if path.isEmpty then throw .access
    let node ← tree.resolve directory path
    match tree.records[node]? with
    | some { node := .program tool, .. } => .ok ⟨tool, words, title⟩
    | some { node := .file content, permissions, .. } =>
      if permissions &&& 0o111 = 0 then .error .access
      else match interpreter? content with
        | some (interpreter, argument) =>
          load tree directory interpreter (interpreter :: argument ++ path :: words.drop 1) title
            depth
        | none => .error .noExec
    | _ => .error .access

/-- The program that a process goes over to when it executes a file. -/
def imageOf (tree : Tree) (directory : NodeId) (path : Bytes) (words : List Bytes) :
    Except Errno Image :=
  if words.any fun w => maxArgument ≤ w.length then .error .tooBig
  else load tree directory path words (baseName path) maxLoads

end JobShell.Machine
