import JobShell.Errno
import JobShell.Files.Tool
import JobShell.Text.Bytes

/-!
A tree of files.

Nodes are numbered; a directory names its parent, so that a process may stay in a directory that has
been removed and still go up from it.  A path is walked component by component, and at most forty
symbolic links are followed on the way.
-/

namespace JobShell.Files

abbrev NodeId := Nat

inductive Node
  | directory (parent : NodeId) (entries : List (Bytes × NodeId))
  | file (content : Bytes)
  | link (target : Bytes)
  | program (tool : Tool)
  /-- Reading it gives nothing, and what is written to it is lost. -/
  | sinkhole
  deriving Inhabited

/-- A node with what is noted of it. -/
structure Record where
  node : Node
  /-- The permission bits. -/
  permissions : Nat := 0o644
  /-- When it was last changed. -/
  modified : Nat := 0
  deriving Inhabited

/-- The nodes of a tree; the first is the root. -/
structure Tree where
  records : Array Record
  /-- The time that is noted with changes. -/
  now : Nat := 0
  deriving Inhabited

def slash : UInt8 := 47
def dot : Bytes := [46]
def dotDot : Bytes := [46, 46]

/-- The parts of a path between slashes, without the empty ones. -/
def names (path : Bytes) : List Bytes := (path.splitOn slash).filter (!·.isEmpty)

def endsInSlash (path : Bytes) : Bool := path.getLast? = some slash

/-- The steps of a walk along a path; a slash at the end asks for a directory. -/
def components (path : Bytes) : List Bytes :=
  if endsInSlash path then names path ++ [dot] else names path

def isAbsolute (path : Bytes) : Bool := path.head? = some slash

/-- The last part of a path. -/
def baseName (path : Bytes) : Bytes := (names path).getLast?.getD []

/-- The longest name of a directory entry. -/
def maxName : Nat := 255

/-- The longest path, with the null character behind it. -/
def maxPath : Nat := 4096

/-- The number of symbolic links that one walk follows. -/
def maxLinks : Nat := 40

namespace Tree

def root : NodeId := 0

/-- Only the root. -/
def empty : Tree := { records := #[{ node := .directory root [], permissions := 0o755 }] }

def node? (tree : Tree) (id : NodeId) : Option Node := tree.records[id]?.map (·.node)

/-- Puts another node in the place of one, which is a change of it. -/
def setNode (tree : Tree) (id : NodeId) (node : Node) : Tree :=
  { tree with
    records := tree.records.modify id fun r => { r with node, modified := tree.now } }

def isDirectory (tree : Tree) (id : NodeId) : Bool :=
  match tree.node? id with
  | some (.directory _ _) => true
  | _ => false

/-- The node that a name leads to from a directory. -/
def enter (tree : Tree) (directory : NodeId) (name : Bytes) : Except Errno NodeId :=
  match tree.node? directory with
  | some (.directory parent entries) =>
    if name = dot then .ok directory
    else if name = dotDot then .ok parent
    else if maxName < name.length then .error .nameTooLong
    else match entries.lookup name with
      | some node => .ok node
      | none => .error .noEntry
  | _ => .error .notDirectory

/-- Where a path starts. -/
def origin (directory : NodeId) (path : Bytes) : NodeId :=
  if isAbsolute path then root else directory

/-- Walks along components; a link in the last place is followed if `follow` says so. -/
def walk (tree : Tree) (follow : Bool) (links : Nat) (at_ : NodeId) (steps : List Bytes) :
    Except Errno NodeId :=
  match steps with
  | [] => .ok at_
  | name :: rest =>
    match tree.enter at_ name with
    | .error e => .error e
    | .ok next =>
      match tree.node? next with
      | some (.link target) =>
        if rest.isEmpty && !follow then .ok next
        else if target.isEmpty then .error .noEntry
        else match links with
          | 0 => .error .loop
          | links + 1 => walk tree follow links (origin at_ target) (components target ++ rest)
      | _ => walk tree follow links next rest
termination_by (links, steps.length)

/-- The node that a path leads to. -/
def resolve (tree : Tree) (directory : NodeId) (path : Bytes) (follow : Bool := true) :
    Except Errno NodeId :=
  if path.isEmpty then .error .noEntry
  else if maxPath ≤ path.length then .error .nameTooLong
  else tree.walk follow maxLinks (origin directory path) (components path)

/-- The directory that a path leads to. -/
def resolveDirectory (tree : Tree) (directory : NodeId) (path : Bytes) : Except Errno NodeId := do
  let node ← tree.resolve directory path
  if tree.isDirectory node then .ok node else .error .notDirectory

def entries (tree : Tree) (directory : NodeId) : List (Bytes × NodeId) :=
  match tree.node? directory with
  | some (.directory _ entries) => entries
  | _ => []

def parent (tree : Tree) (node : NodeId) : NodeId :=
  match tree.node? node with
  | some (.directory parent _) => parent
  | _ => root

def setEntries (tree : Tree) (directory : NodeId) (entries : List (Bytes × NodeId)) : Tree :=
  match tree.node? directory with
  | some (.directory parent _) => tree.setNode directory (.directory parent entries)
  | _ => tree

/-- The names from the root down to a directory, if it still hangs in the tree. -/
def namesOf (tree : Tree) : Nat → NodeId → Option (List Bytes)
  | 0, _ => none
  | fuel + 1, node =>
    if node = root then some []
    else
      let above := tree.parent node
      match (tree.entries above).find? (·.2 == node) with
      | none => none
      | some (name, _) => (tree.namesOf fuel above).map (· ++ [name])

/-- The path of a directory from the root. -/
def pathOf? (tree : Tree) (directory : NodeId) : Option Bytes :=
  (tree.namesOf (tree.records.size + 1) directory).map fun
    | [] => [slash]
    | names => names.flatMap (slash :: ·)

/-- The directory in which a path names its last part, and that part; a path without parts is
answered with `bare`. -/
def place (tree : Tree) (directory : NodeId) (path : Bytes) (bare : Errno := .fileExists) :
    Except Errno (NodeId × Bytes) :=
  if path.isEmpty then .error .noEntry
  else if maxPath ≤ path.length then .error .nameTooLong
  else match (names path).reverse with
    | [] => .error bare
    | name :: before => do
      let above ← tree.walk true maxLinks (origin directory path) before.reverse
      if !tree.isDirectory above then .error .notDirectory
      else if maxName < name.length then .error .nameTooLong
      else if (tree.pathOf? above).isNone then .error .noEntry
      else .ok (above, name)

/-- Puts a node under a name, in the place of any other. -/
def attach (tree : Tree) (directory : NodeId) (name : Bytes) (node : NodeId) : Tree :=
  tree.setEntries directory
    ((tree.entries directory).filter (·.1 != name) ++ [(name, node)])

def detach (tree : Tree) (directory : NodeId) (name : Bytes) : Tree :=
  tree.setEntries directory ((tree.entries directory).filter (·.1 != name))

/-- Adds a node under a name. -/
def add (tree : Tree) (directory : NodeId) (name : Bytes) (node : Node)
    (permissions : Nat := 0o644) : Tree :=
  let grown := { tree with records := tree.records.push { node, permissions, modified := tree.now } }
  grown.attach directory name tree.records.size

/-- Makes a directory under a name that is not taken. -/
def makeDirectory (tree : Tree) (directory : NodeId) (path : Bytes) (permissions : Nat := 0o755) :
    Except Errno Tree := do
  let (above, name) ← tree.place directory path
  if name = dot ∨ name = dotDot ∨ ((tree.entries above).lookup name).isSome then
    .error .fileExists
  else .ok (tree.add above name (.directory above []) permissions)

/-- Makes each directory along a path that is not there yet. -/
def makeDirectories (tree : Tree) (directory : NodeId) (path : Bytes) : Tree :=
  let step := fun ((tree, at_) : Tree × NodeId) name =>
    match tree.walk true maxLinks at_ [name] with
    | .ok next => (tree, next)
    | .error _ => (tree.add at_ name (.directory at_ []) 0o755, tree.records.size)
  ((names path).foldl step (tree, origin directory path)).1

/-- Removes an empty directory. -/
def removeDirectory (tree : Tree) (directory : NodeId) (path : Bytes) : Except Errno Tree := do
  let (above, name) ← tree.place directory path .busy
  if name = dot then .error .invalid
  else if name = dotDot then .error .notEmpty
  else match (tree.entries above).lookup name with
    | none => .error .noEntry
    | some node =>
      match tree.node? node with
      | some (.directory _ []) => .ok (tree.detach above name)
      | some (.directory _ _) => .error .notEmpty
      | _ => .error .notDirectory

/-- Whether a node lies on the way from the root to a directory, or is that directory. -/
def isAbove (tree : Tree) (node : NodeId) : Nat → NodeId → Bool
  | 0, _ => false
  | fuel + 1, directory =>
    node = directory || (directory != root && tree.isAbove node fuel (tree.parent directory))

def isSpecial (name : Bytes) : Bool := name = dot || name = dotDot

/-- What stands against putting a node in the place of another. -/
def cannotReplace? (tree : Tree) (node old : NodeId) : Option Errno :=
  match tree.node? node, tree.node? old with
  | some (.directory _ _), some (.directory _ []) => none
  | some (.directory _ _), some (.directory _ _) => some .notEmpty
  | some (.directory _ _), _ => some .notDirectory
  | _, some (.directory _ _) => some .isDirectory
  | _, _ => none

/-- Gives a node another name, in the place of what had that name unless it has to be free. -/
def rename (tree : Tree) (directory : NodeId) (source target : Bytes) (replaces : Bool) :
    Except Errno Tree := do
  let taken : Errno := if replaces then .busy else .fileExists
  let (from_, oldName) ← tree.place directory source .busy
  let (above, newName) ← tree.place directory target taken
  if isSpecial oldName then .error .busy
  else if isSpecial newName then .error taken
  else match (tree.entries from_).lookup oldName with
    | none => .error .noEntry
    | some node =>
      let depth := tree.records.size + 1
      let old := (tree.entries above).lookup newName
      if !replaces && old.isSome then .error .fileExists
      else if !tree.isDirectory node && (endsInSlash source || endsInSlash target) then
        .error .notDirectory
      else if tree.isDirectory node && tree.isAbove node depth above then .error .invalid
      else if old.any fun o => tree.isDirectory o && tree.isAbove o depth from_ then
        .error .notEmpty
      else if old = some node then .ok tree
      else match old.bind (tree.cannotReplace? node) with
        | some e => .error e
        | none =>
          let moved := (tree.detach from_ oldName).attach above newName node
          match tree.node? node with
          | some (.directory _ entries) =>
            .ok { moved with
              records := moved.records.modify node fun r =>
                { r with node := .directory above entries } }
          | _ => .ok moved

/-- Takes a name that is no directory's off the tree. -/
def remove (tree : Tree) (directory : NodeId) (path : Bytes) : Except Errno Tree := do
  let (above, name) ← tree.place directory path .isDirectory
  if isSpecial name then .error .isDirectory
  else match (tree.entries above).lookup name with
    | none => .error .noEntry
    | some node =>
      if tree.isDirectory node then .error .isDirectory
      else if endsInSlash path then .error .notDirectory
      else .ok (tree.detach above name)

/-- What can be read from a node. -/
def contentOf (tree : Tree) (node : NodeId) : Bytes :=
  match tree.node? node with
  | some (.file content) => content
  | some (.program _) => [0x7f, 0x45, 0x4c, 0x46]
  | _ => []

/-- What a file becomes when bytes are written at a place in it. -/
def overwritten (content : Bytes) (place : Nat) (bytes : Bytes) : Bytes :=
  content.take place ++ List.replicate (place - content.length) 0 ++ bytes ++
    content.drop (place + bytes.length)

/-- Writes bytes at a place in a file; other nodes take them and keep nothing. -/
def write (tree : Tree) (node : NodeId) (place : Nat) (bytes : Bytes) : Tree :=
  match tree.node? node with
  | some (.file content) => tree.setNode node (.file (overwritten content place bytes))
  | _ => tree

/-- Empties a file. -/
def truncate (tree : Tree) (node : NodeId) : Tree :=
  match tree.node? node with
  | some (.file _) => tree.setNode node (.file [])
  | _ => tree

/-- Makes an empty file at a path at which nothing is; a link there is followed. -/
def create (tree : Tree) (directory : NodeId) (path : Bytes) (permissions : Nat) :
    Nat → Except Errno (NodeId × Tree)
  | 0 => .error .loop
  | links + 1 => do
    let (above, name) ← tree.place directory path .isDirectory
    if isSpecial name || endsInSlash path then .error .isDirectory
    else match (tree.entries above).lookup name with
      | none => .ok (tree.records.size, tree.add above name (.file []) permissions)
      | some node =>
        match tree.node? node with
        | some (.link target) => tree.create (origin above target) target permissions links
        | _ => .error .fileExists

/-- Puts a file at a path, if there is a place for it. -/
def putFile (tree : Tree) (directory : NodeId) (path content : Bytes) (executable : Bool) : Tree :=
  match tree.resolve directory path with
  | .ok node => tree.setNode node (.file content)
  | .error _ =>
    match tree.create directory path (if executable then 0o755 else 0o644) maxLinks with
    | .ok (node, tree) => tree.setNode node (.file content)
    | .error _ => tree

/-- Puts a symbolic link at a path, if there is a place for it. -/
def putLink (tree : Tree) (directory : NodeId) (path target : Bytes) : Tree :=
  match tree.place directory path with
  | .ok (above, name) => tree.add above name (.link target) 0o777
  | .error _ => tree

/-- The directories of a freshly installed system. -/
def systemDirectories : List String :=
  ["/boot", "/dev", "/etc", "/home", "/media", "/mnt", "/opt", "/proc", "/root", "/run", "/srv",
   "/sys", "/tmp", "/usr/bin", "/usr/games", "/usr/include", "/usr/lib", "/usr/local/bin",
   "/usr/local/lib", "/usr/sbin", "/usr/share", "/usr/src", "/var/cache", "/var/lib", "/var/log",
   "/var/tmp"]

/-- Top-level names that stand for directories under `/usr`. -/
def mergedDirectories : List (String × String) :=
  [("/bin", "usr/bin"), ("/lib", "usr/lib"), ("/sbin", "usr/sbin")]

/-- Directories in which everyone may leave files. -/
def sharedDirectories : List String := ["/tmp", "/var/tmp"]

def setPermissions (tree : Tree) (path : String) (permissions : Nat) : Tree :=
  match tree.resolve root (Bytes.ofString path) with
  | .ok node =>
    { tree with records := tree.records.modify node fun r => { r with permissions } }
  | .error _ => tree

/-- A freshly installed system. -/
def system : Tree :=
  let bare := systemDirectories.foldl (fun t p => t.makeDirectories root (Bytes.ofString p)) empty
  let merged := mergedDirectories.foldl
    (fun t l => t.putLink root (Bytes.ofString l.1) (Bytes.ofString l.2)) bare
  let shared := sharedDirectories.foldl (fun t p => t.setPermissions p 0o1777) merged
  let withDevice := match shared.resolve root (Bytes.ofString "/dev") with
    | .ok dev => shared.add dev (Bytes.ofString "null") .sinkhole 0o666
    | .error _ => shared
  let withFile := withDevice.putFile root (Bytes.ofString "/etc/passwd")
    (Bytes.ofString "root:x:0:0:root:/root:/bin/bash\n") false
  match withFile.resolve root (Bytes.ofString "/usr/bin") with
  | .ok bin =>
    Tool.installed.foldl (fun t e => t.add bin (Bytes.ofString e.1) (.program e.2) 0o755) withFile
  | .error _ => withFile

end Tree

end JobShell.Files
