import JobShell.Machine.Basic

/-!
What the machine answers to the requests of a process.

`perform` gives no answer to a request that has to wait.
-/

namespace JobShell.Machine

open Files

/-! ### Descriptors -/

/-- How many bytes a pipe holds. -/
def pipeRoom : Nat := 65536

def withNow (machine : Machine) : Tree := { machine.tree with now := machine.clock }

/-- Puts something else in the place of an opened file. -/
def reopen (process : Process) (number : Nat) (opened : Opened) (machine : Machine) : Machine :=
  match process.descriptor? number with
  | some d => { machine with opened := machine.opened.set! d.opened opened }
  | none => machine

/-- Reads through a descriptor. -/
def read (process : Process) (number count : Nat) (machine : Machine) :
    Option (Except Errno Bytes × Machine) :=
  match machine.openedBy process number with
  | none | some (.stream _) | some (.pipe _ true) => some (.error .badDescriptor, machine)
  | some (.text rest) =>
    some (.ok (rest.take count), machine.reopen process number (.text (rest.drop count)))
  | some (.node node place how) =>
    if !how.reads then some (.error .badDescriptor, machine)
    else if machine.tree.isDirectory node then some (.error .isDirectory, machine)
    else
      let bytes := ((machine.tree.contentOf node).drop place).take count
      some (.ok bytes, machine.reopen process number (.node node (place + bytes.length) how))
  | some (.pipe pipe false) =>
    let content := machine.pipes[pipe]?.getD []
    if content.isEmpty && machine.isHeld pipe true then
      if process.caught.isEmpty then none else some (.error .interrupted, machine)
    else
      some (.ok (content.take count),
        { machine with pipes := machine.pipes.set! pipe (content.drop count) }.stir)

/-- What comes of writing: how much was taken, or why nothing can be. -/
inductive Writing
  | taken (count : Nat) (machine : Machine)
  | failed (errno : Errno)

/-- Writes through a descriptor as much as there is room for. -/
def write (process : Process) (number : Nat) (bytes : Bytes) (machine : Machine) : Writing :=
  match machine.openedBy process number with
  | none | some (.text _) | some (.pipe _ false) => .failed .badDescriptor
  | some (.stream stream) => .taken bytes.length (machine.tell (.written stream bytes))
  | some (.node node place how) =>
    if !how.writes then .failed .badDescriptor
    else
      let place := if how.appends then (machine.tree.contentOf node).length else place
      let tree := machine.withNow.write node place bytes
      let after := { machine with tree }
      .taken bytes.length (after.reopen process number (.node node (place + bytes.length) how))
  | some (.pipe pipe true) =>
    if !machine.isHeld pipe false then .failed .brokenPipe
    else
      let content := machine.pipes[pipe]?.getD []
      let count := min bytes.length (pipeRoom - content.length)
      .taken count
        { machine with pipes := machine.pipes.set! pipe (content ++ bytes.take count) }.stir

/-- Gives a process a descriptor for an opened file. -/
def giveDescriptor (process : Process) (opened : Opened) (machine : Machine) : Nat × Machine :=
  let number := process.freeDescriptor 0
  let held := process.hold { number, opened := machine.opened.size }
  (number, { machine with opened := machine.opened.push opened }.put process held)

/-! ### Files -/

/-- A path under which a process is listed. -/
inductive Listed
  | directory
  | status (process : Process)

/-- The process that a path lists. -/
def listed? (machine : Machine) (process : Process) (path : Bytes) : Option Listed :=
  let numberOf := fun (text : Bytes) =>
    if text = Bytes.ofString "self" then some process.number else (Bytes.text? text).bind String.toNat?
  if !isAbsolute path then none
  else match names path with
    | [first, second] =>
      if first = Bytes.ofString "proc" then
        (numberOf second).bind fun n =>
          if n = machine.shellNumber || (machine.process? n).isSome then some .directory else none
      else none
    | [first, second, third] =>
      if first = Bytes.ofString "proc" ∧ third = Bytes.ofString "stat" then
        ((numberOf second).bind machine.process?).map .status
      else none
    | _ => none

/-- The own descriptor that a path names. -/
def ownDescriptor? (path : Bytes) : Option Nat :=
  match Bytes.text? path with
  | some "/dev/stdin" => some 0
  | some "/dev/stdout" => some 1
  | some "/dev/stderr" => some 2
  | some text =>
    if text.startsWith "/dev/fd/" then (text.drop 8).toNat?
    else if text.startsWith "/proc/self/fd/" then (text.drop 14).toNat?
    else none
  | none => none

/-- Opens a file of the tree. -/
def openNode (process : Process) (path : Bytes) (how : Opening) (machine : Machine) :
    Except Errno (Nat × Machine) :=
  let give := fun (node : NodeId) (tree : Tree) =>
    .ok ({ machine with tree }.giveDescriptor process (.node node 0 how))
  match machine.tree.resolve process.directory path with
  | .ok node =>
    if how.isNew then .error .fileExists
    else if machine.tree.isDirectory node then
      if how.writes || how.creates then .error .isDirectory else give node machine.tree
    else if how.creates && endsInSlash path then .error .isDirectory
    else give node (if how.truncates then machine.withNow.truncate node else machine.tree)
  | .error e =>
    if e = Errno.noEntry && how.creates then do
      let permissions := 0o666 &&& (0o777 - process.mask &&& 0o777)
      let (node, tree) ← machine.withNow.create process.directory path permissions maxLinks
      give node tree
    else .error e

def openFile (process : Process) (path : Bytes) (how : Opening) (machine : Machine) :
    Except Errno (Nat × Machine) :=
  match machine.listed? process path, ownDescriptor? path with
  | some (.status shown), _ =>
    if how.writes then .error .access
    else .ok (machine.giveDescriptor process (.text shown.statusLine))
  | _, some number =>
    match machine.openedBy process number with
    | some opened => .ok (machine.giveDescriptor process opened)
    | none => .error .noEntry
  | _, none => machine.openNode process path how

/-- What can be learnt of a node. -/
def factsOf (machine : Machine) (node : NodeId) : Facts :=
  let record : Record := machine.tree.records[node]?.getD default
  let kind := match record.node with
    | .directory _ _ => Kind.directory
    | .file _ | .program _ => .file
    | .link _ => .link
    | .sinkhole => .device
  let size := match record.node with
    | .directory _ _ => 4096
    | .link target => target.length
    | .file content => content.length
    | .program _ => 4096
    | .sinkhole => 0
  { node, kind, size, permissions := record.permissions, modified := record.modified }

def inspect (process : Process) (path : Bytes) (follow : Bool) (machine : Machine) :
    Except Errno Facts :=
  match machine.listed? process path with
  | some .directory => .ok { node := 0, kind := .directory, permissions := 0o555 }
  | some (.status _) => .ok { node := 0, kind := .file, permissions := 0o444 }
  | none => (machine.tree.resolve process.directory path follow).map machine.factsOf

def list (process : Process) (path : Bytes) (machine : Machine) : Except Errno (List Bytes) := do
  let node ← machine.tree.resolveDirectory process.directory path
  .ok ((machine.tree.entries node).map (·.1))

/-- Changes the tree of files. -/
def changeTree (change : Tree → Except Errno Tree) (machine : Machine) :
    Except Errno Unit × Machine :=
  match change machine.withNow with
  | .ok tree => (.ok (), { machine with tree })
  | .error e => (.error e, machine)

/-! ### Processes -/

/-- How long it takes until the end of a process can be seen by those who only look. -/
def departure : Nat := 30000

/-- Collects a child that has ended. -/
def collectChild (process : Process) (waits interruptible : Bool) (machine : Machine) :
    Option (ChildNews × Machine) :=
  let children := machine.childrenOf process.number
  let ended := children.findSome? fun child =>
    match child.phase with
    | .ended how =>
      if waits || child.endedAt + departure ≤ machine.clock then some (child.number, how) else none
    | _ => none
  match ended with
  | some (number, how) => some (.ended number how, machine.drop number)
  | none =>
    if children.isEmpty then some (.childless, machine)
    else if interruptible && !process.caught.isEmpty then some (.interrupted, machine)
    else if waits then none
    else some (.nothing, machine)

/-- The greatest signal number. -/
def maxSignal : Nat := 64

/-- Sends a signal from a process; a number that is not positive means all. -/
def sendFrom (target : Int) (signal : Nat) (machine : Machine) : Except Errno Unit × Machine :=
  if maxSignal < signal then (.error .invalid, machine)
  else if 0 < target then
    let isShell := target == machine.shellNumber && !machine.shellHasEnded
    if isShell || (machine.process? target.toNat).isSome then
      (.ok (), machine.send target signal)
    else (.error .noProcess, machine)
  else if target = 0 || target = -1 then
    (.ok (), (machine.processes.map (·.number)).foldl (fun m n => m.send n signal)
      (machine.signalShell signal))
  else (.error .noProcess, machine)

/-- Signals that are ignored from the start, as the shell has them. -/
def ignoredFromStart : List (Nat × Arrangement) := [(Signal.number .pipe, .ignored)]

/-! ### Requests -/

/-- The answer to a request of a process, unless the process has to wait for it. -/
def perform (process : Process) (machine : Machine) :
    (request : Request) → Option (request.Answer × Machine)
  | .pass => some ((), machine)
  | .sleep _ => some ((), machine)
  | .read number count => machine.read process number count
  | .write number bytes =>
    match machine.write process number bytes with
    | .taken _ after => some (.ok (), after)
    | .failed e => some (.error e, machine)
  | .openFile path how =>
    match machine.openFile process path how with
    | .ok (number, after) => some (.ok number, after)
    | .error e => some (.error e, machine)
  | .close number => some ((), (machine.put process (process.close number)).stir)
  | .copy number least =>
    match process.descriptor? number with
    | none => some (.error .badDescriptor, machine)
    | some d =>
      let free := process.freeDescriptor least
      some (.ok free, machine.put process (process.hold ⟨free, d.opened, true⟩))
  | .copyTo number target =>
    match process.descriptor? number with
    | none => some (.error .badDescriptor, machine)
    | some d =>
      if number = target then some (.ok (), machine)
      else some (.ok (), (machine.put process (process.hold ⟨target, d.opened, false⟩)).stir)
  | .pipe =>
    let pipe := machine.pipes.size
    let grown := { machine with pipes := machine.pipes.push [] }
    let (reads, after) := grown.giveDescriptor process (.pipe pipe false)
    let holder := (after.process? process.number).getD process
    let (writes, after) := after.giveDescriptor holder (.pipe pipe true)
    some ((reads, writes), after)
  | .isOpen number => some ((process.descriptor? number).isSome, machine)
  | .isIgnored signal => some (process.arrangement signal == .ignored, machine)
  | .collect waits interruptible => machine.collectChild process waits interruptible
  | .execute _ _ _ => some (.noExec, machine)
  | .signal target number => some (machine.sendFrom target number)
  | .arrange signal how => some ((), machine.put process (process.arrange signal how))
  | .takeSignals =>
    some (process.caught.reverse, machine.put process { process with caught := [] })
  | .changeDirectory path =>
    match machine.tree.resolveDirectory process.directory path with
    | .ok directory => some (.ok (), machine.put process { process with directory })
    | .error e => some (.error e, machine)
  | .directoryPath =>
    match machine.tree.pathOf? process.directory with
    | some path => some (.ok path, machine)
    | none => some (.error .noEntry, machine)
  | .inspect path follow => some (machine.inspect process path follow, machine)
  | .list path => some (machine.list process path, machine)
  | .makeDirectory path permissions =>
    let allowed := permissions &&& (0o7777 - process.mask &&& 0o7777)
    some (machine.changeTree fun t => t.makeDirectory process.directory path allowed)
  | .removeDirectory path =>
    some (machine.changeTree fun t => t.removeDirectory process.directory path)
  | .rename source target replaces =>
    some (machine.changeTree fun t => t.rename process.directory source target replaces)
  | .remove path => some (machine.changeTree fun t => t.remove process.directory path)
  | .identity => some ((process.number, process.parent), machine)
  | .time => some (machine.clock, machine)
  | .setMask mask => some (process.mask, machine.put process { process with mask })

end JobShell.Machine
