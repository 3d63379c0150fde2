import JobShell.Proofs.Kernel

/-!
# A system to run on

The laws of a `ProcessHost` can be met: `Simulation` meets them with a kernel in which nothing
happens unasked.  Its children are given the numbers that it has been set up with, as long as these
are free, and a child that is waited for ends with status 0 if it has not ended before.
-/

namespace JobShell

/-- The kernel of a shell that has started no child. -/
def Kernel.fresh : Kernel where
  born := []
  children _ := none
  ending _ := none
  watched := false
  news := false
  children_lt h := by cases h
  ending_lt h := by cases h

structure Simulation where
  kernel : Kernel := .fresh
  /-- The numbers of the next children. -/
  numbers : List Pid

namespace Simulation

/-- The failure of a system that has no room for a child. -/
def noRoom : Errno := ⟨11⟩

/-- An outcome in which no child writes. -/
def quiet {α : Type} (sim : Simulation) (value : α) (kernel : Kernel) :
    Outcome Output Simulation α :=
  ⟨value, [], { sim with kernel }⟩

def launch (argv : Argv) (sim : Simulation) : Outcome Output Simulation (Except Errno Pid) :=
  match sim.numbers with
  | pid :: rest =>
    if 0 < pid.number ∧ sim.kernel.children pid = none then
      quiet { sim with numbers := rest } (.ok pid) (sim.kernel.start argv pid)
    else quiet sim (.error noRoom) sim.kernel
  | [] => quiet sim (.error noRoom) sim.kernel

def look (pid : Pid) (sim : Simulation) : Outcome Output Simulation WaitAnswer :=
  match sim.kernel.children pid with
  | none => quiet sim (.failed Errno.noChild) sim.kernel
  | some child =>
    match sim.kernel.ending child with
    | none => quiet sim .alive sim.kernel
    | some e => quiet sim e.answer (sim.kernel.collect pid)

def wait (pid : Pid) (sim : Simulation) : Outcome Output Simulation WaitAnswer :=
  match hchild : sim.kernel.children pid with
  | none => quiet sim (.failed Errno.noChild) sim.kernel
  | some child =>
    match sim.kernel.ending child with
    | none => quiet sim (.exited 0) ((sim.kernel.finish hchild (.exited 0)).collect pid)
    | some e => quiet sim e.answer (sim.kernel.collect pid)

/-- The child with this number ends, if there is one that runs. -/
def ends (pid : Pid) (e : Ending) (sim : Simulation) : Simulation :=
  match hchild : sim.kernel.children pid with
  | none => sim
  | some child =>
    match sim.kernel.ending child with
    | none => { sim with kernel := sim.kernel.finish hchild e }
    | some _ => sim

theorem passes_ends (pid : Pid) (e : Ending) (sim : Simulation) :
    sim.kernel.Passes (sim.ends pid e).kernel := by
  unfold ends
  split
  · exact Relation.ReflTransGen.refl
  · rename_i hchild
    split
    · rename_i hruns
      exact Relation.ReflTransGen.single (Kernel.Happens.ends _ hchild hruns e)
    · exact Relation.ReflTransGen.refl

theorem isFinal_wait (pid : Pid) (sim : Simulation) : (sim.wait pid).value.isFinal = true := by
  unfold wait
  split
  · rfl
  · split
    · rfl
    · exact Ending.isFinal_answer _

instance : Host Simulation where
  launch := launch
  wait := wait
  look := look
  takeChildNews sim := quiet sim sim.kernel.news sim.kernel.takeNews
  watchChildren sim := quiet sim (.ok ()) sim.kernel.watch
  catchInterrupts sim := quiet sim (.ok ()) sim.kernel
  changeDirectory _ sim := quiet sim (.ok ()) sim.kernel
  flush sim := quiet sim (.ok ()) sim.kernel
  home _ := none
  hostName _ := "host"
  userName _ := "user"
  now _ := 0
  patience _ _ := 0
  patience_wait {pid sim} h := by
    rw [isFinal_wait pid sim] at h
    cases h

/-- An answer that is given with no time around it. -/
theorem during_now {α : Type} {effect : Kernel → α → Kernel → Prop} {k k' : Kernel} {answer : α}
    (h : effect k answer k') : Kernel.During effect k answer k' :=
  ⟨k, k', Relation.ReflTransGen.refl, h, Relation.ReflTransGen.refl⟩

theorem during_launch (argv : Argv) (sim : Simulation) :
    Kernel.During (Kernel.Starts argv) sim.kernel (sim.launch argv).value
      (sim.launch argv).state.kernel := by
  refine during_now ?_
  unfold launch
  split
  · split
    · rename_i hfree
      exact Kernel.Starts.started hfree.1 hfree.2
    · exact Kernel.Starts.refused _
  · exact Kernel.Starts.refused _

theorem looks (pid : Pid) (sim : Simulation) :
    Kernel.Looks pid sim.kernel (sim.look pid).value (sim.look pid).state.kernel := by
  unfold look
  split
  · rename_i hnone
    exact Kernel.Looks.unknown hnone
  · rename_i hchild
    split
    · rename_i hruns
      exact Kernel.Looks.running hchild hruns
    · rename_i hended
      exact Kernel.Looks.collected hchild hended

/-- A child that is waited for may end first, and is collected then. -/
theorem during_wait (pid : Pid) (sim : Simulation) :
    Kernel.During (Kernel.Waits pid) sim.kernel (sim.wait pid).value
      (sim.wait pid).state.kernel := by
  unfold wait
  split
  · rename_i hnone
    exact during_now (Kernel.Waits.unknown hnone)
  · rename_i child hchild
    split
    · rename_i hruns
      have hended : (sim.kernel.finish hchild (.exited 0)).ending child = some (.exited 0) :=
        Function.update_self _ _ _
      have hstays : (sim.kernel.finish hchild (.exited 0)).children pid = some child := hchild
      exact ⟨_, _, Relation.ReflTransGen.single (Kernel.Happens.ends _ hchild hruns _),
        Kernel.Waits.collected hstays hended, Relation.ReflTransGen.refl⟩
    · rename_i hended
      exact during_now (Kernel.Waits.collected hchild hended)

instance : ProcessHost Simulation where
  kernel := kernel
  launch := during_launch
  wait {pid} _ sim := during_wait pid sim
  look {pid} _ sim := during_now (looks pid sim)
  takeChildNews sim := during_now (Kernel.Tells.told sim.kernel)
  watchChildren sim := during_now (Kernel.Watches.watching sim.kernel)
  catchInterrupts _ := Relation.ReflTransGen.refl
  changeDirectory _ _ := Relation.ReflTransGen.refl
  flush _ := Relation.ReflTransGen.refl

/-- A system with room for one child, which gets the number 7. -/
def single : Simulation := { numbers := [⟨7⟩] }

/-- A command that runs in the background. -/
def sleeper : Command := ⟨"sleep 1 ", "sleep", ["1"], true⟩

end Simulation

end JobShell
