import JobShell.Proofs.Known

/-!
# Every status goes to its own command

A dispatcher collects children in two ways: it waits for those in the foreground and scans for those
in the background, while children end in any order and their process numbers are given out again.
The invariant `Attributed` ties the table to the children: its numbers are exactly those of the
background children that have not been collected, and each job stands for the child of the launch
that entered it.  It holds after any run of a fresh dispatcher (`Course.Run.sound`), so each status
is that of the command's own child (`statuses_go_to_their_commands`).
-/

namespace JobShell

open ProcessHost (kernel)

/-- A launch: the command that was dispatched and the child that was born meanwhile. -/
structure Launch where
  command : Command
  child : Nat

namespace Launch

/-- The launches in the background, in their order. -/
def background (launches : List Launch) : List Launch := launches.filter (·.command.isBackground)

/-- The job is the one that this launch entered: it has the launch's place among those in the
background for its number, and the launch's text. -/
def Enters (launches : List Launch) (launch : Launch) (job : Job) : Prop :=
  ∃ n, (background launches)[n]? = some launch ∧ job.id = n + 1 ∧
    job.command = launch.command.rawText

variable {launches : List Launch} {launch : Launch}

theorem background_concat (hback : launch.command.isBackground = true) :
    background (launches ++ [launch]) = background launches ++ [launch] := by
  unfold background
  rw [List.filter_append, List.filter_cons, if_pos hback, List.filter_nil]

theorem background_concat_foreground (hfore : launch.command.isBackground = false) :
    background (launches ++ [launch]) = background launches := by
  unfold background
  rw [List.filter_append, List.filter_cons, if_neg (by rw [hfore]; exact Bool.false_ne_true),
    List.filter_nil, List.append_nil]

theorem Enters.append {job : Job} (h : Enters launches launch job) (more : List Launch) :
    Enters (launches ++ more) launch job := by
  obtain ⟨n, hn, hid, hcommand⟩ := h
  refine ⟨n, ?_, hid, hcommand⟩
  unfold background at hn ⊢
  rw [List.filter_append, List.getElem?_append_left (List.getElem?_eq_some_iff.mp hn).1]
  exact hn

theorem Enters.background {job : Job} (h : Enters launches launch job) :
    launch ∈ launches ∧ launch.command.isBackground = true := by
  obtain ⟨n, hn, -⟩ := h
  exact List.mem_filter.mp (List.mem_of_getElem? hn)

end Launch

open Launch (Enters)

theorem Kernel.Keeps.getElem?_born {touched : List Pid} {k k' : Kernel} {n : Nat} {argv : Argv}
    (h : Kernel.Keeps touched k k') (hargv : k.born[n]? = some argv) :
    k'.born[n]? = some argv := by
  obtain ⟨later, hlater⟩ := h.born
  rw [← hlater, List.getElem?_append_left (List.getElem?_eq_some_iff.mp hargv).1]
  exact hargv

/-- The table has exactly the background children that have not been collected, each under the job
that its own launch entered; no foreground child is left. -/
structure Attributed (table : JobTable) (k : Kernel) (launches : List Launch) : Prop where
  owns : k.Owns (table.jobs.map (·.pid))
  next : table.nextId = (Launch.background launches).length + 1
  born : ∀ launch ∈ launches, ∃ argv, k.born[launch.child]? = some argv ∧
    argv.words = launch.command.arguments
  distinct : (launches.map Launch.child).Nodup
  found : ∀ pid, ∀ launch ∈ launches, k.children pid = some launch.child →
    launch.command.isBackground = true ∧ pid ∈ table.jobs.map (·.pid)
  traced : ∀ job ∈ table.jobs, ∃ launch, Enters launches launch job ∧
    k.children job.pid = some launch.child

namespace Attributed

variable {table : JobTable} {k k' k'' : Kernel} {launches : List Launch}

theorem start {table : JobTable} (hjobs : table.jobs = []) (hnext : table.nextId = 1)
    (k : Kernel) : Attributed table k [] := by
  have hpids : table.jobs.map (·.pid) = [] := by rw [hjobs, List.map_nil]
  refine ⟨?_, hnext, ?_, List.nodup_nil, ?_, ?_⟩
  · rw [hpids]
    exact Kernel.Owns.nil k
  · intro launch hmem
    cases hmem
  · intro pid launch hmem
    cases hmem
  · intro job hjob
    rw [hjobs] at hjob
    cases hjob

theorem lt_born (h : Attributed table k launches) {launch : Launch} (hmem : launch ∈ launches) :
    launch.child < k.born.length := by
  obtain ⟨argv, hargv, -⟩ := h.born launch hmem
  exact (List.getElem?_eq_some_iff.mp hargv).1

theorem passes (h : Attributed table k launches) (hpass : k.Passes k') :
    Attributed table k' launches := by
  have hkeeps := hpass.later.toKeeps
  have hspared : ∀ pid, k'.children pid = k.children pid :=
    fun pid => hkeeps.spared pid List.not_mem_nil
  refine ⟨h.owns.keeps hkeeps fun _ _ => List.not_mem_nil, h.next, ?_, h.distinct, ?_, ?_⟩
  · intro launch hmem
    obtain ⟨argv, hargv, hwords⟩ := h.born launch hmem
    exact ⟨argv, hkeeps.getElem?_born hargv, hwords⟩
  · intro pid launch hmem hchild
    exact h.found pid launch hmem ((hspared pid).symm.trans hchild)
  · intro job hjob
    obtain ⟨launch, henters, hchild⟩ := h.traced job hjob
    exact ⟨launch, henters, (hspared job.pid).trans hchild⟩

/-- A poll takes away the jobs of the children it collects, and no others. -/
theorem collected (h : Attributed table k launches) {settled : List FinishedJob × List Job}
    (hcollected : JobTable.Collected table.jobs k settled k') :
    Attributed { table with jobs := settled.2 } k' launches := by
  refine ⟨hcollected.owns h.owns, h.next, ?_, h.distinct, ?_, ?_⟩
  · intro launch hmem
    rw [hcollected.born]
    exact h.born launch hmem
  · intro pid launch hmem hchild
    show _ ∧ pid ∈ settled.2.map (·.pid)
    by_cases hpid : pid ∈ table.jobs.map (·.pid)
    · obtain ⟨job, hjob, rfl⟩ := List.mem_map.mp hpid
      by_cases hkept : job ∈ settled.2
      · rw [hcollected.stays job hkept] at hchild
        exact ⟨(h.found job.pid launch hmem hchild).1, List.mem_map_of_mem hkept⟩
      · rw [hcollected.gone job hjob hkept] at hchild
        cases hchild
    · rw [hcollected.keeps.spared pid hpid] at hchild
      exact absurd (h.found pid launch hmem hchild).2 hpid
  · intro job hjob
    obtain ⟨launch, henters, hchild⟩ := h.traced job (hcollected.sublist.subset hjob)
    exact ⟨launch, henters, (hcollected.stays job hjob).trans hchild⟩

/-! ## The birth of a child -/

section Birth

variable {cmd : Command} {argv : Argv} {pid : Pid}

theorem born_concat (h : Attributed table k launches)
    (hstart : Kernel.During (Kernel.Starts argv) k (.ok pid) k')
    (hwords : argv.words = cmd.arguments) :
    ∀ launch ∈ launches ++ [⟨cmd, k.born.length⟩], ∃ argv, k'.born[launch.child]? = some argv ∧
      argv.words = launch.command.arguments := by
  obtain ⟨-, -, -, hborn, hlater⟩ := hstart.starts_ok
  intro launch hmem
  rcases List.mem_append.mp hmem with hmem | hmem
  · obtain ⟨argv', hargv, hwords'⟩ := h.born launch hmem
    exact ⟨argv', hlater.toKeeps.getElem?_born hargv, hwords'⟩
  · rw [List.mem_singleton.mp hmem]
    refine ⟨argv, ?_, hwords⟩
    rw [hborn]
    exact List.getElem?_concat_length

theorem distinct_concat (h : Attributed table k launches) :
    ((launches ++ [(⟨cmd, k.born.length⟩ : Launch)]).map Launch.child).Nodup := by
  rw [List.map_append, List.nodup_append]
  refine ⟨h.distinct, List.pairwise_singleton _ _, fun child hchild new hnew heq => ?_⟩
  obtain ⟨launch, hmem, rfl⟩ := List.mem_map.mp hchild
  have hlt := h.lt_born hmem
  rw [heq, List.mem_singleton.mp hnew] at hlt
  exact Nat.lt_irrefl _ hlt

/-- The new child is found under its own number only, and the others where they were. -/
theorem found_concat (h : Attributed table k launches)
    (hstart : Kernel.During (Kernel.Starts argv) k (.ok pid) k') {other : Pid} {launch : Launch}
    (hmem : launch ∈ launches ++ [⟨cmd, k.born.length⟩])
    (hchild : k'.children other = some launch.child) :
    (other = pid ∧ launch = ⟨cmd, k.born.length⟩) ∨
      (launch.command.isBackground = true ∧ other ∈ table.jobs.map (·.pid)) := by
  obtain ⟨-, -, hnew, -, hlater⟩ := hstart.starts_ok
  by_cases hother : other = pid
  · rw [hother, hnew, Option.some.injEq] at hchild
    rcases List.mem_append.mp hmem with hmem | hmem
    · have := h.lt_born hmem
      omega
    · exact Or.inl ⟨hother, List.mem_singleton.mp hmem⟩
  · rw [hlater.spared other (by simpa using hother)] at hchild
    rcases List.mem_append.mp hmem with hmem | hmem
    · exact Or.inr (h.found other launch hmem hchild)
    · rw [List.mem_singleton.mp hmem] at hchild
      exact absurd (k.children_lt hchild) (Nat.lt_irrefl _)

/-- A child that is started in the background is tracked under the number of its launch. -/
theorem tracked (h : Attributed table k launches)
    (hstart : Kernel.During (Kernel.Starts argv) k (.ok pid) k')
    (hwords : argv.words = cmd.arguments) (hback : cmd.isBackground = true) (started : Nat) :
    Attributed { table with
        jobs := table.jobs ++ [⟨table.nextId, pid, cmd.rawText, started⟩]
        nextId := table.nextId + 1 } k' (launches ++ [⟨cmd, k.born.length⟩]) := by
  obtain ⟨hpos, hfree, hnew, -, hlater⟩ := hstart.starts_ok
  have hspared := Kernel.apart_of_not_mem (h.owns.not_mem hfree)
  have hconcat : Launch.background (launches ++ [⟨cmd, k.born.length⟩]) =
      Launch.background launches ++ [⟨cmd, k.born.length⟩] := Launch.background_concat hback
  refine ⟨?_, ?_, h.born_concat hstart hwords, h.distinct_concat, ?_, ?_⟩
  · have howns := h.owns.keeps hlater.toKeeps hspared
    refine (howns.cons hpos (h.owns.not_mem hfree) ⟨_, hnew⟩).perm ?_
    rw [List.map_append]
    exact (List.perm_append_singleton _ _).symm
  · rw [hconcat, List.length_append, List.length_singleton, h.next]
  · intro other launch hmem hchild
    rw [List.map_append]
    rcases h.found_concat hstart hmem hchild with ⟨rfl, rfl⟩ | ⟨hback', hother⟩
    · exact ⟨hback, List.mem_append_right _ (List.mem_singleton_self _)⟩
    · exact ⟨hback', List.mem_append_left _ hother⟩
  · intro job hjob
    rcases List.mem_append.mp hjob with hjob | hjob
    · obtain ⟨launch, henters, hchild⟩ := h.traced job hjob
      refine ⟨launch, henters.append _, ?_⟩
      rw [hlater.spared job.pid (hspared job.pid (List.mem_map_of_mem hjob))]
      exact hchild
    · rw [List.mem_singleton.mp hjob]
      refine ⟨⟨cmd, k.born.length⟩, ⟨_, ?_, h.next, rfl⟩, hnew⟩
      rw [hconcat]
      exact List.getElem?_concat_length

/-- A child that is started and collected again leaves nothing behind. -/
theorem awaited (h : Attributed table k launches)
    (hstart : Kernel.During (Kernel.Starts argv) k (.ok pid) k')
    (hwords : argv.words = cmd.arguments) (hfore : cmd.isBackground = false)
    (hlater : Kernel.Later [pid] k' k'') (hborn : k''.born = k'.born)
    (hgone : k''.children pid = none) :
    Attributed table k'' (launches ++ [⟨cmd, k.born.length⟩]) := by
  obtain ⟨-, hfree, -, -, hstarted⟩ := hstart.starts_ok
  have hspared := Kernel.apart_of_not_mem (h.owns.not_mem hfree)
  refine ⟨?_, ?_, ?_, h.distinct_concat, ?_, ?_⟩
  · exact (h.owns.keeps hstarted.toKeeps hspared).keeps hlater.toKeeps hspared
  · rw [Launch.background_concat_foreground hfore]
    exact h.next
  · rw [hborn]
    exact h.born_concat hstart hwords
  · intro other launch hmem hchild
    by_cases hother : other = pid
    · rw [hother, hgone] at hchild
      cases hchild
    · rw [hlater.spared other (by simpa using hother)] at hchild
      rcases h.found_concat hstart hmem hchild with ⟨heq, -⟩ | hfound
      · exact absurd heq hother
      · exact hfound
  · intro job hjob
    obtain ⟨launch, henters, hchild⟩ := h.traced job hjob
    have hpid := hspared job.pid (List.mem_map_of_mem hjob)
    refine ⟨launch, henters.append _, ?_⟩
    rw [hlater.spared job.pid hpid, hstarted.spared job.pid hpid]
    exact hchild

end Birth

end Attributed

end JobShell
