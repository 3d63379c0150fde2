import JobShell.Proofs.Await
import JobShell.Proofs.Kernel

/-!
# Children of one's own

`Owns` says of process numbers that they are those of own children: then a wait for one collects it
and gives what it ended with (`await_own`).  `Alert` says of own children that an end among them has
left its mark, and taking the mark where there is none tells that none has ended (`tells_silent`).
-/

namespace JobShell

open ProcessHost (kernel)

namespace Kernel

/-! ## Children of one's own -/

/-- These are numbers of children that have not been collected, each standing once. -/
structure Owns (k : Kernel) (pids : List Pid) : Prop where
  positive : ∀ pid ∈ pids, 0 < pid.number
  own : ∀ pid ∈ pids, ∃ child, k.children pid = some child
  nodup : pids.Nodup

/-- The child has ended and has not been collected. -/
def HasEnded (k : Kernel) (pid : Pid) : Prop :=
  ∃ child e, k.children pid = some child ∧ k.ending child = some e

/-- Where one of these children has ended the mark is set. -/
def Alert (k : Kernel) (pids : List Pid) : Prop :=
  ∀ pid ∈ pids, k.HasEnded pid → k.news = true

variable {k k' : Kernel} {pids touched : List Pid}

theorem Owns.nil (k : Kernel) : k.Owns [] where
  positive pid hpid := by cases hpid
  own pid hpid := by cases hpid
  nodup := List.nodup_nil

theorem Owns.sublist {more : List Pid} (h : k.Owns more) (hsub : pids.Sublist more) :
    k.Owns pids where
  positive pid hpid := h.positive pid (hsub.subset hpid)
  own pid hpid := h.own pid (hsub.subset hpid)
  nodup := h.nodup.sublist hsub

theorem Owns.perm {others : List Pid} (h : k.Owns pids) (hperm : pids.Perm others) :
    k.Owns others where
  positive pid hpid := h.positive pid (hperm.mem_iff.mpr hpid)
  own pid hpid := h.own pid (hperm.mem_iff.mpr hpid)
  nodup := hperm.nodup_iff.mp h.nodup

theorem Owns.keeps (h : k.Owns pids) (hkeeps : Keeps touched k k')
    (hapart : ∀ pid ∈ pids, pid ∉ touched) : k'.Owns pids where
  positive := h.positive
  own pid hpid := by
    rw [hkeeps.spared pid (hapart pid hpid)]
    exact h.own pid hpid
  nodup := h.nodup

/-- A number that no child has is none of theirs. -/
theorem Owns.not_mem (h : k.Owns pids) {pid : Pid} (hfree : k.children pid = none) :
    pid ∉ pids := by
  intro hmem
  obtain ⟨child, hown⟩ := h.own pid hmem
  rw [hfree] at hown
  cases hown

theorem apart_of_not_mem {pid : Pid} (hnew : pid ∉ pids) : ∀ other ∈ pids, other ∉ [pid] := by
  intro other hother hmem
  rw [List.mem_singleton.mp hmem] at hother
  exact hnew hother

/-- What touches only the first child leaves the others. -/
theorem Owns.rest {pid : Pid} (h : k.Owns (pid :: pids)) (hkeeps : Keeps [pid] k k') :
    k'.Owns pids :=
  (h.sublist (List.sublist_cons_self _ _)).keeps hkeeps
    (apart_of_not_mem (List.nodup_cons.mp h.nodup).1)

theorem HasEnded.keeps {pid : Pid} (h : k.HasEnded pid) (hkeeps : Keeps touched k k')
    (hapart : pid ∉ touched) : k'.HasEnded pid := by
  obtain ⟨child, e, hchild, hend⟩ := h
  exact ⟨child, e, (hkeeps.spared pid hapart).trans hchild, hkeeps.ending hend⟩

theorem Owns.cons {pid : Pid} (h : k.Owns pids) (hpos : 0 < pid.number) (hnew : pid ∉ pids)
    (hown : ∃ child, k.children pid = some child) : k.Owns (pid :: pids) where
  positive other hother := by
    rcases List.mem_cons.mp hother with rfl | hother
    · exact hpos
    · exact h.positive other hother
  own other hother := by
    rcases List.mem_cons.mp hother with rfl | hother
    · exact hown
    · exact h.own other hother
  nodup := List.nodup_cons.mpr ⟨hnew, h.nodup⟩

/-- An end that comes to be seen has left its mark. -/
theorem Later.news_of_hasEnded (hlater : Later touched k k') (hwatched : k.watched = true)
    {pid : Pid} (hspared : k'.children pid = k.children pid)
    (hbefore : k.HasEnded pid → k.news = true) (hended : k'.HasEnded pid) : k'.news = true := by
  obtain ⟨child, e, hchild, hend⟩ := hended
  rw [hspared] at hchild
  cases hk : k.ending child with
  | none => exact hlater.noticed hwatched hk hend
  | some e' => exact hlater.news (hbefore ⟨child, e', hchild, hk⟩)

theorem Alert.later (h : k.Alert pids) (hlater : Later touched k k')
    (hwatched : k.watched = true) (hapart : ∀ pid ∈ pids, pid ∉ touched) : k'.Alert pids :=
  fun pid hpid hended =>
    hlater.news_of_hasEnded hwatched (hlater.spared pid (hapart pid hpid)) (h pid hpid) hended

/-! ## Taking the news -/

theorem During.keeps_tells {told : Bool} (h : During Tells k told k') : Keeps [] k k' := by
  obtain ⟨a, b, hbefore, htells, hafter⟩ := h
  cases htells
  have htaken : Keeps [] a a.takeNews := ⟨List.prefix_rfl, rfl, fun _ _ => rfl, fun h => h⟩
  exact hbefore.later.toKeeps.trans (htaken.trans hafter.later.toKeeps)

theorem During.born_tells {told : Bool} (h : During Tells k told k') : k'.born = k.born :=
  h.born fun hk => by cases hk; rfl

/-- Where no news is told, none of the children that leave a mark has ended. -/
theorem During.tells_silent {told : Bool} (h : During Tells k told k') (hsilent : told = false)
    (hwatched : k.watched = true) (halert : k.Alert pids) :
    k'.Alert pids ∧ ∀ pid ∈ pids, ¬ k.HasEnded pid := by
  obtain ⟨a, b, hbefore, htells, hafter⟩ := h
  cases htells
  have ha : a.Alert pids := halert.later hbefore.later hwatched fun _ _ => List.not_mem_nil
  have hruns : ∀ pid ∈ pids, ¬ a.HasEnded pid := by
    intro pid hpid hended
    rw [ha pid hpid hended] at hsilent
    cases hsilent
  refine ⟨?_, fun pid hpid hended => ?_⟩
  · have hb : a.takeNews.Alert pids := fun pid hpid hended => absurd hended (hruns pid hpid)
    refine hb.later hafter.later ?_ fun _ _ => List.not_mem_nil
    exact hbefore.later.watched.trans hwatched
  · exact hruns pid hpid (hended.keeps hbefore.later.toKeeps List.not_mem_nil)

end Kernel

theorem Ending.verdict?_answer (e : Ending) : e.answer.verdict? = some e.result := by
  cases e <;> rfl

namespace Child

variable {σ : Type} [Host σ] [ProcessHost σ]

/-! ## Starting a child -/

/-- Either no child is started and time passes, or one is, on the words of the command. -/
theorem spawn_cases (cmd : Command) (host : σ) :
    (∃ error, (spawn cmd host).value = .error error ∧ (∀ errno, error ≠ .wait errno) ∧
      (kernel host).Passes (kernel (spawn cmd host).state)) ∨
    ∃ argv pid, argv.words = cmd.arguments ∧ (spawn cmd host).value = .ok pid ∧
      Kernel.During (Kernel.Starts argv) (kernel host) (.ok pid)
        (kernel (spawn cmd host).state) := by
  unfold spawn
  cases hargv : Argv.ofCommand cmd with
  | error word =>
    exact Or.inl ⟨_, rfl, fun _ => ProcessError.noConfusion, Relation.ReflTransGen.refl⟩
  | ok argv =>
    have hlaunch := ProcessHost.launch argv host
    simp only [Act.bind_value, Act.bind_state, Act.ask_value, Act.ask_state]
    cases hpid : (Host.launch argv host).value with
    | error errno =>
      rw [hpid] at hlaunch
      exact Or.inl ⟨_, rfl, fun _ => ProcessError.noConfusion, hlaunch.starts_error⟩
    | ok pid =>
      rw [hpid] at hlaunch
      exact Or.inr ⟨argv, pid, Argv.words_ofCommand hargv, rfl, hlaunch⟩

/-! ## Waiting for a child -/

/-- Waiting for an own child gives what the child ended with, and collects it. -/
theorem await_own {pid : Pid} (hpos : 0 < pid.number) {child : Nat} {host : σ}
    (hchild : (kernel host).children pid = some child) :
    Kernel.Later [pid] (kernel host) (kernel (await pid host).state) ∧
      (kernel (await pid host).state).born = (kernel host).born ∧
      ∃ e, (kernel (await pid host).state).ending child = some e ∧
        (kernel (await pid host).state).children pid = none ∧
        (await pid host).value = e.result := by
  revert hchild
  refine await_induction pid (fun host result hverdict hchild => ?_)
    (fun host hverdict ih hchild => ?_) host
  · have hwait := ProcessHost.wait hpos host
    rcases hwait.waits_own hchild with ⟨hopen, -⟩ | ⟨e, hanswer, hended, hgone⟩
    · rw [WaitAnswer.verdict?_eq_none_iff.mpr hopen] at hverdict
      cases hverdict
    · rw [hanswer, e.verdict?_answer, Option.some.injEq] at hverdict
      obtain ⟨hvalue, hstate⟩ := await_final (hanswer ▸ e.verdict?_answer)
      rw [hstate]
      exact ⟨hwait.later Kernel.Waits.later, hwait.born_waits, e, hended, hgone, hvalue⟩
  · have hwait := ProcessHost.wait hpos host
    obtain ⟨hvalue, hstate⟩ := await_again hverdict
    rcases hwait.waits_own hchild with ⟨-, hstays⟩ | ⟨e, hanswer, -, -⟩
    · obtain ⟨hlater, hborn, e, hended, hgone, hresult⟩ := ih hstays
      rw [hstate, hvalue]
      exact ⟨(hwait.later Kernel.Waits.later).trans hlater, hborn.trans hwait.born_waits, e,
        hended, hgone, hresult⟩
    · rw [hanswer, e.verdict?_answer] at hverdict
      cases hverdict

end Child

end JobShell
