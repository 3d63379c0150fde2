import JobShell.Proofs.Recorded
import Mathlib.Logic.Function.Basic
import Mathlib.Logic.Relation

/-!
# The system's account of the shell's children

What is assumed of the system is said here, as laws of a host (`ProcessHost`).  Behind such a host
stands a `Kernel`: which children were started, under which process numbers those are found that
have not been collected, how children ended, and the mark that news of a child leaves.  Children end
by themselves, at any time (`Passes`); an answer is given at one moment, with any number of ends
before and after it (`During`).

`Later` is all that the proofs keep of a stretch of time: nothing but the numbers it names is
touched, ends are final, and an end leaves its mark.  Where news is taken meanwhile, all but the
mark is kept (`Keeps`).
-/

namespace JobShell

/-- How a child ended. -/
inductive Ending
  | exited (code : Int)
  | signaled (signal : Signal)
  /-- Killed by a real-time signal, which the shell has no name for. -/
  | unnamed
  deriving DecidableEq, Repr

namespace Ending

/-- What is told of it to who collects the child. -/
def answer : Ending → WaitAnswer
  | exited code => .exited code
  | signaled signal => .signaled signal
  | unnamed => .failed Errno.invalid

/-- What a command comes to whose child ended so. -/
def result : Ending → Except ProcessError Status
  | exited code => .ok (.exited code)
  | signaled signal => .ok (.signaled signal)
  | unnamed => .error (.wait Errno.invalid)

end Ending

/-- The children of the shell; each is known by its place among all that were started. -/
structure Kernel where
  /-- What the children were started on, in order. -/
  born : List Argv
  /-- The children that have not been collected. -/
  children : Pid → Option Nat
  /-- How children ended; `none` for one that runs. -/
  ending : Nat → Option Ending
  /-- The shell has asked to be told of its children. -/
  watched : Bool
  /-- The mark of news. -/
  news : Bool
  children_lt : ∀ {pid child}, children pid = some child → child < born.length
  ending_lt : ∀ {child e}, ending child = some e → child < born.length

namespace Kernel

/-! ## What happens -/

/-- A child ends; in the same step it can be collected and the mark is set. -/
def finish (k : Kernel) {pid : Pid} {child : Nat} (hchild : k.children pid = some child)
    (e : Ending) : Kernel :=
  { k with
    ending := Function.update k.ending child (some e)
    news := k.news || k.watched
    ending_lt := by
      intro other e' h
      by_cases hother : other = child
      · rw [hother]; exact k.children_lt hchild
      · rw [Function.update_of_ne hother] at h; exact k.ending_lt h }

/-- A child changes in some way that is not its end. -/
def stir (k : Kernel) : Kernel := { k with news := k.news || k.watched }

def collect (k : Kernel) (pid : Pid) : Kernel :=
  { k with
    children := Function.update k.children pid none
    children_lt := by
      intro other child h
      by_cases hother : other = pid
      · rw [hother, Function.update_self] at h; cases h
      · rw [Function.update_of_ne hother] at h; exact k.children_lt h }

def start (k : Kernel) (argv : Argv) (pid : Pid) : Kernel :=
  { k with
    born := k.born ++ [argv]
    children := Function.update k.children pid (some k.born.length)
    children_lt := by
      intro other child h
      rw [List.length_append, List.length_singleton]
      by_cases hother : other = pid
      · rw [hother, Function.update_self, Option.some.injEq] at h; omega
      · rw [Function.update_of_ne hother] at h
        have := k.children_lt h
        omega
    ending_lt := by
      intro child e h
      have := k.ending_lt h
      rw [List.length_append, List.length_singleton]
      omega }

def takeNews (k : Kernel) : Kernel := { k with news := false }

def watch (k : Kernel) : Kernel := { k with watched := true }

/-- One thing that happens by itself. -/
inductive Happens : Kernel → Kernel → Prop
  | ends (k : Kernel) {pid : Pid} {child : Nat} (hchild : k.children pid = some child)
      (hruns : k.ending child = none) (e : Ending) : Happens k (k.finish hchild e)
  | stirs (k : Kernel) : Happens k k.stir

/-- Time passes. -/
abbrev Passes : Kernel → Kernel → Prop := Relation.ReflTransGen Happens

/-! ## What is answered -/

/-- A child is started under a number that no child has, or none is started. -/
inductive Starts (argv : Argv) : Kernel → Except Errno Pid → Kernel → Prop
  | started {k : Kernel} {pid : Pid} (hpos : 0 < pid.number) (hfree : k.children pid = none) :
      Starts argv k (.ok pid) (k.start argv pid)
  | refused {k : Kernel} (errno : Errno) : Starts argv k (.error errno) k

/-- A look at a child: one that has ended is told of and collected. -/
inductive Looks (pid : Pid) : Kernel → WaitAnswer → Kernel → Prop
  | running {k : Kernel} {child : Nat} (hchild : k.children pid = some child)
      (hruns : k.ending child = none) : Looks pid k .alive k
  | collected {k : Kernel} {child : Nat} {e : Ending} (hchild : k.children pid = some child)
      (hended : k.ending child = some e) : Looks pid k e.answer (k.collect pid)
  | unknown {k : Kernel} (hnone : k.children pid = none) :
      Looks pid k (.failed Errno.noChild) k

/-- A wait for a child: it may be broken off, and then says nothing of its end. -/
inductive Waits (pid : Pid) : Kernel → WaitAnswer → Kernel → Prop
  | brokenOff {k : Kernel} {child : Nat} {answer : WaitAnswer}
      (hchild : k.children pid = some child) (hopen : answer.isFinal = false) : Waits pid k answer k
  | collected {k : Kernel} {child : Nat} {e : Ending} (hchild : k.children pid = some child)
      (hended : k.ending child = some e) : Waits pid k e.answer (k.collect pid)
  | unknown {k : Kernel} (hnone : k.children pid = none) :
      Waits pid k (.failed Errno.noChild) k

/-- The mark is taken away and told of. -/
inductive Tells : Kernel → Bool → Kernel → Prop
  | told (k : Kernel) : Tells k k.news k.takeNews

inductive Watches : Kernel → Except String Unit → Kernel → Prop
  | watching (k : Kernel) : Watches k (.ok ()) k.watch
  | refused (k : Kernel) (text : String) : Watches k (.error text) k

/-- An answer given at one moment of a stretch of time. -/
def During {α : Type} (effect : Kernel → α → Kernel → Prop) (before : Kernel) (answer : α)
    (after : Kernel) : Prop :=
  ∃ k k', before.Passes k ∧ effect k answer k' ∧ k'.Passes after

end Kernel

/-- A host that treats the shell's children as the system does. -/
class ProcessHost (σ : Type) [Host σ] where
  kernel : σ → Kernel
  launch (argv : Argv) (host : σ) : Kernel.During (Kernel.Starts argv) (kernel host)
    (Host.launch argv host).value (kernel (Host.launch argv host).state)
  wait {pid : Pid} (hpos : 0 < pid.number) (host : σ) : Kernel.During (Kernel.Waits pid)
    (kernel host) (Host.wait pid host).value (kernel (Host.wait pid host).state)
  look {pid : Pid} (hpos : 0 < pid.number) (host : σ) : Kernel.During (Kernel.Looks pid)
    (kernel host) (Host.look pid host).value (kernel (Host.look pid host).state)
  takeChildNews (host : σ) : Kernel.During Kernel.Tells (kernel host)
    (Host.takeChildNews host).value (kernel (Host.takeChildNews host).state)
  watchChildren (host : σ) : Kernel.During Kernel.Watches (kernel host)
    (Host.watchChildren host).value (kernel (Host.watchChildren host).state)
  catchInterrupts (host : σ) :
    (kernel host).Passes (kernel (Host.catchInterrupts host).state)
  changeDirectory (path : Bytes) (host : σ) :
    (kernel host).Passes (kernel (Host.changeDirectory path host).state)
  flush (host : σ) : (kernel host).Passes (kernel (Host.flush host).state)

open ProcessHost (kernel)

instance {σ : Type} [Host σ] [ProcessHost σ] : ProcessHost (Recorded σ) where
  kernel recorded := kernel recorded.host
  launch argv recorded := ProcessHost.launch argv recorded.host
  wait hpos recorded := ProcessHost.wait hpos recorded.host
  look hpos recorded := ProcessHost.look hpos recorded.host
  takeChildNews recorded := ProcessHost.takeChildNews recorded.host
  watchChildren recorded := ProcessHost.watchChildren recorded.host
  catchInterrupts recorded := ProcessHost.catchInterrupts recorded.host
  changeDirectory path recorded := ProcessHost.changeDirectory path recorded.host
  flush recorded := ProcessHost.flush recorded.host

namespace Kernel

/-! ## A stretch of time -/

/-- What a stretch of time leaves of the children: those at the numbers named may have been started
or collected, no others, and ends are final. -/
structure Keeps (touched : List Pid) (k k' : Kernel) : Prop where
  born : k.born <+: k'.born
  watched : k'.watched = k.watched
  spared : ∀ pid ∉ touched, k'.children pid = k.children pid
  ending : ∀ {child e}, k.ending child = some e → k'.ending child = some e

/-- The same of a stretch of time in which no news was taken: a child that ended left its mark. -/
structure Later (touched : List Pid) (k k' : Kernel) : Prop extends Keeps touched k k' where
  news : k.news = true → k'.news = true
  noticed : k.watched = true → ∀ {child e}, k.ending child = none → k'.ending child = some e →
    k'.news = true

namespace Keeps

variable {touched more : List Pid} {k k' k'' : Kernel}

theorem mono (h : Keeps touched k k') (hsub : ∀ pid ∈ touched, pid ∈ more) : Keeps more k k' :=
  { h with spared := fun pid hpid => h.spared pid fun hmem => hpid (hsub pid hmem) }

theorem trans (h : Keeps touched k k') (h' : Keeps touched k' k'') : Keeps touched k k'' where
  born := h.born.trans h'.born
  watched := h'.watched.trans h.watched
  spared pid hpid := (h'.spared pid hpid).trans (h.spared pid hpid)
  ending hended := h'.ending (h.ending hended)

end Keeps

namespace Later

variable {touched more : List Pid} {k k' k'' : Kernel}

theorem refl (k : Kernel) : Later touched k k where
  born := List.prefix_rfl
  watched := rfl
  spared _ _ := rfl
  ending h := h
  news h := h
  noticed _ _ _ h h' := by rw [h] at h'; cases h'

theorem mono (h : Later touched k k') (hsub : ∀ pid ∈ touched, pid ∈ more) : Later more k k' :=
  { h with toKeeps := h.toKeeps.mono hsub }

/-- A number at which nothing was changed need not be named. -/
theorem spare {pid : Pid} (h : Later (pid :: touched) k k')
    (hpid : k'.children pid = k.children pid) : Later touched k k' :=
  { h with
    spared := by
      intro other hother
      by_cases heq : other = pid
      · rw [heq]
        exact hpid
      · exact h.spared other (List.not_mem_cons_of_ne_of_not_mem heq hother) }

theorem trans (h : Later touched k k') (h' : Later touched k' k'') : Later touched k k'' where
  toKeeps := h.toKeeps.trans h'.toKeeps
  news hnews := h'.news (h.news hnews)
  noticed hwatched child e hruns hended := by
    -- the child has ended either before the middle or after it
    cases hmid : k'.ending child with
    | none => exact h'.noticed (h.watched.trans hwatched) hmid hended
    | some e' => exact h'.news (h.noticed hwatched hruns hmid)

end Later

theorem Happens.later {k k' : Kernel} (h : Happens k k') : Later [] k k' := by
  cases h with
  | @ends pid child hchild hruns e =>
    refine ⟨⟨List.prefix_rfl, rfl, fun _ _ => rfl, ?_⟩, ?_, ?_⟩
    · intro other e' hended
      have hother : other ≠ child := by
        rintro rfl
        rw [hruns] at hended
        cases hended
      show Function.update k.ending child (some e) other = some e'
      rw [Function.update_of_ne hother]
      exact hended
    · intro hnews
      show (k.news || k.watched) = true
      rw [hnews, Bool.true_or]
    · intro hwatched other e' _ _
      show (k.news || k.watched) = true
      rw [hwatched, Bool.or_true]
  | stirs =>
    refine ⟨⟨List.prefix_rfl, rfl, fun _ _ => rfl, fun h => h⟩, ?_, ?_⟩
    · intro hnews
      show (k.news || k.watched) = true
      rw [hnews, Bool.true_or]
    · intro hwatched _ _ _ _
      show (k.news || k.watched) = true
      rw [hwatched, Bool.or_true]

theorem Passes.later {k k' : Kernel} (h : k.Passes k') : Later [] k k' := by
  induction h with
  | refl => exact Later.refl k
  | tail _ h ih => exact ih.trans h.later

theorem later_collect (k : Kernel) (pid : Pid) : Later [pid] k (k.collect pid) where
  born := List.prefix_rfl
  watched := rfl
  spared other hother := Function.update_of_ne (by simpa using hother) _ _
  ending h := h
  news h := h
  noticed := (Later.refl k : Later [pid] k k).noticed

theorem later_start (k : Kernel) (argv : Argv) (pid : Pid) : Later [pid] k (k.start argv pid) where
  born := List.prefix_append _ _
  watched := rfl
  spared other hother := Function.update_of_ne (by simpa using hother) _ _
  ending h := h
  news h := h
  noticed := (Later.refl k : Later [pid] k k).noticed

/-- Time spent around an effect touches what the effect touches. -/
theorem During.later {α : Type} {effect : Kernel → α → Kernel → Prop} {touched : List Pid}
    {answer : α} (heffect : ∀ {k k'}, effect k answer k' → Later touched k k')
    {before after : Kernel} (h : During effect before answer after) :
    Later touched before after := by
  obtain ⟨k, k', hbefore, hk, hafter⟩ := h
  exact (hbefore.later.mono (by simp)).trans ((heffect hk).trans (hafter.later.mono (by simp)))

theorem During.before {α : Type} {effect : Kernel → α → Kernel → Prop} {answer : α}
    {start before after : Kernel} (hpass : start.Passes before)
    (h : During effect before answer after) : During effect start answer after := by
  obtain ⟨k, k', hbefore, hk, hafter⟩ := h
  exact ⟨k, k', hpass.trans hbefore, hk, hafter⟩

theorem Looks.later {pid : Pid} {k k' : Kernel} {answer : WaitAnswer}
    (h : Looks pid k answer k') : Later [pid] k k' := by
  cases h with
  | running => exact Later.refl k
  | collected => exact later_collect k pid
  | unknown => exact Later.refl k

theorem Waits.later {pid : Pid} {k k' : Kernel} {answer : WaitAnswer}
    (h : Waits pid k answer k') : Later [pid] k k' := by
  cases h with
  | brokenOff => exact Later.refl k
  | collected => exact later_collect k pid
  | unknown => exact Later.refl k

/-! ## What a question does to a child of one's own -/

theorem Passes.born {k k' : Kernel} (h : k.Passes k') : k'.born = k.born := by
  induction h with
  | refl => rfl
  | tail _ h ih => cases h <;> exact ih

theorem During.born {α : Type} {effect : Kernel → α → Kernel → Prop} {answer : α}
    (heffect : ∀ {k k'}, effect k answer k' → k'.born = k.born)
    {before after : Kernel} (h : During effect before answer after) :
    after.born = before.born := by
  obtain ⟨k, k', hbefore, hk, hafter⟩ := h
  rw [hafter.born, heffect hk, hbefore.born]

theorem During.born_looks {pid : Pid} {answer : WaitAnswer} {k k' : Kernel}
    (h : During (Looks pid) k answer k') : k'.born = k.born :=
  h.born fun hk => by cases hk <;> rfl

theorem During.born_waits {pid : Pid} {answer : WaitAnswer} {k k' : Kernel}
    (h : During (Waits pid) k answer k') : k'.born = k.born :=
  h.born fun hk => by cases hk <;> rfl

/-- The moment of an answer, for a child that was there before: it is there at that moment, and what
became of it then is what is left after. -/
theorem During.moment {α : Type} {effect : Kernel → α → Kernel → Prop} {answer : α} {pid : Pid}
    {k k' : Kernel} {child : Nat} (h : During effect k answer k')
    (hchild : k.children pid = some child) :
    ∃ a b, effect a answer b ∧ a.children pid = some child ∧
      (a.ending child = none → k.ending child = none) ∧ k'.children pid = b.children pid ∧
      ∀ {e}, b.ending child = some e → k'.ending child = some e := by
  obtain ⟨a, b, hbefore, heffect, hafter⟩ := h
  refine ⟨a, b, heffect, ?_, ?_, hafter.later.spared pid List.not_mem_nil, hafter.later.ending⟩
  · rw [hbefore.later.spared pid List.not_mem_nil, hchild]
  · intro hruns
    cases hk : k.ending child with
    | none => rfl
    | some e => rw [hbefore.later.ending hk] at hruns; cases hruns

/-- A look at a child of one's own: it runs and stays, or it has ended, is told of and is gone. -/
theorem During.looks_own {pid : Pid} {answer : WaitAnswer} {k k' : Kernel} {child : Nat}
    (h : During (Looks pid) k answer k') (hchild : k.children pid = some child) :
    (answer = .alive ∧ k.ending child = none ∧ k'.children pid = some child) ∨
      ∃ e, answer = e.answer ∧ k'.ending child = some e ∧ k'.children pid = none := by
  obtain ⟨a, b, hlook, ha, hbefore, hsame, hafter⟩ := h.moment hchild
  cases hlook with
  | running hown hruns =>
    rw [ha, Option.some.injEq] at hown
    subst hown
    exact Or.inl ⟨rfl, hbefore hruns, hsame.trans ha⟩
  | @collected _ e hown hended =>
    rw [ha, Option.some.injEq] at hown
    subst hown
    exact Or.inr ⟨e, rfl, hafter hended, hsame.trans (Function.update_self _ _ _)⟩
  | unknown hnone => rw [ha] at hnone; cases hnone

/-- A wait for a child of one's own: it is broken off and the child stays, or the child has ended,
is told of and is gone. -/
theorem During.waits_own {pid : Pid} {answer : WaitAnswer} {k k' : Kernel} {child : Nat}
    (h : During (Waits pid) k answer k') (hchild : k.children pid = some child) :
    (answer.isFinal = false ∧ k'.children pid = some child) ∨
      ∃ e, answer = e.answer ∧ k'.ending child = some e ∧ k'.children pid = none := by
  obtain ⟨a, b, hwait, ha, -, hsame, hafter⟩ := h.moment hchild
  cases hwait with
  | brokenOff hown hopen => exact Or.inl ⟨hopen, hsame.trans ha⟩
  | @collected _ e hown hended =>
    rw [ha, Option.some.injEq] at hown
    subst hown
    exact Or.inr ⟨e, rfl, hafter hended, hsame.trans (Function.update_self _ _ _)⟩
  | unknown hnone => rw [ha] at hnone; cases hnone

/-- A child that is started is found under a number that was free, and is the next one. -/
theorem During.starts_ok {argv : Argv} {pid : Pid} {k k' : Kernel}
    (h : During (Starts argv) k (.ok pid) k') :
    0 < pid.number ∧ k.children pid = none ∧ k'.children pid = some k.born.length ∧
      k'.born = k.born ++ [argv] ∧ Later [pid] k k' := by
  have hlater : Later [pid] k k' := h.later fun hk => by cases hk; exact later_start _ _ _
  obtain ⟨a, b, hbefore, hstart, hafter⟩ := h
  cases hstart with
  | started hpos hfree =>
    refine ⟨hpos, ?_, ?_, ?_, hlater⟩
    · rw [← hbefore.later.spared pid List.not_mem_nil, hfree]
    · rw [hafter.later.spared pid List.not_mem_nil, ← hbefore.born]
      exact Function.update_self _ _ _
    · rw [hafter.born, ← hbefore.born]
      rfl

/-- Where no child is started, time passes and nothing else. -/
theorem During.starts_error {argv : Argv} {errno : Errno} {k k' : Kernel}
    (h : During (Starts argv) k (.error errno) k') : k.Passes k' := by
  obtain ⟨a, b, hbefore, hstart, hafter⟩ := h
  cases hstart
  exact hbefore.trans hafter

end Kernel

/-- An answer that tells of an end ends a wait. -/
theorem Ending.isFinal_answer (e : Ending) : e.answer.isFinal = true := by
  cases e <;> rfl

end JobShell
