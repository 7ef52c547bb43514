import MeshControl.Decimal.Text
import MeshControl.Proofs.Table
import MeshControl.Startup

/-!
A program that fails each time it is started is given up with the reason for its last failure, and
no file is left of its attempts. What makes this an induction on the restarts is that an attempt
hands back the directory without the file it wrote, so that the next one fails in the same way.
-/
namespace MeshControl

namespace Launch

theorem fileName_inj {m n : Nat} : fileName m = fileName n ↔ m = n := by
  rw [← String.toList_inj]
  simp only [fileName, String.toList_append, List.append_assoc, List.append_cancel_left_eq,
    List.append_cancel_right_eq, String.toList_inj]
  exact Decimal.toString_nat_inj

/-- The files of the other epochs stay, which may go on with them for a while. -/
theorem find?_cleanUp (m n : Nat) (f : Folder) :
    (cleanUp m f).files.find? (fileName n) =
      if n = m then none else f.files.find? (fileName n) := by
  simp only [cleanUp, Table.find?_erase, fileName_inj]

theorem cleanUp_cleanUp (epoch : Nat) (f : Folder) :
    cleanUp epoch (cleanUp epoch f) = cleanUp epoch f := by
  simp only [cleanUp, Table.erase_erase]

variable (l : Launch) (b : Bootstrap) (p : Program)

/-- A run leaves nothing behind but the file of its epoch. -/
theorem cleanUp_run (epoch : Nat) (f : Folder) :
    cleanUp epoch (l.run b epoch p f).2 = cleanUp epoch f := by
  unfold run
  split
  · rfl
  · split
    · rfl
    · simp only [cleanUp, Table.erase_insert]

/-- The files that are there already make no difference to a run. -/
theorem run_cleanUp_fst (m n : Nat) (f : Folder) :
    (l.run b n p (cleanUp m f)).1 = (l.run b n p f).1 := by
  unfold run cleanUp
  split
  · rfl
  · split <;> rfl

end Launch

namespace Agent

variable {l : Launch} {b : Bootstrap} {p : Program} {f : Folder} {r : Restart} {e : LaunchError}

/-- An agent without a run of its configuration, which its timer will start again. -/
def waiting (r : Restart) (b : Bootstrap) (budget deadline : Nat) : Agent Bootstrap :=
  ⟨r, some b, none, [], budget, deadline, .running⟩

/-- The same agent with the one run that there is at a time. -/
def going (r : Restart) (b : Bootstrap) (budget deadline : Nat) : Agent Bootstrap :=
  ⟨r, some b, some b, [(0, b)], budget, deadline, .running⟩

theorem step_timer_waiting (now budget deadline : Nat) :
    (waiting r b budget deadline).step now .timer =
      (going r b budget (now + idle), [.start 0 b]) := by
  simp [step, timer, reconcile, waiting, going, nextEpoch]

theorem step_update_new (now before : Nat) :
    (new r before).step now (.update b) = (going r b r.budget (now + idle), [.start 0 b]) := by
  simp [step, update, reconcile, new, going, nextEpoch]

theorem step_exit_going (now budget deadline : Nat) (reason : String) :
    (going r b (budget + 1) deadline).step now (.exit 0 (some reason)) =
      (waiting r b budget (now + r.backoff (budget + 1)), [.cleanUp 0]) := by
  simp [step, exit, exited, failed, removed, newest, isLive, going, waiting]

theorem step_exit_going_zero (now deadline : Nat) (reason : String) :
    (going r b 0 deadline).step now (.exit 0 (some reason)) =
      ({ waiting r b 0 deadline with phase := .ended (.exhausted r.budget reason) },
        [.cleanUp 0, .finish (.exhausted r.budget reason)]) := by
  simp [step, exit, exited, failed, removed, newest, isLive, going, waiting, stop, finish]

/-- An event that starts a run which fails is followed by the exit of that run. -/
theorem attempt_of_failing {a : Agent Bootstrap} {ev : Event Bootstrap} {now budget deadline : Nat}
    (hstart : a.step now ev = (going r b budget deadline, [.start 0 b]))
    (hrun : (l.run b 0 p f).1 = .error e) :
    attempt l p now ev (a, f) =
      (((going r b budget deadline).step now (.exit 0 (some e.text))).1, Launch.cleanUp 0 f) := by
  have hclean : Launch.cleanUp 0 (l.run b 0 p f).2 = Launch.cleanUp 0 f := l.cleanUp_run b p 0 f
  simp only [attempt, hstart, hrun, reason?]
  cases budget with
  | zero => simp only [step_exit_going_zero, List.foldl, Action.cleanUpIn, hclean]
  | succ budget => simp only [step_exit_going, List.foldl, Action.cleanUpIn, hclean]

theorem retry_of_running {s : Agent Bootstrap × Folder} (h : s.1.phase = .running) (n : Nat) :
    retry l p (n + 1) s = retry l p n (attempt l p s.1.deadline .timer s) := if_pos h

theorem retry_of_failing (hrun : (l.run b 0 p f).1 = .error e) (budget now deadline : Nat) :
    ∃ a, retry l p budget
        (((going r b budget deadline).step now (.exit 0 (some e.text))).1, Launch.cleanUp 0 f) =
          (a, Launch.cleanUp 0 f) ∧
      a.phase = .ended (.exhausted r.budget e.text) := by
  induction budget generalizing now deadline with
  | zero =>
    rw [step_exit_going_zero]
    exact ⟨_, rfl, rfl⟩
  | succ budget ih =>
    have hagain : (l.run b 0 p (Launch.cleanUp 0 f)).1 = .error e := by
      rw [Launch.run_cleanUp_fst, hrun]
    rw [step_exit_going, retry_of_running rfl, attempt_of_failing (step_timer_waiting ..) hagain,
      Launch.cleanUp_cleanUp]
    exact ih _ _

/-- All restarts are spent on a program that fails. -/
theorem attempts_of_failing (hrun : (l.run b 0 p f).1 = .error e) :
    ∃ a, attempts l p r b f = (a, Launch.cleanUp 0 f) ∧
      a.phase = .ended (.exhausted r.budget e.text) := by
  unfold attempts
  rw [attempt_of_failing (step_update_new 0 0) hrun]
  exact retry_of_failing hrun r.budget 0 _

end Agent

namespace Startup

/-- The process ends with the reason for the last failure, and leaves no file of its attempts. -/
theorem giveUp_of_failing {o : CommandLine.ProxyOptions} {l : Launch} {b : Bootstrap}
    {p : Program} {f : Folder} {e : LaunchError} (hrun : (l.run b 0 p f).1 = .error e) :
    giveUp o l b p f =
      (.error (.told [s!"proxy failed to start after {o.retryBudget} retries: {e.text}"]),
        Launch.cleanUp 0 f) := by
  obtain ⟨a, hattempts, hphase⟩ := Agent.attempts_of_failing (r := restartOf o) hrun
  unfold giveUp
  simp only [hattempts, hphase, Agent.Outcome.failure?, Option.map_some, Option.getD_some]
  rfl

end Startup

end MeshControl
