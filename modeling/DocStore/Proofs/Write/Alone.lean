import DocStore.Proofs.Lock.Line
import DocStore.Proofs.Write.Holder

/-!
# A write that is alone

A task that is looked at again and again while nobody else asks for the lock comes to its end, since
hooks pause only so often, and it has then done what the write does when it is performed at once.
-/

namespace DocStore.Task

def pollTimes (m : Model) (task : Task) : Nat → Look
  | 0 => ⟨m, task, []⟩
  | k + 1 => (pollTimes (task.poll m).model (task.poll m).task k).leaving (task.poll m).notices

/-- The task comes to its end if it is looked at often enough. -/
def Ends (m : Model) (task : Task) : Prop := ∃ k, (pollTimes m task k).task.isOver = true

section
variable {base m : Model} {source : Source} {request : Request} {left : List Notice} {task : Task}
  {visit : Visit} {rest : Pending} {hooks : List Hook}

theorem Ends.step (h : Ends (task.poll m).model (task.poll m).task) : Ends m task := by
  obtain ⟨k, hk⟩ := h
  exact ⟨k + 1, hk⟩

theorem ends_done (m : Model) (reply : Reply) : Ends m (.done reply) := ⟨0, rfl⟩

theorem advance_lt {pauses : Nat} (h : advance m visit pauses hooks = (.stopped rest, left)) :
    Prod.Lex (· < ·) (· < ·) (rest.hooks.length, rest.pauses) (hooks.length, pauses) := by
  induction hooks generalizing pauses left with
  | nil => simp [advance] at h
  | cons hook hooks ih =>
    cases pauses with
    | succ pauses =>
      simp only [advance, Prod.mk.injEq, Progress.stopped.injEq] at h
      obtain ⟨rfl, -⟩ := h
      exact .right _ (Nat.lt_succ_self pauses)
    | zero =>
      simp only [advance] at h
      split at h
      · simp at h
      · cases hr : advance m visit (Pending.start visit hooks).pauses hooks with
        | mk progress more =>
          simp only [hr, Prod.mk.injEq] at h
          obtain ⟨rfl, -⟩ := h
          have length : rest.hooks.length ≤ hooks.length := by
            rcases Prod.lex_def.mp (ih hr) with lt | ⟨eq, -⟩
            · exact Nat.le_of_lt lt
            · exact Nat.le_of_eq eq
          exact .left _ _ (Nat.lt_succ_of_le length)

theorem ends_after (m : Model) (ticket : Nat) (c : Commit) (pending : Pending) :
    Ends m (.after ticket c pending) := by
  refine Ends.step ?_
  simp only [poll, goAfter]
  cases ha : advance m ⟨ticket, c.document⟩ pending.pauses pending.hooks with
  | mk progress more =>
    cases progress with
    | stopped rest => exact ends_after m ticket c rest
    | finished => exact ends_done _ _
    | failed e => exact ends_done _ _
termination_by (pending.hooks.length, pending.pauses)
decreasing_by exact advance_lt ha

theorem ends_goAfter (m : Model) (ticket : Nat) (c : Commit) (pending : Pending) :
    Ends (goAfter m ticket c pending).model (goAfter m ticket c pending).task := by
  simp only [goAfter]
  split
  · exact ends_after ..
  · exact ends_done _ _
  · exact ends_done _ _

theorem ends_before (m : Model) (ticket : Nat) (c : Commit) (pending : Pending) :
    Ends m (.before ticket c pending) := by
  refine Ends.step ?_
  simp only [poll, goBefore]
  cases ha : advance m ⟨ticket, c.document⟩ pending.pauses pending.hooks with
  | mk progress more =>
    cases progress with
    | stopped rest => exact ends_before m ticket c rest
    | finished => exact ends_goAfter ..
    | failed e => exact ends_done _ _
termination_by (pending.hooks.length, pending.pauses)
decreasing_by exact advance_lt ha

theorem ends_goBefore (m : Model) (ticket : Nat) (c : Commit) (pending : Pending) :
    Ends (goBefore m ticket c pending).model (goBefore m ticket c pending).task := by
  simp only [goBefore]
  split
  · exact ends_before ..
  · exact ends_done _ _
  · exact ends_goAfter ..

theorem ends_goLocked (m : Model) (ticket : Nat) (source : Source) (job : Job) :
    Ends (goLocked m ticket source job).model (goLocked m ticket source job).task := by
  simp only [goLocked]
  split
  · exact ends_done _ _
  · exact ends_done _ _
  · exact ends_goBefore ..

/-- A task has the lock and nobody waits, or it is done and the lock is free. -/
def Alone (lock : Lock) (task : Task) : Prop :=
  (∃ ticket, task.ticket? = some ticket ∧ lock.Line (some ticket) []) ∨
  (∃ reply, task = .done reply) ∧ lock.Line none []

theorem Goes.alone {look : Look} (h : Goes base source request left lock ticket look)
    (line : lock.Line (some ticket) []) : Alone look.model.lock look.task := by
  rcases h.keeps with ⟨same, kept⟩ | ⟨reply, ended, kept⟩
  · exact .inl ⟨ticket, same, kept ▸ line⟩
  · exact .inr ⟨⟨reply, ended⟩, by rw [kept]; exact line.abandon_holder⟩

theorem pollTimes_tracks (tracks : Tracks base source request left m task)
    (alone : Alone m.lock task) (k : Nat) :
    Tracks base source request (left ++ (pollTimes m task k).notices) (pollTimes m task k).model
        (pollTimes m task k).task ∧
      Alone (pollTimes m task k).model.lock (pollTimes m task k).task := by
  induction k generalizing left m task with
  | zero => exact ⟨by simpa [pollTimes] using tracks, alone⟩
  | succ k ih =>
    rcases alone with ⟨ticket, drew, line⟩ | ⟨⟨reply, rfl⟩, line⟩
    · have goes := tracks.poll drew (line.granted ticket rfl)
      simpa [pollTimes, Look.leaving] using ih goes.tracks (goes.alone line)
    · simpa [pollTimes, poll, Look.leaving] using ih tracks (.inr ⟨⟨reply, rfl⟩, line⟩)

end

/-- Alone, a write comes to the end that it has when it is performed at once, and the lock is free
again. -/
theorem poll_alone (m : Model) (free : m.lock.Line none []) (source : Source) (request : Request) :
    ∃ k, let look := pollTimes m (.fresh source request) k
      look.task = .done (m.perform source request).result ∧
      look.notices = (m.perform source request).notices ∧
      look.model = (m.perform source request).model.withLock look.model.lock ∧
      look.model.lock.Line none [] := by
  cases prepared : m.prepare request with
  | error e =>
    refine ⟨1, ?_⟩
    simp only [pollTimes, poll, prepared, Look.leaving, Model.perform, bind, Except.bind]
    exact ⟨trivial, rfl, rfl, free⟩
  | ok job =>
    have line := free.drawTicket_free
    have first : poll m (.fresh source request) =
        goLocked (m.withLock m.lock.drawTicket.1) m.lock.drawTicket.2 source job := by
      simp only [poll, prepared, line.granted _ rfl, if_true]
      rfl
    have goes : Goes m source request [] m.lock.drawTicket.1 m.lock.drawTicket.2
        (poll m (.fresh source request)) := first ▸ goLocked_goes prepared
    obtain ⟨k, ended⟩ : Ends (poll m (.fresh source request)).model
        (poll m (.fresh source request)).task := first ▸ ends_goLocked ..
    obtain ⟨tracks, alone⟩ := pollTimes_tracks goes.tracks (goes.alone line) k
    refine ⟨k + 1, ?_⟩
    generalize hlast : pollTimes (poll m (.fresh source request)).model
      (poll m (.fresh source request)).task k = last at ended tracks alone
    simp only [pollTimes, hlast, Look.leaving]
    rcases alone with ⟨ticket, drew, -⟩ | ⟨⟨reply, done⟩, free⟩
    · obtain ⟨model, task, notices⟩ := last
      cases task <;> simp [ticket?, isOver] at drew ended
    · rw [done] at tracks ⊢
      obtain ⟨model, rfl, notices⟩ := tracks.of_done
      exact ⟨rfl, by simpa using notices, model, free⟩

end DocStore.Task
