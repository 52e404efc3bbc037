import RemoteBrowser.Async.System

/-!
# Runs without one handler

What a handler does can be compared with what would happen without it: the other handlers take
the same actions, in the same order and with the same replies, and only the position of those
that started later changes.
-/

namespace RemoteBrowser.Async

variable {S : System} {start : Config S} {state : S.State} {threads : List (Thread S)}

/-- A handler without which a run is considered does nothing in it. -/
theorem Run.without_own {index : Nat} (thread : Thread S)
    (run : Run anyAction start ⟨state, threads.eraseIdx index⟩) :
    Run anyAction start ⟨state, (threads.set index thread).eraseIdx index⟩ := by
  rw [List.eraseIdx_set_eq]
  exact run

/-- The other handlers start as before. -/
theorem Run.without_start {index : Nat} (job : S.Job)
    (run : Run anyAction start ⟨state, threads.eraseIdx index⟩)
    (enabled : S.canStart state job = true) :
    Run anyAction start ⟨state, (threads ++ [Thread.new S job]).eraseIdx index⟩ := by
  have started : ∀ present : List (Thread S), Run anyAction start ⟨state, present⟩ →
      Run anyAction start ⟨state, present ++ [Thread.new S job]⟩ := by
    intro present reached
    have stepped : Config.step ⟨state, present⟩ (.start job) =
        some ⟨state, present ++ [Thread.new S job]⟩ := by simp [Config.step, enabled]
    exact reached.tail trivial stepped
  rcases Nat.lt_trichotomy index threads.length with earlier | itself | later
  · rw [List.eraseIdx_append_of_lt_length earlier]
    exact started _ run
  · rw [List.eraseIdx_of_length_le (Nat.le_of_eq itself.symm)] at run
    rw [List.eraseIdx_append_of_length_le (Nat.le_of_eq itself.symm), itself, Nat.sub_self]
    simpa using run
  · rw [List.eraseIdx_of_length_le (Nat.le_of_lt later)] at run
    rw [List.eraseIdx_of_length_le (by simpa using Nat.succ_le_of_lt later)]
    exact started _ run

/-- The other handlers go on as before, if they get the same replies. -/
theorem Run.without_resume {index other : Nat} {thread : Thread S} {op : S.face.Op}
    {next : S.face.Reply op → Program S.face Unit} {reply : S.face.Reply op}
    (run : Run anyAction start ⟨state, threads.eraseIdx index⟩)
    (found : threads[other]? = some thread) (suspended : thread.program = .request op next)
    (different : other ≠ index) (choice : S.Choice)
    (replied : (S.exec choice op state).2 = reply) :
    Run anyAction start ⟨(S.exec choice op state).1,
      (threads.set other (thread.advance op reply (next reply))).eraseIdx index⟩ := by
  subst replied
  have resumed : ∀ position, (threads.eraseIdx index)[position]? = some thread →
      Run anyAction start ⟨(S.exec choice op state).1, (threads.eraseIdx index).set position
        (thread.advance op (S.exec choice op state).2 (next (S.exec choice op state).2))⟩ := by
    intro position located
    have stepped : Config.step ⟨state, threads.eraseIdx index⟩ (.resume position choice) =
        some ⟨(S.exec choice op state).1, (threads.eraseIdx index).set position
          (thread.advance op (S.exec choice op state).2
            (next (S.exec choice op state).2))⟩ := by
      simp [Config.step, located, suspended]
    exact run.tail trivial stepped
  rcases Nat.lt_or_gt_of_ne different with earlier | later
  · rw [List.eraseIdx_set_gt earlier]
    apply resumed
    rw [List.getElem?_eraseIdx_of_lt earlier]
    exact found
  · rw [List.eraseIdx_set_lt later]
    apply resumed
    rw [List.getElem?_eraseIdx_of_ge (by omega), Nat.sub_add_cancel (by omega)]
    exact found

end RemoteBrowser.Async
