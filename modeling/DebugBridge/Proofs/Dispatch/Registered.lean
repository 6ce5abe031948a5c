import DebugBridge.Proofs.Dispatch.Board
import DebugBridge.Dispatch.Queue

/-!
# Which ids are registered

Frames that come and go rearrange the mailboxes but register nobody and forget nobody. As long as no
id is registered twice the registered ids therefore stay the same, up to their order.
-/

namespace DebugBridge

namespace Mailboxes

theorem ids_erase (id : UInt32) (boxes : Mailboxes) :
    (boxes.erase id).ids = boxes.ids.filter (· != id) := by
  rw [ids, ids, List.filter_map]
  rfl

theorem ids_put (id : UInt32) (box : Mailbox) (boxes : Mailboxes) :
    (boxes.put id box).ids = id :: boxes.ids.filter (· != id) := by
  rw [← ids_erase]
  rfl

theorem ids_silence (boxes : Mailboxes) : boxes.silence.ids = boxes.ids := by
  simp only [ids, silence, List.map_map]
  rfl

/-- An id has a mailbox exactly if it is on the list. -/
theorem isSome_find?_iff {id : UInt32} {boxes : Mailboxes} :
    (boxes.find? id).isSome = true ↔ id ∈ boxes.ids := by
  obtain ⟨entries⟩ := boxes
  simp only [find?, ids]
  induction entries with
  | nil => simp
  | cons first rest ih =>
    obtain ⟨key, box⟩ := first
    by_cases same : id = key
    · simp [same]
    · simp [List.lookup_cons, beq_false_of_ne same, same, ih]

/-- Replacing a mailbox registers nobody. -/
theorem perm_ids_put {id : UInt32} {boxes : Mailboxes} {old : Mailbox} (new : Mailbox)
    (found : boxes.find? id = some old) (nodup : boxes.ids.Nodup) :
    (boxes.put id new).ids.Perm boxes.ids := by
  have registered : id ∈ boxes.ids := isSome_find?_iff.1 (by rw [found, Option.isSome_some])
  rw [ids_put, ← nodup.erase_eq_filter]
  exact (List.perm_cons_erase registered).symm

end Mailboxes

namespace Switchboard

/-- The registered ids. -/
def ids (board : Switchboard) : List UInt32 :=
  board.boxes.ids

theorem length_ids (board : Switchboard) : board.ids.length = board.listeningCount :=
  List.length_map ..

/-- An id is registered exactly if it is on the list. -/
theorem isListening_iff {id : UInt32} {board : Switchboard} :
    board.isListening id = true ↔ id ∈ board.ids :=
  Mailboxes.isSome_find?_iff

theorem ids_listen (id : UInt32) (board : Switchboard) :
    (board.listen id).ids = id :: board.ids.filter (· != id) :=
  Mailboxes.ids_put ..

theorem ids_unlisten (id : UInt32) (board : Switchboard) :
    (board.unlisten id).ids = board.ids.filter (· != id) :=
  Mailboxes.ids_erase ..

theorem ids_disconnect (board : Switchboard) : board.disconnect.ids = board.ids :=
  board.boxes.ids_silence

theorem ids_readFailed (failure : Failure) (board : Switchboard) :
    (board.readFailed failure).ids = board.ids := by
  unfold readFailed
  split
  · rfl
  · exact board.ids_disconnect

variable {board : Switchboard}

theorem perm_ids_discard (id command : UInt32) (nodup : board.ids.Nodup) :
    (board.discard id command).ids.Perm board.ids := by
  unfold discard
  split
  · exact .refl _
  · next box found => exact Mailboxes.perm_ids_put _ found nodup

theorem perm_ids_route (frame : Frame) (nodup : board.ids.Nodup) :
    (board.route frame).ids.Perm board.ids := by
  unfold route
  split
  · exact .refl _
  · next box found => exact Mailboxes.perm_ids_put _ found nodup

theorem perm_ids_poll (id command : UInt32) (nodup : board.ids.Nodup) :
    (board.poll id command).2.ids.Perm board.ids := by
  unfold poll
  split
  · exact .refl _
  · next box found =>
    split
    · exact Mailboxes.perm_ids_put _ found nodup
    · split
      · exact .refl _
      · split <;> exact .refl _

end Switchboard

namespace Queue

variable {queue : Queue}

theorem perm_ids_await (id command : UInt32) (nodup : queue.board.ids.Nodup) :
    (queue.await id command).state.board.ids.Perm queue.board.ids := by
  fun_induction await id command queue with
  | case1 queue frame board polled | case2 queue failure board polled =>
    have polling := Switchboard.perm_ids_poll id command nodup
    rwa [polled] at polling
  | case3 queue board polled frame receiver read less ih =>
    have polling := Switchboard.perm_ids_poll id command nodup
    rw [polled] at polling
    have still_nodup : board.ids.Nodup := polling.symm.nodup nodup
    have routing := Switchboard.perm_ids_route frame still_nodup
    exact (ih (routing.symm.nodup still_nodup)).trans (routing.trans polling)
  | case4 queue board polled failure receiver read =>
    have polling := Switchboard.perm_ids_poll id command nodup
    rw [polled] at polling
    rw [Outcome.state_error, Switchboard.ids_readFailed]
    exact polling

theorem perm_ids_take (id command : UInt32) (nodup : queue.board.ids.Nodup) :
    (queue.take id command).state.board.ids.Perm queue.board.ids := by
  unfold take
  split
  · exact .refl _
  · exact perm_ids_await id command nodup

end Queue
end DebugBridge
