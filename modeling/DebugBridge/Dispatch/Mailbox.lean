import DebugBridge.Frame.Basic

/-!
# Mailboxes

Each registered stream id has a mailbox, which keeps the frames for that id in the order in which
they arrived. A taker asks for one command and gets the oldest frame with it; frames with other
commands are not in its way.
-/

namespace DebugBridge

/-- The frames waiting for one stream id. -/
structure Mailbox where
  /-- False once the device closed the stream or the connection ended. -/
  live : Bool := true
  /-- The waiting frames, oldest first. -/
  waiting : List Frame := []

namespace Mailbox

/-- The frames with one command, oldest first. -/
def queue (command : UInt32) (box : Mailbox) : List Frame :=
  box.waiting.filter (·.command == command)

/-- Puts a frame behind the others. -/
def push (frame : Frame) (box : Mailbox) : Mailbox :=
  { box with waiting := box.waiting ++ [frame] }

/-- Takes out the oldest frame with a command. -/
def pop? (command : UInt32) (box : Mailbox) : Option (Frame × Mailbox) :=
  (box.waiting.find? (·.command == command)).map fun frame =>
    (frame, { box with waiting := box.waiting.eraseP (·.command == command) })

/-- Throws away all frames with a command. -/
def discard (command : UInt32) (box : Mailbox) : Mailbox :=
  { box with waiting := box.waiting.filter (·.command != command) }

/-- What the waiting frames amount to: two for each, and one for each byte. -/
def weight (box : Mailbox) : Nat :=
  box.waiting.foldr (fun frame rest => frame.payload.length + 2 + rest) 0

@[simp] theorem weight_push (frame : Frame) (box : Mailbox) :
    (box.push frame).weight = box.weight + (frame.payload.length + 2) := by
  obtain ⟨live, waiting⟩ := box
  simp only [push, weight]
  induction waiting with
  | nil => simp
  | cons head tail ih =>
    simp only [List.cons_append, List.foldr_cons, ih]
    omega

/-- A frame taken out takes its weight along. -/
theorem weight_pop? {command : UInt32} {box rest : Mailbox} {frame : Frame}
    (popped : box.pop? command = some (frame, rest)) :
    rest.weight + (frame.payload.length + 2) = box.weight := by
  obtain ⟨live, waiting⟩ := box
  simp only [pop?, Option.map_eq_some_iff, Prod.mk.injEq] at popped
  obtain ⟨found, search, rfl, rfl⟩ := popped
  simp only [weight]
  induction waiting with
  | nil => simp at search
  | cons head tail ih =>
    by_cases same : head.command == command
    · simp only [List.find?_cons, same, Option.some.injEq] at search
      subst search
      simp only [List.eraseP_cons, same, cond_true, List.foldr_cons]
      omega
    · simp only [List.find?_cons, same] at search
      have := ih search
      simp only [List.eraseP_cons, same, List.foldr_cons, cond_false] at this ⊢
      omega

theorem weight_discard_le (command : UInt32) (box : Mailbox) :
    (box.discard command).weight ≤ box.weight := by
  obtain ⟨live, waiting⟩ := box
  simp only [discard, weight]
  induction waiting with
  | nil => exact Nat.le_refl _
  | cons head tail ih =>
    rw [List.filter_cons]
    split <;> simp only [List.foldr_cons] <;> omega

end Mailbox

/-- The mailboxes of the registered ids; an id is registered at most once. -/
structure Mailboxes where
  entries : List (UInt32 × Mailbox) := []

namespace Mailboxes

/-- The mailbox of an id, if the id is registered. -/
def find? (id : UInt32) (boxes : Mailboxes) : Option Mailbox :=
  boxes.entries.lookup id

/-- The registered ids. -/
def ids (boxes : Mailboxes) : List UInt32 :=
  boxes.entries.map (·.1)

/-- Ends the registration of an id. -/
def erase (id : UInt32) (boxes : Mailboxes) : Mailboxes :=
  ⟨boxes.entries.filter (·.1 != id)⟩

/-- Registers an id with a mailbox, in place of one that it may have had. -/
def put (id : UInt32) (box : Mailbox) (boxes : Mailboxes) : Mailboxes :=
  ⟨(id, box) :: (boxes.erase id).entries⟩

/-- Marks every mailbox as no longer live. -/
def silence (boxes : Mailboxes) : Mailboxes :=
  ⟨boxes.entries.map fun entry => (entry.1, { entry.2 with live := false })⟩

/-- What all waiting frames amount to. -/
def weight (boxes : Mailboxes) : Nat :=
  boxes.entries.foldr (fun entry rest => entry.2.weight + rest) 0

theorem weight_silence (boxes : Mailboxes) : boxes.silence.weight = boxes.weight := by
  simp only [weight, silence, List.foldr_map]
  rfl

private theorem sum_erase_le (id : UInt32) (entries : List (UInt32 × Mailbox)) :
    (entries.filter (·.1 != id)).foldr (fun entry rest => entry.2.weight + rest) 0 ≤
      entries.foldr (fun entry rest => entry.2.weight + rest) 0 := by
  induction entries with
  | nil => exact Nat.le_refl _
  | cons first rest ih =>
    rw [List.filter_cons]
    split <;> simp only [List.foldr_cons] <;> omega

private theorem sum_erase_add_le (id : UInt32) (box : Mailbox) :
    ∀ entries : List (UInt32 × Mailbox), entries.lookup id = some box →
      (entries.filter (·.1 != id)).foldr (fun entry rest => entry.2.weight + rest) 0 +
          box.weight ≤
        entries.foldr (fun entry rest => entry.2.weight + rest) 0
  | [], found => by simp at found
  | (key, first) :: rest, found => by
    have less := sum_erase_le id rest
    by_cases same : id = key
    · subst same
      simp only [List.lookup_cons, beq_self_eq_true, Option.some.injEq] at found
      subst found
      simp only [List.filter_cons, bne_self_eq_false, Bool.false_eq_true, if_false,
        List.foldr_cons]
      omega
    · have differs : (id == key) = false := by simpa using same
      have kept : (key != id) = true := by simpa using fun equal : key = id => same equal.symm
      simp only [List.lookup_cons, differs] at found
      have := sum_erase_add_le id box rest found
      simp only [List.filter_cons, kept, if_true, List.foldr_cons]
      omega

theorem weight_erase_le (id : UInt32) (boxes : Mailboxes) :
    (boxes.erase id).weight ≤ boxes.weight :=
  sum_erase_le id boxes.entries

/-- Replacing a mailbox replaces its weight. -/
theorem weight_put_le {id : UInt32} {boxes : Mailboxes} {old : Mailbox} (new : Mailbox)
    (found : boxes.find? id = some old) :
    (boxes.put id new).weight + old.weight ≤ boxes.weight + new.weight := by
  have := sum_erase_add_le id old boxes.entries found
  simp only [weight, put, erase, List.foldr_cons]
  omega

end Mailboxes
end DebugBridge
