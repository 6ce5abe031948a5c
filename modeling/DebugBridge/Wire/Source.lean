import DebugBridge.Bytes
import DebugBridge.Failure

/-!
# What the device sends

A source is the list of things that reads will still meet: pieces of bytes, failures, and ends of
input that later input may follow. One read takes bytes of one piece only.
-/

namespace DebugBridge

/-- One thing that reads will meet. -/
inductive Delivery where
  /-- Bytes, of which a single read gets at most `limit`, but always one. -/
  | bytes (content : Bytes) (limit : Nat)
  /-- One read fails. -/
  | fail (kind : IoKind)
  /-- One read finds the input ended. -/
  | pause
  deriving DecidableEq, Repr

/-- What reads will still meet, in order. After the last item the input has ended for good. -/
abbrev Source := List Delivery

namespace Source

/-- Reads at most `wanted` bytes. No bytes mean that the input has ended. -/
def read (wanted : Nat) : Source → Except IoKind Bytes × Source
  | [] => (.ok [], [])
  | .pause :: rest => (.ok [], rest)
  | .fail kind :: rest => (.error kind, rest)
  | .bytes content limit :: rest =>
    if content.isEmpty then read wanted rest
    else
      let count := min (max 1 limit) wanted
      let left := content.drop count
      (.ok (content.take count), if left.isEmpty then rest else .bytes left limit :: rest)

/-- All the bytes that a source will still give. -/
def content : Source → Bytes
  | [] => []
  | .bytes content _ :: rest => content ++ Source.content rest
  | _ :: rest => Source.content rest

/-- How much reads can still consume: every byte counts and so does every item. -/
def weight : Source → Nat
  | [] => 0
  | .bytes content _ :: rest => content.length + 1 + weight rest
  | _ :: rest => 1 + weight rest

/-- What a read returns is what it takes off the source. -/
theorem weight_read (wanted : Nat) (source : Source) {got : Bytes} {rest : Source}
    (read_eq : source.read wanted = (.ok got, rest)) :
    got.length + weight rest ≤ weight source := by
  induction source with
  | nil =>
    simp only [read, Prod.mk.injEq, Except.ok.injEq] at read_eq
    obtain ⟨rfl, rfl⟩ := read_eq
    simp [weight]
  | cons item tail ih =>
    cases item with
    | pause =>
      simp only [read, Prod.mk.injEq, Except.ok.injEq] at read_eq
      obtain ⟨rfl, rfl⟩ := read_eq
      simp [weight]
    | fail kind => simp only [read, Prod.mk.injEq, reduceCtorEq, false_and] at read_eq
    | bytes content limit =>
      rw [read] at read_eq
      split at read_eq
      · have := ih read_eq
        simp only [weight]
        omega
      · simp only [Prod.mk.injEq, Except.ok.injEq] at read_eq
        obtain ⟨rfl, rfl⟩ := read_eq
        split
        · simp only [weight, List.length_take]
          omega
        · simp only [weight, List.length_take, List.length_drop]
          omega

/-- A failing read takes the failure off the source. -/
theorem weight_read_error (wanted : Nat) (source : Source) {kind : IoKind} {rest : Source}
    (read_eq : source.read wanted = (.error kind, rest)) : weight rest < weight source := by
  induction source with
  | nil => simp only [read, Prod.mk.injEq, reduceCtorEq, false_and] at read_eq
  | cons item tail ih =>
    cases item with
    | pause => simp only [read, Prod.mk.injEq, reduceCtorEq, false_and] at read_eq
    | fail failed =>
      simp only [read, Prod.mk.injEq] at read_eq
      obtain ⟨-, rfl⟩ := read_eq
      simp [weight]
    | bytes content limit =>
      rw [read] at read_eq
      split at read_eq
      · have := ih read_eq
        simp only [weight]
        omega
      · simp only [Prod.mk.injEq, reduceCtorEq, false_and] at read_eq

end Source
end DebugBridge
