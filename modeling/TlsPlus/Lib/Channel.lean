/-
Bounded channels with one receiver.

Besides what waits in the buffer, a channel remembers everything that was ever
sent and everything that was received.  That received and buffered values together
are the sent ones, in the order of sending, is a field: no operation can lose,
repeat or overtake a value.
-/
import Mathlib.Data.List.Basic

structure Channel (α : Type) (capacity : Nat) where
  sent : List α
  received : List α
  buffer : List α
  conserved : sent = received ++ buffer
  bounded : buffer.length ≤ capacity
deriving DecidableEq

namespace Channel

variable {α : Type} {capacity : Nat}

def empty : Channel α capacity := ⟨[], [], [], rfl, Nat.zero_le _⟩

/-- Sends a value if there is room for it. -/
def send (c : Channel α capacity) (x : α) : Option (Channel α capacity) :=
  if h : c.buffer.length < capacity then
    some {
      sent := c.sent ++ [x]
      received := c.received
      buffer := c.buffer ++ [x]
      conserved := by rw [c.conserved, List.append_assoc]
      bounded := by
        rw [List.length_append]
        exact h }
  else none

/-- Takes the value that has waited longest. -/
def recv (c : Channel α capacity) : Option (α × Channel α capacity) :=
  match h : c.buffer with
  | [] => none
  | x :: rest =>
    some (x, {
      sent := c.sent
      received := c.received ++ [x]
      buffer := rest
      conserved := by rw [c.conserved, h, List.append_assoc]; rfl
      bounded := by
        have hbounded := c.bounded
        rw [h, List.length_cons] at hbounded
        omega })

theorem received_prefix (c : Channel α capacity) : c.received <+: c.sent :=
  ⟨c.buffer, c.conserved.symm⟩

theorem sent_of_send {c c' : Channel α capacity} {x : α} (h : c.send x = some c') :
    c'.sent = c.sent ++ [x] ∧ c'.received = c.received := by
  unfold send at h
  split at h
  · rw [Option.some.injEq] at h
    subst h
    exact ⟨rfl, rfl⟩
  · exact absurd h (by simp)

theorem received_of_recv {c c' : Channel α capacity} {x : α} (h : c.recv = some (x, c')) :
    c'.sent = c.sent ∧ c'.received = c.received ++ [x] := by
  unfold recv at h
  split at h
  · exact absurd h (by simp)
  · rw [Option.some.injEq, Prod.mk.injEq] at h
    obtain ⟨rfl, rfl⟩ := h
    exact ⟨rfl, rfl⟩

/-- Nothing to take means that everything sent was received. -/
theorem received_eq_sent {c : Channel α capacity} (h : c.recv = none) : c.received = c.sent := by
  unfold recv at h
  split at h
  · rename_i hbuffer
    rw [c.conserved, hbuffer, List.append_nil]
  · exact absurd h (by simp)

end Channel
