/-!
# Channels

A channel carries messages from senders to one receiver, in the order they were sent. When all
senders are gone the receiver still gets what was sent, and only then finds the channel closed.
-/

namespace Chip8

/-- Messages under way. -/
structure Channel (α : Type) where
  /-- Messages that were sent and not yet received, oldest first. -/
  queue : List α
  /-- Whether there is still a sender. -/
  isOpen : Bool
deriving DecidableEq

/-- What a receiver finds. -/
inductive Reception (α : Type)
  /-- The oldest message. -/
  | message (content : α)
  /-- No message, but one may still come. -/
  | empty
  /-- No message, and none will come. -/
  | closed
deriving DecidableEq

namespace Channel

variable {α : Type}

/-- A channel with a sender and no messages. -/
def fresh : Channel α := ⟨[], true⟩

/-- Sends a message. -/
def send (c : Channel α) (content : α) : Channel α :=
  { c with queue := c.queue ++ [content] }

/-- The last sender leaves. -/
def hangUp (c : Channel α) : Channel α := { c with isOpen := false }

/-- Receives the oldest message without waiting. -/
def receive (c : Channel α) : Reception α × Channel α :=
  match c.queue with
  | content :: rest => (.message content, { c with queue := rest })
  | [] => (if c.isOpen then .empty else .closed, c)

end Channel

end Chip8
