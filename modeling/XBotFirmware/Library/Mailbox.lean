import Mathlib.Logic.Basic

set_option autoImplicit false

/-!
Mailboxes of bounded capacity.
-/

namespace XBotFirmware.Library

structure Mailbox (Item : Type) (capacity : Nat) where
  items : List Item
  bounded : items.length ≤ capacity

namespace Mailbox

variable {Item : Type} {capacity : Nat} (mailbox : Mailbox Item capacity) (item : Item)

def empty (Item : Type) (capacity : Nat) : Mailbox Item capacity := ⟨[], Nat.zero_le capacity⟩

/-- Put an item at the end, or drop it when there is no room. -/
def post : Mailbox Item capacity :=
  if room : mailbox.items.length < capacity then
    ⟨mailbox.items ++ [item], by rwa [List.length_append]⟩
  else mailbox

def fetch? : Option (Item × Mailbox Item capacity) :=
  match mailbox with
  | ⟨[], _⟩ => none
  | ⟨first :: rest, bounded⟩ => some (first, ⟨rest, Nat.le_of_succ_le bounded⟩)

theorem post_ne_nil (positive : 0 < capacity) : (mailbox.post item).items ≠ [] := by
  unfold post
  split
  next => simp
  next full =>
    intro none
    rw [none, List.length_nil] at full
    exact full positive

end Mailbox

end XBotFirmware.Library
