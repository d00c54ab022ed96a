import XBotFirmware.Library.Mailbox
import XBotFirmware.Platform.Mailbox

set_option autoImplicit false

/-!
The packet queue of a service over the mailbox of the kernel (`portable/xbot/queue.cpp`,
`ServiceExt::SendEvent`).

A packet is a pointer.  `SendEvent` posts a null pointer from an interrupt, which wakes the
service and which `queuePopItem` does not take for a packet.
-/

namespace XBotFirmware.Platform

open XBotFirmware.Library

namespace Mailroom

variable {Item : Type} {room : Mailroom Item} {size : Nat}

@[simp]
theorem dequeueReader_contents (room : Mailroom Item) :
    room.dequeueReader.mailbox.contents = room.mailbox.contents := by
  unfold dequeueReader
  split <;> rfl

def Sound.toMailbox (sound : room.Sound size 0 0) : Mailbox Item size where
  items := room.mailbox.contents
  bounded := by
    rw [MailboxObject.length_contents sound.wellFormed, ← sound.size_eq]
    exact sound.wellFormed.bounded

theorem Sound.free_iff (sound : room.Sound size 0 0) :
    0 < room.mailbox.chMBGetFreeCountI ↔ sound.toMailbox.items.length < size := by
  change _ ↔ room.mailbox.contents.length < size
  rw [MailboxObject.length_contents sound.wellFormed, ← sound.size_eq]
  exact Nat.sub_pos_iff_lt

/-- A post that does not wait is a post to the bounded mailbox. -/
theorem chMBPostI_contents (sound : room.Sound size 0 0) (working : room.mailbox.reset = false)
    (msg : Item) :
    (room.chMBPostI msg).mailbox.contents = (sound.toMailbox.post msg).items := by
  unfold chMBPostI Mailbox.post
  rw [working, if_neg Bool.false_ne_true]
  by_cases free : 0 < room.mailbox.chMBGetFreeCountI
  · rw [if_pos free, dif_pos (sound.free_iff.mp free), put, dequeueReader_contents]
    exact MailboxObject.contents_store sound.wellFormed free msg
  · rw [if_neg free, dif_neg (mt sound.free_iff.mpr free)]
    rfl

structure Continues (room next : Mailroom Item) : Prop where
  posts : room.posts <+: next.posts
  reset : next.mailbox.reset = room.mailbox.reset

theorem Continues.trans {first second third : Mailroom Item} (early : Continues first second)
    (late : Continues second third) : Continues first third :=
  ⟨early.posts.trans late.posts, late.reset.trans early.reset⟩

theorem continues_dequeueReader (room : Mailroom Item) : Continues room room.dequeueReader := by
  unfold dequeueReader
  split <;> exact ⟨List.prefix_refl _, rfl⟩

theorem continues_dequeueWriter (room : Mailroom Item) : Continues room room.dequeueWriter := by
  unfold dequeueWriter
  split <;> exact ⟨List.prefix_refl _, rfl⟩

theorem continues_postReturns (room : Mailroom Item) (msg : Item) (result : Msg) :
    Continues room (room.postReturns msg result) :=
  ⟨List.prefix_append _ _, rfl⟩

theorem continues_put (room : Mailroom Item) (msg : Item) : Continues room (room.put msg) := by
  refine Continues.trans ?_ (continues_dequeueReader _)
  exact ⟨List.prefix_append _ _, rfl⟩

theorem continues_chMBPostI (room : Mailroom Item) (msg : Item) :
    Continues room (room.chMBPostI msg) := by
  unfold chMBPostI
  split
  · exact continues_postReturns room msg _
  · split
    · exact continues_put room msg
    · exact continues_postReturns room msg _

theorem continues_postRound (room : Mailroom Item) (writer : Writer Item) :
    Continues room (room.postRound writer) := by
  unfold postRound
  split
  · exact continues_postReturns room writer.msg _
  · split
    · exact continues_put room writer.msg
    · split
      · exact continues_postReturns room writer.msg _
      · exact ⟨List.prefix_refl _, rfl⟩

theorem continues_fetchRound {reader : Reader} {next : Mailroom Item}
    (round : room.fetchRound reader = some next) : Continues room next := by
  unfold fetchRound at round
  split at round
  · cases round
    exact ⟨List.prefix_refl _, rfl⟩
  · split at round
    · unfold get at round
      split at round
      · cases round
      · cases round
        refine Continues.trans ?_ (continues_dequeueWriter _)
        exact ⟨List.prefix_refl _, rfl⟩
    · split at round
      all_goals
        cases round
        exact ⟨List.prefix_refl _, rfl⟩

end Mailroom

end XBotFirmware.Platform

namespace XBotFirmware.Service

open XBotFirmware.Library XBotFirmware.Platform

/-- The calls of the threads and of the interrupts on the queue of a service, and what the
kernel does with the threads that wait in them. -/
inductive QueueOp where
  | queuePushItem (thread : Nat) (item : BitVec 32)
  | queuePopItem (thread : Nat) (timeoutMicros : Micros)
  | sendEvent
  | resumePush (position : Nat)
  | pushExpired (position : Nat)
  | resumePop (position : Nat)
  | popExpired (position : Nat)
  deriving DecidableEq, Repr

def QueueOp.mailOp : QueueOp → MailOp (BitVec 32)
  | .queuePushItem thread item => .chMBPostTimeout ⟨thread, item, timeMS2I 10⟩
  | .queuePopItem thread timeoutMicros => .chMBFetchTimeout ⟨thread, popTimeout timeoutMicros⟩
  | .sendEvent => .chMBPostI 0
  | .resumePush position => .resumePost position
  | .pushExpired position => .postExpired position
  | .resumePop position => .resumeFetch position
  | .popExpired position => .fetchExpired position

def queueStep (room : Mailroom (BitVec 32)) (op : QueueOp) : Option (Mailroom (BitVec 32)) :=
  room.step op.mailOp

/-- The packets among the items: `queuePopItem` returns false for a null pointer. -/
def packetsOf (items : List (BitVec 32)) : List (BitVec 32) := items.filter (· ≠ 0)

theorem run_queueStep (room : Mailroom (BitVec 32)) (ops : List QueueOp) :
    run queueStep room ops = run Mailroom.step room (ops.map QueueOp.mailOp) := by
  induction ops generalizing room with
  | nil => rfl
  | cons op rest inductionHypothesis =>
      rw [run_cons, List.map_cons, run_cons]
      exact congrArg _ (funext inductionHypothesis)

theorem queueStep_continues {room next : Mailroom (BitVec 32)} {op : QueueOp}
    (stepped : queueStep room op = some next) : Mailroom.Continues room next := by
  cases op with
  | queuePushItem thread item =>
      cases stepped
      exact Mailroom.continues_postRound room _
  | queuePopItem thread timeoutMicros => exact Mailroom.continues_fetchRound stepped
  | sendEvent =>
      cases stepped
      exact Mailroom.continues_chMBPostI room _
  | resumePush position =>
      simp only [queueStep, QueueOp.mailOp, Mailroom.step] at stepped
      split at stepped
      · cases stepped
      · cases stepped
        refine Mailroom.Continues.trans ?_ (Mailroom.continues_postRound _ _)
        exact ⟨List.prefix_refl _, rfl⟩
  | pushExpired position =>
      simp only [queueStep, QueueOp.mailOp, Mailroom.step] at stepped
      split at stepped
      · cases stepped
      · split at stepped
        · cases stepped
        · cases stepped
          exact ⟨List.prefix_append _ _, rfl⟩
  | resumePop position =>
      simp only [queueStep, QueueOp.mailOp, Mailroom.step] at stepped
      split at stepped
      · cases stepped
      · refine Mailroom.Continues.trans ?_ (Mailroom.continues_fetchRound stepped)
        exact ⟨List.prefix_refl _, rfl⟩
  | popExpired position =>
      simp only [queueStep, QueueOp.mailOp, Mailroom.step] at stepped
      split at stepped
      · cases stepped
      · split at stepped
        · cases stepped
        · cases stepped
          exact ⟨List.prefix_refl _, rfl⟩

theorem run_continues {room final : Mailroom (BitVec 32)} {ops : List QueueOp}
    (executed : run queueStep room ops = some final) : Mailroom.Continues room final := by
  have kept : ∀ state op next, Mailroom.Continues room state →
      queueStep state op = some next → Mailroom.Continues room next :=
    fun _ _ _ continued stepped => continued.trans (queueStep_continues stepped)
  exact run_invariant kept ⟨List.prefix_refl _, rfl⟩ executed

/-- The packets that were popped and those that wait are the ones whose push succeeded, in
order.  When no thread is on its way, readers wait only on an empty mailbox and writers
only on a full one. -/
theorem queue_delivers_packets {buf : List (BitVec 32)} (nonempty : buf ≠ []) {ops : List QueueOp}
    {room : Mailroom (BitVec 32)}
    (executed : run queueStep (.chMBObjectInit buf) ops = some room) :
    packetsOf (room.fetched.map Prod.snd) ++ packetsOf room.mailbox.contents =
      packetsOf room.accepted ∧
    room.mailbox.contents.length ≤ buf.length ∧
    (room.mailbox.qr ≠ [] → room.mailbox.contents.length ≤ room.readyReaders.length) ∧
    (room.mailbox.qw ≠ [] →
      buf.length - room.mailbox.contents.length ≤ room.readyWriters.length) := by
  rw [run_queueStep] at executed
  have sound := Mailroom.run_sound nonempty executed
  have length := MailboxObject.length_contents sound.wellFormed
  rw [length, ← sound.size_eq]
  refine ⟨?_, sound.wellFormed.bounded, sound.readers, sound.writers⟩
  rw [packetsOf, packetsOf, ← List.filter_append, sound.delivered, packetsOf]

/-- The service waits, packets come faster than it takes them and a push times out. -/
def contendedOps : List QueueOp :=
  [.queuePopItem 1 1000, .queuePushItem 2 0x100, .resumePop 0, .queuePushItem 2 0x200,
    .queuePushItem 2 0x300, .queuePushItem 2 0x400, .queuePushItem 3 0x500, .sendEvent,
    .pushExpired 1, .queuePopItem 1 1000, .resumePush 0]

theorem queue_delivers_packets_contended :
    ∃ room, run queueStep (.chMBObjectInit [0, 0]) contendedOps = some room ∧
      packetsOf (room.fetched.map Prod.snd) = [0x100, 0x200] ∧
      packetsOf (room.fetched.map Prod.snd) ++ packetsOf room.mailbox.contents =
        packetsOf room.accepted ∧
      packetsOf room.accepted = [0x100, 0x200, 0x300, 0x400] := by
  have evaluated : (run queueStep (.chMBObjectInit [0, 0]) contendedOps).map (fun room =>
      (packetsOf (room.fetched.map Prod.snd), packetsOf room.accepted)) =
      some ([0x100, 0x200], [0x100, 0x200, 0x300, 0x400]) := by decide
  obtain ⟨room, executed, values⟩ := Option.map_eq_some_iff.mp evaluated
  obtain ⟨popped, accepted⟩ := Prod.mk.inj values
  exact ⟨room, executed, popped, (queue_delivers_packets (by decide) executed).1, accepted⟩

/-- No event is slept over.  When the service waits again after a `SendEvent`, and no one is
about to run for it, it has popped an item since. -/
theorem event_wakes_service {buf : List (BitVec 32)} (nonempty : buf ≠ [])
    {before after : List QueueOp} {middle final : Mailroom (BitVec 32)}
    (reached : run queueStep (.chMBObjectInit buf) before = some middle)
    (executed : run queueStep middle (.sendEvent :: after) = some final)
    (waits : final.mailbox.qr ≠ []) (settled : final.readyReaders = []) :
    middle.fetched.length < final.fetched.length := by
  obtain ⟨posted, sent, remaining⟩ := run_cons_eq_some.mp executed
  cases sent
  have working : middle.mailbox.reset = false := (run_continues reached).reset
  have whole := run_append_eq_some.mpr ⟨middle, reached, executed⟩
  rw [run_queueStep] at reached whole
  have earlier := Mailroom.run_sound nonempty reached
  have later := Mailroom.run_sound nonempty whole
  have posted := earlier.chMBPostI 0
  -- The mailbox holds something after the event and nothing at the end.
  have something : (middle.chMBPostI 0).mailbox.contents ≠ [] := by
    rw [Mailroom.chMBPostI_contents earlier working]
    exact Mailbox.post_ne_nil _ _ (List.length_pos_iff.mpr nonempty)
  have nothing : final.mailbox.contents.length = 0 := by
    have counted := later.readers waits
    rw [settled] at counted
    rw [MailboxObject.length_contents later.wellFormed]
    exact Nat.le_zero.mp counted
  have accepted : (middle.chMBPostI 0).accepted.length ≤ final.accepted.length := by
    obtain ⟨more, split⟩ := (run_continues remaining).posts
    change ((middle.chMBPostI 0).posts.filter _ |>.map _).length ≤
      (final.posts.filter _ |>.map _).length
    rw [← split, List.filter_append, List.map_append, List.length_append]
    exact Nat.le_add_right _ _
  have fetched : (middle.chMBPostI 0).fetched = middle.fetched := by
    unfold Mailroom.chMBPostI Mailroom.put Mailroom.dequeueReader
    split
    · rfl
    · split
      · split <;> rfl
      · rfl
  have first := congrArg List.length posted.delivered
  have last := congrArg List.length later.delivered
  rw [List.length_append, List.length_map, fetched] at first
  rw [List.length_append, List.length_map, nothing] at last
  have positive := List.length_pos_iff.mpr something
  omega

/-- The event finds the mailbox full, and the service wakes up for a packet. -/
theorem event_wakes_service_full :
    ∃ middle final,
      run queueStep (.chMBObjectInit [0]) [.queuePushItem 2 0x100] = some middle ∧
      run queueStep middle
        [.sendEvent, .queuePopItem 1 1000, .queuePopItem 1 1000] = some final ∧
      middle.fetched.length < final.fetched.length := by
  have evaluated : (run queueStep (.chMBObjectInit [0]) [.queuePushItem 2 0x100]).map
      (fun middle => (run queueStep middle
        [.sendEvent, .queuePopItem 1 1000, .queuePopItem 1 1000]).map
          fun final => (final.mailbox.qr.length, final.readyReaders)) =
      some (some (1, [])) := by decide
  obtain ⟨middle, reached, rest⟩ := Option.map_eq_some_iff.mp evaluated
  obtain ⟨final, executed, values⟩ := Option.map_eq_some_iff.mp rest
  obtain ⟨one, settled⟩ := Prod.mk.inj values
  have waits : final.mailbox.qr ≠ [] := List.ne_nil_of_length_pos (by rw [one]; decide)
  exact ⟨middle, final, reached, executed,
    event_wakes_service (by decide) reached executed waits settled⟩

end XBotFirmware.Service
