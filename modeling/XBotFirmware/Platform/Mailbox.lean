import XBotFirmware.Library.Run
import XBotFirmware.Library.Ring
import XBotFirmware.Service.Queue

set_option autoImplicit false

/-!
The mailboxes of the kernel (`chmboxes.c`, `chmboxes.h`), with the threads that wait on them.

The pointers of a mailbox are positions in its buffer.  A thread that finds no slot, or no
message, waits in a queue until the other side makes it ready or its time runs out.  A
thread that was made ready starts its loop again when it runs, and by then others may have
taken what it was woken for.
-/

namespace XBotFirmware.Platform

open XBotFirmware.Library

/-- A thread in `chMBPostTimeoutS`, with its arguments. -/
structure Writer (Item : Type) where
  thread : Nat
  msg : Item
  timeout : SysInterval
  deriving DecidableEq, Repr

/-- A thread in `chMBFetchTimeoutS`, with its argument. -/
structure Reader where
  thread : Nat
  timeout : SysInterval
  deriving DecidableEq, Repr

/-- `mailbox_t`. -/
structure MailboxObject (Item : Type) where
  buffer : List Item
  rdptr : Nat
  wrptr : Nat
  cnt : Nat
  reset : Bool
  qw : List (Writer Item)
  qr : List Reader
  deriving DecidableEq, Repr

namespace MailboxObject

variable {Item : Type} (mbp : MailboxObject Item)

def chMBObjectInit (buf : List Item) : MailboxObject Item where
  buffer := buf
  rdptr := 0
  wrptr := 0
  cnt := 0
  reset := false
  qw := []
  qr := []

def chMBGetSizeI : Nat := mbp.buffer.length

def chMBGetUsedCountI : Nat := mbp.cnt

def chMBGetFreeCountI : Nat := mbp.chMBGetSizeI - mbp.chMBGetUsedCountI

def advance (position : Nat) : Nat :=
  if mbp.buffer.length ≤ position + 1 then 0 else position + 1

/-- `*mbp->wrptr++ = msg`, with the wrap and the count. -/
def store (msg : Item) : MailboxObject Item :=
  { mbp with
    buffer := mbp.buffer.set mbp.wrptr msg
    wrptr := mbp.advance mbp.wrptr
    cnt := mbp.cnt + 1 }

/-- The pointers after `*msgp = *mbp->rdptr++`. -/
def remove : MailboxObject Item :=
  { mbp with
    rdptr := mbp.advance mbp.rdptr
    cnt := mbp.cnt - 1 }

def contents : List Item := ringContents mbp.buffer mbp.rdptr mbp.cnt

/-- The pointers are inside the buffer and as far apart as the count says. -/
structure WellFormed : Prop where
  inside : mbp.rdptr < mbp.buffer.length
  bounded : mbp.cnt ≤ mbp.buffer.length
  wrptr_eq : mbp.wrptr = (mbp.rdptr + mbp.cnt) % mbp.buffer.length

variable {mbp}

theorem advance_eq {position : Nat} (inside : position < mbp.buffer.length) :
    mbp.advance position = (position + 1) % mbp.buffer.length := by
  unfold advance
  split
  next last =>
    have length : mbp.buffer.length = position + 1 := by omega
    rw [length, Nat.mod_self]
  next => exact (Nat.mod_eq_of_lt (by omega)).symm

theorem wellFormed_init {buf : List Item} (nonempty : buf ≠ []) :
    (chMBObjectInit buf).WellFormed where
  inside := List.length_pos_iff.mpr nonempty
  bounded := Nat.zero_le _
  wrptr_eq := (Nat.zero_mod _).symm

theorem length_contents (wellFormed : mbp.WellFormed) : mbp.contents.length = mbp.cnt :=
  length_ringContents wellFormed.bounded

theorem WellFormed.store (wellFormed : mbp.WellFormed) (free : 0 < mbp.chMBGetFreeCountI)
    (msg : Item) : (mbp.store msg).WellFormed where
  inside := by
    change _ < (mbp.buffer.set mbp.wrptr msg).length
    rw [List.length_set]
    exact wellFormed.inside
  bounded := by
    change mbp.cnt + 1 ≤ (mbp.buffer.set mbp.wrptr msg).length
    rw [List.length_set]
    simp only [chMBGetFreeCountI, chMBGetSizeI, chMBGetUsedCountI] at free
    omega
  wrptr_eq := by
    change mbp.advance mbp.wrptr =
      (mbp.rdptr + (mbp.cnt + 1)) % (mbp.buffer.set mbp.wrptr msg).length
    have positive := Nat.zero_lt_of_lt wellFormed.inside
    have position : mbp.wrptr < mbp.buffer.length := by
      rw [wellFormed.wrptr_eq]
      exact Nat.mod_lt _ positive
    rw [List.length_set, advance_eq position, wellFormed.wrptr_eq, Nat.mod_add_mod, Nat.add_assoc]

theorem contents_store (wellFormed : mbp.WellFormed) (free : 0 < mbp.chMBGetFreeCountI)
    (msg : Item) : (mbp.store msg).contents = mbp.contents ++ [msg] := by
  have room : mbp.cnt < mbp.buffer.length := by
    simp only [chMBGetFreeCountI, chMBGetSizeI, chMBGetUsedCountI] at free
    omega
  change ringContents (mbp.buffer.set mbp.wrptr msg) mbp.rdptr (mbp.cnt + 1) = _
  rw [wellFormed.wrptr_eq]
  exact ringContents_set room msg

theorem WellFormed.remove (wellFormed : mbp.WellFormed) (used : 0 < mbp.chMBGetUsedCountI) :
    mbp.remove.WellFormed where
  inside := by
    change mbp.advance mbp.rdptr < mbp.buffer.length
    rw [advance_eq wellFormed.inside]
    exact Nat.mod_lt _ (Nat.zero_lt_of_lt wellFormed.inside)
  bounded := Nat.le_trans (Nat.sub_le _ _) wellFormed.bounded
  wrptr_eq := by
    change mbp.wrptr = (mbp.advance mbp.rdptr + (mbp.cnt - 1)) % mbp.buffer.length
    have positive : 0 < mbp.cnt := used
    have distance : mbp.rdptr + 1 + (mbp.cnt - 1) = mbp.rdptr + mbp.cnt := by omega
    rw [advance_eq wellFormed.inside, Nat.mod_add_mod, distance]
    exact wellFormed.wrptr_eq

theorem contents_remove (wellFormed : mbp.WellFormed) (used : 0 < mbp.chMBGetUsedCountI) :
    ∃ msg, mbp.buffer[mbp.rdptr]? = some msg ∧ mbp.contents = msg :: mbp.remove.contents := by
  have inside := wellFormed.inside
  have bounded := wellFormed.bounded
  obtain ⟨count, counted⟩ := Nat.exists_eq_succ_of_ne_zero (Nat.ne_of_gt used)
  change mbp.cnt = count + 1 at counted
  refine ⟨mbp.buffer[mbp.rdptr], List.getElem?_eq_getElem inside, ?_⟩
  change ringContents mbp.buffer mbp.rdptr mbp.cnt =
    _ :: ringContents mbp.buffer (mbp.advance mbp.rdptr) (mbp.cnt - 1)
  rw [counted, ringContents_succ inside (by omega), advance_eq inside, Nat.add_sub_cancel]

end MailboxObject

structure Mailroom (Item : Type) where
  mailbox : MailboxObject Item
  /-- The threads that have left the queues with `MSG_OK` and not run since. -/
  readyWriters : List (Writer Item)
  readyReaders : List Reader
  /-- The posts that have returned since the last reset, with their results. -/
  posts : List (Item × Msg)
  /-- The messages fetched since then, and by which threads. -/
  fetched : List (Nat × Item)
  deriving DecidableEq, Repr

inductive MailOp (Item : Type) where
  | chMBPostTimeout (writer : Writer Item)
  /-- A ready writer runs. -/
  | resumePost (position : Nat)
  /-- The time of a waiting writer is over. -/
  | postExpired (position : Nat)
  | chMBPostI (msg : Item)
  | chMBFetchTimeout (reader : Reader)
  | resumeFetch (position : Nat)
  | fetchExpired (position : Nat)
  | chMBReset
  | chMBResumeX
  deriving DecidableEq, Repr

namespace Mailroom

variable {Item : Type} (room : Mailroom Item)

def chMBObjectInit (buf : List Item) : Mailroom Item where
  mailbox := .chMBObjectInit buf
  readyWriters := []
  readyReaders := []
  posts := []
  fetched := []

/-- The messages whose post returned `MSG_OK`. -/
def accepted : List Item := (room.posts.filter fun post => post.2 = .ok).map Prod.fst

/-- `chThdDequeueNextI(&mbp->qr, MSG_OK)`. -/
def dequeueReader : Mailroom Item :=
  match room.mailbox.qr with
  | [] => room
  | reader :: rest =>
      { room with
        mailbox := { room.mailbox with qr := rest }
        readyReaders := room.readyReaders ++ [reader] }

/-- `chThdDequeueNextI(&mbp->qw, MSG_OK)`. -/
def dequeueWriter : Mailroom Item :=
  match room.mailbox.qw with
  | [] => room
  | writer :: rest =>
      { room with
        mailbox := { room.mailbox with qw := rest }
        readyWriters := room.readyWriters ++ [writer] }

def postReturns (msg : Item) (result : Msg) : Mailroom Item :=
  { room with posts := room.posts ++ [(msg, result)] }

def put (msg : Item) : Mailroom Item :=
  ({ room with mailbox := room.mailbox.store msg }.postReturns msg .ok).dequeueReader

def get (thread : Nat) : Option (Mailroom Item) :=
  match room.mailbox.buffer[room.mailbox.rdptr]? with
  | none => none
  | some msg =>
      some { room with
        mailbox := room.mailbox.remove
        fetched := room.fetched ++ [(thread, msg)] }.dequeueWriter

def chMBPostI (msg : Item) : Mailroom Item :=
  if room.mailbox.reset then room.postReturns msg .reset
  else if 0 < room.mailbox.chMBGetFreeCountI then room.put msg
  else room.postReturns msg .timeout

/-- One round of the loop of `chMBPostTimeoutS`. -/
def postRound (writer : Writer Item) : Mailroom Item :=
  if room.mailbox.reset then room.postReturns writer.msg .reset
  else if 0 < room.mailbox.chMBGetFreeCountI then room.put writer.msg
  else if writer.timeout = timeImmediate then room.postReturns writer.msg .timeout
  else { room with mailbox := { room.mailbox with qw := room.mailbox.qw ++ [writer] } }

/-- One round of the loop of `chMBFetchTimeoutS`. -/
def fetchRound (reader : Reader) : Option (Mailroom Item) :=
  if room.mailbox.reset then some room
  else if 0 < room.mailbox.chMBGetUsedCountI then room.get reader.thread
  else if reader.timeout = timeImmediate then some room
  else some { room with mailbox := { room.mailbox with qr := room.mailbox.qr ++ [reader] } }

/-- The waiting threads return with `MSG_RESET`. -/
def chMBReset : Mailroom Item :=
  { room with
    mailbox := { room.mailbox with
      wrptr := 0
      rdptr := 0
      cnt := 0
      reset := true
      qw := []
      qr := [] }
    posts := []
    fetched := [] }

def chMBResumeX : Mailroom Item :=
  { room with mailbox := { room.mailbox with reset := false } }

def step (room : Mailroom Item) : MailOp Item → Option (Mailroom Item)
  | .chMBPostTimeout writer => some (room.postRound writer)
  | .resumePost position =>
      match room.readyWriters[position]? with
      | none => none
      | some writer =>
          some ({ room with
            readyWriters := room.readyWriters.eraseIdx position }.postRound writer)
  | .postExpired position =>
      match room.mailbox.qw[position]? with
      | none => none
      | some writer =>
          if writer.timeout = timeInfinite then none
          else some ({ room with mailbox := { room.mailbox with
            qw := room.mailbox.qw.eraseIdx position } }.postReturns writer.msg .timeout)
  | .chMBPostI msg => some (room.chMBPostI msg)
  | .chMBFetchTimeout reader => room.fetchRound reader
  | .resumeFetch position =>
      match room.readyReaders[position]? with
      | none => none
      | some reader =>
          { room with readyReaders := room.readyReaders.eraseIdx position }.fetchRound reader
  | .fetchExpired position =>
      match room.mailbox.qr[position]? with
      | none => none
      | some reader =>
          if reader.timeout = timeInfinite then none
          else some { room with mailbox := { room.mailbox with
            qr := room.mailbox.qr.eraseIdx position } }
  | .chMBReset => some room.chMBReset
  | .chMBResumeX => some room.chMBResumeX

/-- What was fetched and what is still there is what was accepted, in order.  While a thread
waits, at least as many threads of its side are ready as there is work for; one of each
side may be running. -/
structure Sound (size runningWriters runningReaders : Nat) (room : Mailroom Item) : Prop where
  wellFormed : room.mailbox.WellFormed
  size_eq : room.mailbox.buffer.length = size
  delivered : room.fetched.map Prod.snd ++ room.mailbox.contents = room.accepted
  writers : room.mailbox.qw ≠ [] →
    room.mailbox.chMBGetFreeCountI ≤ room.readyWriters.length + runningWriters
  readers : room.mailbox.qr ≠ [] →
    room.mailbox.chMBGetUsedCountI ≤ room.readyReaders.length + runningReaders
  emptied : room.mailbox.reset = true → room.mailbox.qw = [] ∧ room.mailbox.qr = []

variable {room} {size runningWriters runningReaders : Nat}

theorem accepted_concat (posts : List (Item × Msg)) (msg : Item) (result : Msg) :
    (((posts ++ [(msg, result)]).filter fun post => post.2 = .ok).map Prod.fst) =
      ((posts.filter fun post => post.2 = .ok).map Prod.fst) ++
        if result = .ok then [msg] else [] := by
  by_cases ok : result = .ok <;> simp [List.filter_append, ok]

theorem Sound.weaken (sound : room.Sound size 0 0) :
    room.Sound size runningWriters runningReaders where
  wellFormed := sound.wellFormed
  size_eq := sound.size_eq
  delivered := sound.delivered
  writers := fun waiting => Nat.le_trans (sound.writers waiting) (Nat.le_add_right _ _)
  readers := fun waiting => Nat.le_trans (sound.readers waiting) (Nat.le_add_right _ _)
  emptied := sound.emptied

theorem Sound.postReturns (sound : room.Sound size runningWriters runningReaders) (msg : Item)
    {result : Msg} (failed : result ≠ .ok) :
    (room.postReturns msg result).Sound size runningWriters runningReaders where
  wellFormed := sound.wellFormed
  size_eq := sound.size_eq
  delivered := by
    have same := accepted_concat room.posts msg result
    rw [if_neg failed, List.append_nil] at same
    exact sound.delivered.trans same.symm
  writers := sound.writers
  readers := sound.readers
  emptied := sound.emptied

theorem Sound.dequeueReader (sound : room.Sound size runningWriters 1) :
    room.dequeueReader.Sound size runningWriters 0 := by
  unfold Mailroom.dequeueReader
  cases waiting : room.mailbox.qr with
  | nil =>
      exact ⟨sound.wellFormed, sound.size_eq, sound.delivered, sound.writers,
        fun some => absurd waiting some, sound.emptied⟩
  | cons reader rest =>
      have nonempty : room.mailbox.qr ≠ [] := by
        rw [waiting]
        exact List.cons_ne_nil reader rest
      refine ⟨⟨sound.wellFormed.inside, sound.wellFormed.bounded, sound.wellFormed.wrptr_eq⟩,
        sound.size_eq, sound.delivered, sound.writers, fun _ => ?_, fun reset => ?_⟩
      · change room.mailbox.chMBGetUsedCountI ≤ (room.readyReaders ++ [reader]).length
        rw [List.length_append]
        exact sound.readers nonempty
      · exact absurd (sound.emptied reset).2 nonempty

theorem Sound.dequeueWriter (sound : room.Sound size 1 runningReaders) :
    room.dequeueWriter.Sound size 0 runningReaders := by
  unfold Mailroom.dequeueWriter
  cases waiting : room.mailbox.qw with
  | nil =>
      exact ⟨sound.wellFormed, sound.size_eq, sound.delivered,
        fun some => absurd waiting some, sound.readers, sound.emptied⟩
  | cons writer rest =>
      have nonempty : room.mailbox.qw ≠ [] := by
        rw [waiting]
        exact List.cons_ne_nil writer rest
      refine ⟨⟨sound.wellFormed.inside, sound.wellFormed.bounded, sound.wellFormed.wrptr_eq⟩,
        sound.size_eq, sound.delivered, fun _ => ?_, sound.readers, fun reset => ?_⟩
      · change room.mailbox.chMBGetFreeCountI ≤ (room.readyWriters ++ [writer]).length
        rw [List.length_append]
        exact sound.writers nonempty
      · exact absurd (sound.emptied reset).1 nonempty

theorem Sound.put (sound : room.Sound size 1 0) (free : 0 < room.mailbox.chMBGetFreeCountI)
    (msg : Item) : (room.put msg).Sound size 0 0 := by
  apply Sound.dequeueReader
  refine ⟨sound.wellFormed.store free msg, ?_, ?_, fun waiting => ?_, fun waiting => ?_,
    sound.emptied⟩
  · exact List.length_set.trans sound.size_eq
  · have one := accepted_concat room.posts msg .ok
    rw [if_pos rfl] at one
    change room.fetched.map Prod.snd ++ (room.mailbox.store msg).contents = _
    rw [MailboxObject.contents_store sound.wellFormed free, ← List.append_assoc, sound.delivered]
    exact one.symm
  · have counted := sound.writers waiting
    simp only [MailboxObject.chMBGetFreeCountI, MailboxObject.chMBGetSizeI,
      MailboxObject.chMBGetUsedCountI, MailboxObject.store, Mailroom.postReturns,
      List.length_set] at counted ⊢
    omega
  · exact Nat.succ_le_succ (sound.readers waiting)

theorem Sound.get (sound : room.Sound size 0 1) (used : 0 < room.mailbox.chMBGetUsedCountI)
    {thread : Nat} {next : Mailroom Item} (taken : room.get thread = some next) :
    next.Sound size 0 0 := by
  obtain ⟨msg, stored, split⟩ := MailboxObject.contents_remove sound.wellFormed used
  rw [Mailroom.get, stored] at taken
  cases taken
  apply Sound.dequeueWriter
  refine ⟨sound.wellFormed.remove used, sound.size_eq, ?_, fun waiting => ?_, fun waiting => ?_,
    sound.emptied⟩
  · have delivered := sound.delivered
    rw [split] at delivered
    change (room.fetched ++ [(thread, msg)]).map Prod.snd ++ room.mailbox.remove.contents = _
    rw [List.map_append, List.append_assoc]
    exact delivered
  · have counted := sound.writers waiting
    simp only [MailboxObject.chMBGetFreeCountI, MailboxObject.chMBGetSizeI,
      MailboxObject.chMBGetUsedCountI, MailboxObject.remove] at counted used ⊢
    omega
  · exact Nat.sub_le_of_le_add (sound.readers waiting)

theorem Sound.postRound (sound : room.Sound size 1 0) (writer : Writer Item) :
    (room.postRound writer).Sound size 0 0 := by
  have quiet : (room.mailbox.qw ≠ [] → room.mailbox.chMBGetFreeCountI ≤ 0) →
      room.Sound size 0 0 := fun full =>
    ⟨sound.wellFormed, sound.size_eq, sound.delivered,
      fun waiting => Nat.le_trans (full waiting) (Nat.zero_le _), sound.readers, sound.emptied⟩
  unfold Mailroom.postRound
  split
  next reset =>
    exact (quiet fun waiting => absurd (sound.emptied reset).1 waiting).postReturns _ (by decide)
  next working =>
    split
    next free => exact sound.put free _
    next full =>
      have still := quiet fun _ => Nat.le_of_not_lt full
      split
      next => exact still.postReturns _ (by decide)
      next =>
        exact ⟨⟨still.wellFormed.inside, still.wellFormed.bounded, still.wellFormed.wrptr_eq⟩,
          still.size_eq, still.delivered,
          fun _ => Nat.le_trans (Nat.le_of_not_lt full) (Nat.zero_le _), still.readers,
          fun reset => absurd reset working⟩

theorem Sound.fetchRound (sound : room.Sound size 0 1) {reader : Reader} {next : Mailroom Item}
    (round : room.fetchRound reader = some next) : next.Sound size 0 0 := by
  have quiet : (room.mailbox.qr ≠ [] → room.mailbox.chMBGetUsedCountI ≤ 0) →
      room.Sound size 0 0 := fun none =>
    ⟨sound.wellFormed, sound.size_eq, sound.delivered, sound.writers,
      fun waiting => Nat.le_trans (none waiting) (Nat.zero_le _), sound.emptied⟩
  unfold Mailroom.fetchRound at round
  split at round
  next reset =>
    cases round
    exact quiet fun waiting => absurd (sound.emptied reset).2 waiting
  next working =>
    split at round
    next used => exact sound.get used round
    next none =>
      have still := quiet fun _ => Nat.le_of_not_lt none
      split at round
      next =>
        cases round
        exact still
      next =>
        cases round
        exact ⟨⟨still.wellFormed.inside, still.wellFormed.bounded, still.wellFormed.wrptr_eq⟩,
          still.size_eq, still.delivered, still.writers,
          fun _ => Nat.le_trans (Nat.le_of_not_lt none) (Nat.zero_le _),
          fun reset => absurd reset working⟩

theorem length_le_eraseIdx_succ {Element : Type} (list : List Element) (position : Nat) :
    list.length ≤ (list.eraseIdx position).length + 1 := by
  rw [List.length_eraseIdx]
  split <;> omega

theorem Sound.writerRuns (sound : room.Sound size 0 0) (position : Nat) :
    Sound size 1 0
      { room with readyWriters := room.readyWriters.eraseIdx position } where
  wellFormed := sound.wellFormed
  size_eq := sound.size_eq
  delivered := sound.delivered
  writers := fun waiting =>
    Nat.le_trans (sound.writers waiting) (length_le_eraseIdx_succ room.readyWriters position)
  readers := sound.readers
  emptied := sound.emptied

theorem Sound.readerRuns (sound : room.Sound size 0 0) (position : Nat) :
    Sound size 0 1
      { room with readyReaders := room.readyReaders.eraseIdx position } where
  wellFormed := sound.wellFormed
  size_eq := sound.size_eq
  delivered := sound.delivered
  writers := sound.writers
  readers := fun waiting =>
    Nat.le_trans (sound.readers waiting) (length_le_eraseIdx_succ room.readyReaders position)
  emptied := sound.emptied

theorem eraseIdx_nil_of_nil {Element : Type} {list : List Element} (position : Nat)
    (none : list = []) : list.eraseIdx position = [] := by
  rw [none, List.eraseIdx_nil]

theorem Sound.writerLeaves (sound : room.Sound size 0 0) (position : Nat) :
    Sound size 0 0
      { room with mailbox := { room.mailbox with qw := room.mailbox.qw.eraseIdx position } } where
  wellFormed := ⟨sound.wellFormed.inside, sound.wellFormed.bounded, sound.wellFormed.wrptr_eq⟩
  size_eq := sound.size_eq
  delivered := sound.delivered
  writers := fun waiting => sound.writers (mt (eraseIdx_nil_of_nil position) waiting)
  readers := sound.readers
  emptied := fun reset =>
    ⟨eraseIdx_nil_of_nil position (sound.emptied reset).1, (sound.emptied reset).2⟩

theorem Sound.readerLeaves (sound : room.Sound size 0 0) (position : Nat) :
    Sound size 0 0
      { room with mailbox := { room.mailbox with qr := room.mailbox.qr.eraseIdx position } } where
  wellFormed := ⟨sound.wellFormed.inside, sound.wellFormed.bounded, sound.wellFormed.wrptr_eq⟩
  size_eq := sound.size_eq
  delivered := sound.delivered
  writers := sound.writers
  readers := fun waiting => sound.readers (mt (eraseIdx_nil_of_nil position) waiting)
  emptied := fun reset =>
    ⟨(sound.emptied reset).1, eraseIdx_nil_of_nil position (sound.emptied reset).2⟩

theorem Sound.chMBPostI (sound : room.Sound size 0 0) (msg : Item) :
    (room.chMBPostI msg).Sound size 0 0 := by
  unfold Mailroom.chMBPostI
  split
  next => exact sound.postReturns msg (by decide)
  next =>
    split
    next free => exact (Sound.weaken sound).put free msg
    next => exact sound.postReturns msg (by decide)

theorem Sound.chMBReset (sound : room.Sound size 0 0) : room.chMBReset.Sound size 0 0 where
  wellFormed := {
    inside := Nat.zero_lt_of_lt sound.wellFormed.inside
    bounded := Nat.zero_le _
    wrptr_eq := (Nat.zero_mod _).symm }
  size_eq := sound.size_eq
  delivered := rfl
  writers := fun waiting => absurd rfl waiting
  readers := fun waiting => absurd rfl waiting
  emptied := fun _ => ⟨rfl, rfl⟩

theorem step_sound {op : MailOp Item} {next : Mailroom Item} (sound : room.Sound size 0 0)
    (stepped : room.step op = some next) : next.Sound size 0 0 := by
  cases op with
  | chMBPostTimeout writer =>
      cases stepped
      exact (Sound.weaken sound).postRound writer
  | resumePost position =>
      rw [step] at stepped
      split at stepped
      next => cases stepped
      next writer _ =>
        cases stepped
        exact (sound.writerRuns position).postRound writer
  | postExpired position =>
      rw [step] at stepped
      split at stepped
      next => cases stepped
      next writer _ =>
        split at stepped
        next => cases stepped
        next =>
          cases stepped
          exact (sound.writerLeaves position).postReturns writer.msg (by decide)
  | chMBPostI msg =>
      cases stepped
      exact sound.chMBPostI msg
  | chMBFetchTimeout reader => exact (Sound.weaken sound).fetchRound stepped
  | resumeFetch position =>
      rw [step] at stepped
      split at stepped
      next => cases stepped
      next => exact (sound.readerRuns position).fetchRound stepped
  | fetchExpired position =>
      rw [step] at stepped
      split at stepped
      next => cases stepped
      next =>
        split at stepped
        next => cases stepped
        next =>
          cases stepped
          exact sound.readerLeaves position
  | chMBReset =>
      cases stepped
      exact sound.chMBReset
  | chMBResumeX =>
      cases stepped
      exact ⟨⟨sound.wellFormed.inside, sound.wellFormed.bounded, sound.wellFormed.wrptr_eq⟩,
        sound.size_eq, sound.delivered, sound.writers, sound.readers, fun reset => by cases reset⟩

theorem run_sound {buf : List Item} (nonempty : buf ≠ []) {ops : List (MailOp Item)}
    (executed : run step (chMBObjectInit buf) ops = some room) : room.Sound buf.length 0 0 := by
  refine run_invariant (fun _ _ _ sound stepped => step_sound sound stepped) ?_ executed
  exact ⟨MailboxObject.wellFormed_init nonempty, rfl, rfl, fun waiting => absurd rfl waiting,
    fun waiting => absurd rfl waiting, fun reset => by cases reset⟩

end Mailroom

end XBotFirmware.Platform
