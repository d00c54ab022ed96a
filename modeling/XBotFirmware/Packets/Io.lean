import XBotFirmware.Library.Chain
import XBotFirmware.Packets.Pool

set_option autoImplicit false

/-!
The I/O thread of the xbot framework (`portable/xbot/Io.cpp`, `socket.cpp`).

Each iteration of `runIo` allocates a packet, receives a datagram into it, and
frees it or gives it to a service.  The services are threaded through
`next_service_`; a pointer to one is its position.
-/

namespace XBotFirmware.Packets

open XBotFirmware.Library

abbrev Byte := BitVec 8

abbrev Buffer := Nat → Byte

structure Packet where
  usedData : Nat
  buffer : Buffer

/-- `XbotHeader`, which the framework declares: its size and where its fields are. -/
structure HeaderLayout where
  size : Nat
  payloadSize : Buffer → Nat
  serviceId : Buffer → Nat

structure ServiceIo where
  serviceId : Nat
  stopped : Bool
  nextService : Option Nat
  deriving DecidableEq, Repr

inductive PacketAction where
  | freePacket (packet : PacketPtr)
  | ioInput (service : Nat) (packet : PacketPtr)
  deriving DecidableEq, Repr

structure Datagram where
  ip : BitVec 32
  port : BitVec 16
  data : List Byte
  deriving DecidableEq, Repr

structure Io where
  services : List ServiceIo
  firstService : Option Nat
  pool : Mempool
  packets : PacketPtr → Packet
  /-- The packet of the I/O thread, while it is inside an iteration. -/
  held : Option PacketPtr
  owned : List (Nat × PacketPtr)
  log : List PacketAction
  sent : List Datagram

namespace Io

/-- The state before any service is registered. -/
def start (services : List (Nat × Bool)) : Io where
  services := services.map fun service => ⟨service.1, service.2, none⟩
  firstService := none
  pool := .init
  packets := fun _ => ⟨0, fun _ => 0⟩
  held := none
  owned := []
  log := []
  sent := []

def nextService (services : List ServiceIo) (position : Nat) : Option Nat :=
  services[position]?.bind ServiceIo.nextService

def registerServiceIo (io : Io) (service : Nat) : Option Io :=
  match io.firstService with
  | none => some { io with firstService := some service }
  | some first =>
      match last? (nextService io.services) io.services.length first with
      | none => none
      | some last =>
          some { io with services := io.services.modify last fun entry =>
            { entry with nextService := some service } }

def registerAll (io : Io) : List Nat → Option Io
  | [] => some io
  | service :: rest => (io.registerServiceIo service).bind fun next => next.registerAll rest

/-- Free a packet or hand it over, and record which. -/
def perform (io : Io) (action : PacketAction) : Io :=
  match action with
  | .freePacket packet =>
      { io with pool := io.pool.free packet, log := io.log ++ [action] }
  | .ioInput service packet =>
      { io with owned := (service, packet) :: io.owned, log := io.log ++ [action] }

def packetGetData (io : Io) (packet : Option PacketPtr) : Option (Buffer × Nat) :=
  packet.map fun position => ((io.packets position).buffer, (io.packets position).usedData)

/-- `recvfrom` fills the start of the buffer. -/
def fill (packet : Packet) (data : List Byte) : Packet where
  usedData := data.length
  buffer := fun index => data.getD index (packet.buffer index)

def store (io : Io) (packet : PacketPtr) (data : List Byte) : Io :=
  { io with packets := Function.update io.packets packet (fill (io.packets packet) data) }

/-- The search of `runIo` for a service that takes the packet. -/
def findService? (services : List ServiceIo) (id : Nat) : Nat → Option Nat → Option (Option Nat)
  | _, none => some none
  | 0, some _ => none
  | fuel + 1, some position =>
      match services[position]? with
      | none => none
      | some service =>
          if service.serviceId = id then
            if !service.stopped then some (some position)
            else findService? services id fuel service.nextService
          else findService? services id fuel service.nextService

variable (layout : HeaderLayout)

/-- What `runIo` does with a packet that `receivePacket` has returned. -/
def dispatch (io : Io) (packet : PacketPtr) : Option PacketAction :=
  match io.packetGetData (some packet) with
  | none => some (.freePacket packet)
  | some (buffer, usedData) =>
      if usedData < layout.size then
        some (.freePacket packet)
      else if usedData - layout.size ≠ layout.payloadSize buffer then
        some (.freePacket packet)
      else
        match findService? io.services (layout.serviceId buffer) io.services.length
            io.firstService with
        | none => none
        | some (some service) => some (.ioInput service packet)
        | some none => some (.freePacket packet)

/-- `receivePacket` from `recvfrom` on, and the rest of the iteration.  An error of
`recvfrom` is `none`. -/
def receive (maxPacketSize : Nat) (io : Io) (packet : PacketPtr) (received : Option (List Byte)) :
    Option Io :=
  match received with
  | none => some (io.perform (.freePacket packet))
  | some data =>
      let filled := io.store packet (data.take maxPacketSize)
      (filled.dispatch layout packet).map filled.perform

/-- `allocatePacket`; it blocks while the pool has no packet. -/
def allocatePacket (io : Io) : Option (PacketPtr × Io) :=
  match io.pool.alloc with
  | (none, _) => none
  | (some packet, pool) =>
      some (packet, { io with
        pool := pool
        packets := Function.update io.packets packet { io.packets packet with usedData := 0 } })

/-- `transmitPacket`, which sends and then frees whatever `sendto` returns. -/
def transmitPacket (io : Io) (packet : PacketPtr) (ip : BitVec 32) (port : BitVec 16) : Io :=
  let data := (List.range (io.packets packet).usedData).map (io.packets packet).buffer
  let transmitted := { io with sent := io.sent ++ [Datagram.mk ip port data] }
  transmitted.perform (.freePacket packet)

end Io

/-- The steps of the I/O thread and of the services that own packets. -/
inductive IoStep where
  | beginIteration
  | receive (received : Option (List Byte))
  | allocate (service : Nat)
  | transmit (service : Nat) (packet : PacketPtr) (ip : BitVec 32) (port : BitVec 16)
  | release (service : Nat) (packet : PacketPtr)
  | setStopped (service : Nat) (stopped : Bool)

namespace Io

def step (layout : HeaderLayout) (maxPacketSize : Nat) (io : Io) : IoStep → Option Io
  | .beginIteration =>
      match io.held with
      | some _ => none
      | none => io.allocatePacket.map fun allocated =>
          { allocated.2 with held := some allocated.1 }
  | .receive received =>
      match io.held with
      | none => none
      | some packet => { io with held := none }.receive layout maxPacketSize packet received
  | .allocate service => io.allocatePacket.map fun allocated =>
      { allocated.2 with owned := (service, allocated.1) :: io.owned }
  | .transmit service packet ip port =>
      if (service, packet) ∈ io.owned then
        some ({ io with owned := io.owned.erase (service, packet) }.transmitPacket packet ip port)
      else none
  | .release service packet =>
      if (service, packet) ∈ io.owned then
        some ({ io with owned := io.owned.erase (service, packet) }.perform (.freePacket packet))
      else none
  | .setStopped service stopped =>
      some { io with services := io.services.modify service fun entry =>
        { entry with stopped := stopped } }

/-- The service would take a packet with this id now. -/
def Accepts (io : Io) (id service : Nat) : Prop :=
  ∃ entry, io.services[service]? = some entry ∧ entry.serviceId = id ∧ entry.stopped = false

/-- The first service in registration order that would take the packet. -/
def FirstAccepting (io : Io) (registered : List Nat) (id service : Nat) : Prop :=
  ∃ before after, registered = before ++ service :: after ∧ io.Accepts id service ∧
    ∀ earlier ∈ before, ¬ io.Accepts id earlier

section Registration

variable {io next : Io} {registered : List Nat}

/-- The services are threaded in the order of registration. -/
structure Registered (io : Io) (registered : List Nat) : Prop where
  present : ∀ service ∈ registered, service < io.services.length
  threaded : Chain (nextService io.services) io.firstService registered
  unlinked : ∀ service, service ∉ registered → nextService io.services service = none

theorem start_registered (services : List (Nat × Bool)) : (start services).Registered [] where
  present := by simp
  threaded := .nil
  unlinked := by
    intro service _
    simp only [nextService, start, List.getElem?_map]
    cases services[service]? <;> rfl

theorem nextService_modify (services : List ServiceIo) (last service other : Nat)
    (inside : last < services.length) :
    nextService (services.modify last fun entry => { entry with nextService := some service })
      other = if other = last then some service else nextService services other := by
  unfold nextService
  rw [List.getElem?_modify]
  by_cases same : last = other
  · subst same
    rw [if_pos rfl, List.getElem?_eq_getElem inside]
    simp
  · rw [if_neg (Ne.symm same)]
    cases services[other]? <;> simp [same]

theorem Registered.registerServiceIo {service : Nat} (invariant : io.Registered registered)
    (fresh : service ∉ registered) (inside : service < io.services.length) :
    ∃ next, io.registerServiceIo service = some next ∧
      next.services.length = io.services.length ∧ next.Registered (registered ++ [service]) := by
  have unlinked := invariant.unlinked service fresh
  have present : ∀ other ∈ registered ++ [service], other < io.services.length := by
    intro other membership
    rcases List.mem_append.mp membership with old | new
    · exact invariant.present other old
    · exact List.mem_singleton.mp new ▸ inside
  unfold Io.registerServiceIo
  cases head : io.firstService with
  | none =>
      have threaded := invariant.threaded
      rw [head] at threaded
      cases threaded
      refine ⟨_, rfl, rfl, present, .cons (unlinked ▸ .nil), ?_⟩
      intro other _
      exact invariant.unlinked other List.not_mem_nil
  | some first =>
      have threaded := invariant.threaded
      rw [head] at threaded
      simp only
      rw [threaded.last? (threaded.length_le invariant.present)]
      have nonempty : registered ≠ [] := by
        rintro rfl
        cases threaded
      obtain ⟨last, ends⟩ := Option.ne_none_iff_exists'.mp
        (mt List.getLast?_eq_none_iff.mp nonempty)
      have lastMember : last ∈ registered := List.mem_of_getLast? ends
      have lastInside := invariant.present last lastMember
      have differs : service ≠ last := by
        rintro rfl
        exact fresh lastMember
      have links := fun other => nextService_modify io.services last service other lastInside
      rw [ends]
      refine ⟨_, rfl, List.length_modify .., ?_, ?_, ?_⟩
      · intro other membership
        rw [List.length_modify]
        exact present other membership
      · apply threaded.concat ends
        · intro node _ different
          rw [links, if_neg different]
        · rw [links, if_pos rfl]
        · rw [links, if_neg differs, unlinked]
      · intro other absent
        rw [List.mem_append, not_or] at absent
        rw [links, if_neg (fun same : other = last => absent.1 (same ▸ lastMember))]
        exact invariant.unlinked other absent.1

theorem Registered.registerAll {services : List Nat} (invariant : io.Registered registered)
    (distinct : services.Nodup) (fresh : ∀ service ∈ services, service ∉ registered)
    (inside : ∀ service ∈ services, service < io.services.length) :
    ∃ next, io.registerAll services = some next ∧ next.Registered (registered ++ services) := by
  induction services generalizing io registered with
  | nil => exact ⟨io, rfl, by rwa [List.append_nil]⟩
  | cons service rest inductionHypothesis =>
      obtain ⟨notLater, distinctRest⟩ := List.nodup_cons.mp distinct
      obtain ⟨freshFirst, freshRest⟩ := List.forall_mem_cons.mp fresh
      obtain ⟨insideFirst, insideRest⟩ := List.forall_mem_cons.mp inside
      obtain ⟨middle, called, length, appended⟩ :=
        invariant.registerServiceIo freshFirst insideFirst
      obtain ⟨final, rest', finished⟩ := inductionHypothesis appended distinctRest
        (by
          intro other membership again
          rcases List.mem_append.mp again with old | new
          · exact freshRest other membership old
          · exact notLater (List.mem_singleton.mp new ▸ membership))
        (fun other membership => length ▸ insideRest other membership)
      refine ⟨final, ?_, ?_⟩
      · rw [Io.registerAll, called, Option.bind_some, rest']
      · rwa [List.append_assoc, List.singleton_append] at finished

theorem registerAll_packets {services : List Nat}
    (registers : io.registerAll services = some next) :
    next.pool = io.pool ∧ next.held = io.held ∧ next.owned = io.owned := by
  induction services generalizing io with
  | nil =>
      cases registers
      exact ⟨rfl, rfl, rfl⟩
  | cons service rest inductionHypothesis =>
      obtain ⟨middle, called, remaining⟩ := Option.bind_eq_some_iff.mp registers
      obtain ⟨pool, held, owned⟩ := inductionHypothesis remaining
      have same : middle.pool = io.pool ∧ middle.held = io.held ∧ middle.owned = io.owned := by
        unfold Io.registerServiceIo at called
        split at called
        next =>
          cases called
          exact ⟨rfl, rfl, rfl⟩
        next =>
          split at called
          next => cases called
          next =>
            cases called
            exact ⟨rfl, rfl, rfl⟩
      exact ⟨pool.trans same.1, held.trans same.2.1, owned.trans same.2.2⟩

theorem Registered.of_same (invariant : io.Registered registered)
    (services : next.services = io.services) (first : next.firstService = io.firstService) :
    next.Registered registered := by
  refine ⟨?_, ?_, ?_⟩
  · rw [services]
    exact invariant.present
  · rw [services, first]
    exact invariant.threaded
  · rw [services]
    exact invariant.unlinked

theorem Registered.setStopped {service : Nat} {stopped : Bool}
    (invariant : io.Registered registered)
    (changed : next.services = io.services.modify service fun entry =>
      { entry with stopped := stopped })
    (first : next.firstService = io.firstService) : next.Registered registered := by
  have links : nextService next.services = nextService io.services := by
    funext other
    rw [changed]
    unfold nextService
    rw [List.getElem?_modify]
    cases io.services[other]? with
    | none => rfl
    | some entry => by_cases same : service = other <;> simp [same]
  refine ⟨?_, ?_, ?_⟩
  · rw [changed, List.length_modify]
    exact invariant.present
  · rw [links, first]
    exact invariant.threaded
  · rw [links]
    exact invariant.unlinked

end Registration

section Dispatch

variable {io : Io} {registered : List Nat}

/-- `Accepts`, as the search tests it. -/
def accepts (services : List ServiceIo) (id service : Nat) : Bool :=
  services[service]?.any fun entry => entry.serviceId = id && !entry.stopped

theorem accepts_iff (id service : Nat) :
    accepts io.services id service = true ↔ io.Accepts id service := by
  unfold accepts Accepts
  cases io.services[service]? <;> simp

theorem find?_eq_some_iff_firstAccepting (id service : Nat) :
    registered.find? (accepts io.services id) = some service ↔
      io.FirstAccepting registered id service := by
  rw [List.find?_eq_some_iff_append, accepts_iff]
  constructor
  · rintro ⟨accepted, before, after, split, others⟩
    refine ⟨before, after, split, accepted, ?_⟩
    intro earlier membership taken
    have refused := others earlier membership
    rw [(accepts_iff id earlier).mpr taken] at refused
    cases refused
  · rintro ⟨before, after, split, accepted, others⟩
    refine ⟨accepted, before, after, split, ?_⟩
    intro earlier membership
    have refused := others earlier membership
    rw [← accepts_iff] at refused
    rw [Bool.eq_false_iff.mpr refused]
    rfl

/-- The search ends, and finds the first service that accepts. -/
theorem findService?_of_chain {services : List ServiceIo} {head : Option Nat} {nodes : List Nat}
    (threaded : Chain (nextService services) head nodes)
    (present : ∀ service ∈ nodes, service < services.length) (id : Nat) {fuel : Nat}
    (enough : nodes.length ≤ fuel) :
    findService? services id fuel head = some (nodes.find? (accepts services id)) := by
  induction threaded generalizing fuel with
  | nil => cases fuel <;> rfl
  | @cons position rest _ inductionHypothesis =>
      obtain ⟨inside, insideRest⟩ := List.forall_mem_cons.mp present
      cases fuel with
      | zero => exact absurd enough (Nat.not_succ_le_zero _)
      | succ fuel =>
          have found := List.getElem?_eq_getElem inside
          have remaining := inductionHypothesis insideRest (Nat.le_of_succ_le_succ enough)
          rw [nextService, found, Option.bind_some] at remaining
          rw [findService?, found, List.find?_cons]
          simp only [accepts, found, Option.any_some] at remaining ⊢
          split
          next sameId =>
            split
            next running => simp [sameId, running]
            next stopped => simpa [sameId, stopped] using remaining
          next otherId => simpa [otherId] using remaining

/-- The packet is long enough for the header, and the header states its length. -/
def Framed (layout : HeaderLayout) (packet : Packet) : Prop :=
  layout.size ≤ packet.usedData ∧
    packet.usedData - layout.size = layout.payloadSize packet.buffer

/-- A framed packet goes to the first service that accepts its id, every other one
back to the pool. -/
theorem dispatch_eq (layout : HeaderLayout) (invariant : io.Registered registered)
    (packet : PacketPtr) :
    ∃ action, io.dispatch layout packet = some action ∧
      (action = .freePacket packet ∨ ∃ service, action = .ioInput service packet) ∧
      ∀ service, action = .ioInput service packet ↔
        Framed layout (io.packets packet) ∧ io.FirstAccepting registered
          (layout.serviceId (io.packets packet).buffer) service := by
  simp only [dispatch, packetGetData, Option.map_some, Framed]
  split
  next short =>
    refine ⟨_, rfl, .inl rfl, ?_⟩
    intro service
    constructor
    · intro equal
      cases equal
    · rintro ⟨⟨long, _⟩, _⟩
      exact absurd short (Nat.not_lt.mpr long)
  next long =>
    split
    next differs =>
      refine ⟨_, rfl, .inl rfl, ?_⟩
      intro service
      constructor
      · intro equal
        cases equal
      · rintro ⟨⟨_, fits⟩, _⟩
        exact absurd fits differs
    next fits =>
      have framed := And.intro (Nat.le_of_not_lt long) (Decidable.not_not.mp fits)
      rw [findService?_of_chain invariant.threaded invariant.present _
        (invariant.threaded.length_le invariant.present)]
      cases found : registered.find?
          (accepts io.services (layout.serviceId (io.packets packet).buffer)) with
      | none =>
          refine ⟨_, rfl, .inl rfl, ?_⟩
          intro service
          rw [← find?_eq_some_iff_firstAccepting, found]
          simp
      | some receiver =>
          refine ⟨_, rfl, .inr ⟨receiver, rfl⟩, ?_⟩
          intro service
          rw [← find?_eq_some_iff_firstAccepting, found]
          simp [framed]

/-- The packets that are in the pool, held by the I/O thread or owned by a service. -/
def accounted (io : Io) : List PacketPtr :=
  io.pool.tab ++ (io.held.toList ++ io.owned.map Prod.snd)

structure Invariant (registered : List Nat) (io : Io) : Prop where
  registered : io.Registered registered
  packets : io.accounted.Perm (List.range xbotPacketPoolSize)

theorem perform_accounted {packet : PacketPtr} {action : PacketAction}
    (one : action = .freePacket packet ∨ ∃ service, action = .ioInput service packet) :
    (io.perform action).accounted.Perm (packet :: io.accounted) := by
  rcases one with rfl | ⟨service, rfl⟩
  · exact List.Perm.refl _
  · simp only [accounted, perform, List.map_cons]
    refine (List.Perm.append_left _ List.perm_middle).trans ?_
    exact List.perm_middle

theorem Registered.perform (invariant : io.Registered registered) (action : PacketAction) :
    (io.perform action).Registered registered := by
  cases action <;> exact ⟨invariant.present, invariant.threaded, invariant.unlinked⟩

theorem Invariant.perform {packet : PacketPtr} {action : PacketAction}
    (threaded : io.Registered registered)
    (others : (packet :: io.accounted).Perm (List.range xbotPacketPoolSize))
    (one : action = .freePacket packet ∨ ∃ service, action = .ioInput service packet) :
    (io.perform action).Invariant registered :=
  ⟨threaded.perform action, (perform_accounted one).trans others⟩

/-- The iteration has freed its packet once and given it to nobody, or has given it to
one service and not freed it. -/
def Disposed (io next : Io) (packet : PacketPtr) (action : PacketAction) : Prop :=
  next.held = none ∧ next.log = io.log ++ [action] ∧
    ((action = .freePacket packet ∧ next.pool = io.pool.free packet ∧ next.owned = io.owned) ∨
      ∃ service, action = .ioInput service packet ∧ next.pool = io.pool ∧
        next.owned = (service, packet) :: io.owned)

theorem perform_disposed {filled : Io} {packet : PacketPtr} {action : PacketAction}
    (one : action = .freePacket packet ∨ ∃ service, action = .ioInput service packet)
    (held : filled.held = none) (log : filled.log = io.log) (pool : filled.pool = io.pool)
    (owned : filled.owned = io.owned) : Disposed io (filled.perform action) packet action := by
  unfold Disposed
  rw [← log, ← pool, ← owned]
  rcases one with rfl | ⟨service, rfl⟩
  · exact ⟨held, rfl, .inl ⟨rfl, rfl, rfl⟩⟩
  · exact ⟨held, rfl, .inr ⟨service, rfl, rfl, rfl⟩⟩

theorem Invariant.receive (layout : HeaderLayout) (maxPacketSize : Nat) {packet : PacketPtr}
    (invariant : io.Invariant registered) (holds : io.held = some packet)
    (received : Option (List Byte)) :
    ∃ next action, io.step layout maxPacketSize (.receive received) = some next ∧
      next.Invariant registered ∧ Disposed io next packet action ∧
      ∀ service, action = .ioInput service packet ↔
        ∃ data, received = some data ∧
          Framed layout (fill (io.packets packet) (data.take maxPacketSize)) ∧
          io.FirstAccepting registered (layout.serviceId
            (fill (io.packets packet) (data.take maxPacketSize)).buffer) service := by
  have others : (packet :: { io with held := none }.accounted).Perm
      (List.range xbotPacketPoolSize) := by
    apply List.Perm.trans _ invariant.packets
    rw [accounted, accounted, holds]
    exact List.perm_middle.symm
  simp only [step, holds]
  cases received with
  | none =>
      refine ⟨_, .freePacket packet, rfl,
        .perform (invariant.registered.of_same rfl rfl) others (.inl rfl), ?_, ?_⟩
      · exact perform_disposed (.inl rfl) rfl rfl rfl rfl
      · intro service
        simp
  | some data =>
      let filled := { io with held := none }.store packet (data.take maxPacketSize)
      have threaded : filled.Registered registered := invariant.registered.of_same rfl rfl
      have contents : filled.packets packet =
          fill (io.packets packet) (data.take maxPacketSize) := Function.update_self ..
      obtain ⟨action, dispatched, one, handed⟩ := dispatch_eq layout threaded packet
      refine ⟨filled.perform action, action, ?_, .perform threaded others one, ?_, ?_⟩
      · rw [Io.receive, show filled.dispatch layout packet = some action from dispatched,
          Option.map_some]
      · exact perform_disposed one rfl rfl rfl rfl
      · intro service
        rw [handed service, contents]
        simp only [Option.some.injEq, exists_eq_left']
        exact Iff.rfl

end Dispatch

section Steps

variable {layout : HeaderLayout} {maxPacketSize : Nat} {io next : Io} {registered : List Nat}

theorem allocatePacket_eq_some {packet : PacketPtr} {after : Io}
    (allocated : io.allocatePacket = some (packet, after)) :
    io.pool.tab = packet :: after.pool.tab ∧ after.held = io.held ∧ after.owned = io.owned ∧
      after.services = io.services ∧ after.firstService = io.firstService := by
  unfold allocatePacket Mempool.alloc at allocated
  cases free : io.pool.tab with
  | nil => simp [free] at allocated
  | cons first rest =>
      simp only [free, List.head?_cons, List.tail_cons, Option.some.injEq,
        Prod.mk.injEq] at allocated
      obtain ⟨rfl, rfl⟩ := allocated
      exact ⟨rfl, rfl, rfl, rfl, rfl⟩

theorem Invariant.beginIteration (invariant : io.Invariant registered)
    (stepped : io.step layout maxPacketSize .beginIteration = some next) :
    next.Invariant registered := by
  simp only [step] at stepped
  split at stepped
  next => cases stepped
  next empty =>
    obtain ⟨⟨packet, after⟩, allocated, rfl⟩ := Option.map_eq_some_iff.mp stepped
    obtain ⟨pool, _, owned, services, first⟩ := allocatePacket_eq_some allocated
    refine ⟨invariant.registered.of_same services first, ?_⟩
    apply List.Perm.trans _ invariant.packets
    simp only [accounted, pool, owned, empty, Option.toList_some, Option.toList_none,
      List.nil_append, List.singleton_append]
    exact List.perm_middle

theorem Invariant.allocate {service : Nat} (invariant : io.Invariant registered)
    (stepped : io.step layout maxPacketSize (.allocate service) = some next) :
    next.Invariant registered := by
  obtain ⟨⟨packet, after⟩, allocated, rfl⟩ := Option.map_eq_some_iff.mp stepped
  obtain ⟨pool, held, owned, services, first⟩ := allocatePacket_eq_some allocated
  refine ⟨invariant.registered.of_same services first, ?_⟩
  apply List.Perm.trans _ invariant.packets
  simp only [accounted, pool, held, List.map_cons]
  exact (List.Perm.append_left _ List.perm_middle).trans List.perm_middle

theorem Invariant.giveBack {service : Nat} {packet : PacketPtr}
    (invariant : io.Invariant registered) (owns : (service, packet) ∈ io.owned)
    (pool : next.pool = io.pool) (held : next.held = io.held)
    (owned : next.owned = io.owned.erase (service, packet))
    (services : next.services = io.services) (first : next.firstService = io.firstService) :
    (next.perform (.freePacket packet)).Invariant registered := by
  refine .perform (invariant.registered.of_same services first) ?_ (.inl rfl)
  apply List.Perm.trans _ invariant.packets
  rw [accounted, accounted, pool, held, owned]
  have moved := PacketSystem.map_snd_perm_erase owns
  refine List.Perm.trans ?_ (List.Perm.append_left _ (List.Perm.append_left _ moved.symm))
  exact (List.perm_middle.symm.trans (List.Perm.append_left _ List.perm_middle.symm))

theorem step_invariant (io : Io) (label : IoStep) (next : Io) (invariant : io.Invariant registered)
    (stepped : io.step layout maxPacketSize label = some next) : next.Invariant registered := by
  cases label with
  | beginIteration => exact invariant.beginIteration stepped
  | receive received =>
      cases holds : io.held with
      | none => simp [step, holds] at stepped
      | some packet =>
          obtain ⟨after, _, reached, kept, _⟩ :=
            invariant.receive layout maxPacketSize holds received
          obtain rfl := Option.some.inj (stepped.symm.trans reached)
          exact kept
  | allocate service => exact invariant.allocate stepped
  | transmit service packet ip port =>
      simp only [step] at stepped
      split at stepped
      next owns =>
        cases stepped
        exact invariant.giveBack owns rfl rfl rfl rfl rfl
      next => cases stepped
  | release service packet =>
      simp only [step] at stepped
      split at stepped
      next owns =>
        cases stepped
        exact invariant.giveBack owns rfl rfl rfl rfl rfl
      next => cases stepped
  | setStopped service stopped =>
      cases stepped
      exact ⟨invariant.registered.setStopped rfl rfl, invariant.packets⟩

theorem Invariant.of_boot {services : List (Nat × Bool)} (threaded : next.Registered registered)
    (registers : (start services).registerAll registered = some next) :
    next.Invariant registered := by
  obtain ⟨pool, held, owned⟩ := registerAll_packets registers
  refine ⟨threaded, ?_⟩
  rw [accounted, pool, held, owned]
  simp only [start, Option.toList_none, List.map_nil, List.append_nil]
  exact List.reverse_perm _

theorem Invariant.length_eq (invariant : io.Invariant registered) (between : io.held = none) :
    io.pool.tab.length + io.owned.length = xbotPacketPoolSize := by
  have counted := invariant.packets.length_eq
  rw [accounted, between, Option.toList_none, List.nil_append, List.length_append,
    List.length_map, List.length_range] at counted
  exact counted

end Steps

/-- Each iteration frees its packet once or gives it to one service, namely to the
first registered one that has the id of a well-framed datagram and is not stopped.
Between iterations every packet is free or owned by a service. -/
theorem runIo_disposes_packet (layout : HeaderLayout) (maxPacketSize : Nat)
    (services : List (Nat × Bool)) (registered : List Nat) (distinct : registered.Nodup)
    (present : ∀ service ∈ registered, service < services.length) :
    ∃ booted, (start services).registerAll registered = some booted ∧
      ∀ io, Reachable (step layout maxPacketSize) booted io →
        (∀ packet received, io.held = some packet →
          ∃ next action, io.step layout maxPacketSize (.receive received) = some next ∧
            Disposed io next packet action ∧
            ∀ service, action = .ioInput service packet ↔
              ∃ data, received = some data ∧
                Framed layout (fill (io.packets packet) (data.take maxPacketSize)) ∧
                io.FirstAccepting registered (layout.serviceId
                  (fill (io.packets packet) (data.take maxPacketSize)).buffer) service) ∧
        (io.held = none → io.pool.tab.length + io.owned.length = xbotPacketPoolSize) := by
  have inside : ∀ service ∈ registered, service < (start services).services.length := by
    intro service membership
    rw [start, List.length_map]
    exact present service membership
  obtain ⟨booted, registers, threaded⟩ := (start_registered services).registerAll distinct
    (fun _ _ => List.not_mem_nil) inside
  refine ⟨booted, registers, ?_⟩
  intro io reached
  have invariant : io.Invariant registered :=
    reached.invariant (.of_boot threaded registers) step_invariant
  refine ⟨?_, invariant.length_eq⟩
  intro packet received holds
  obtain ⟨next, action, stepped, _, disposed, handed⟩ :=
    invariant.receive layout maxPacketSize holds received
  exact ⟨next, action, stepped, disposed, handed⟩

/-- A header of two bytes: the length of the payload and the id. -/
def shortHeader : HeaderLayout where
  size := 2
  payloadSize buffer := (buffer 0).toNat
  serviceId buffer := (buffer 1).toNat

/-- Two services share the id 7, and the first of them is stopped. -/
theorem runIo_disposes_packet_shared :
    ∃ booted io next, (start [(7, true), (7, false), (9, false)]).registerAll [0, 1, 2] =
        some booted ∧
      run (step shortHeader 100) booted [.beginIteration] = some io ∧
      io.step shortHeader 100 (.receive (some [1, 7, 42])) = some next ∧
      next.log = io.log ++ [.ioInput 1 24] := by
  obtain ⟨booted, registers, disposes⟩ := runIo_disposes_packet shortHeader 100
    [(7, true), (7, false), (9, false)] [0, 1, 2] (by decide) (by decide)
  have evaluated : (((start [(7, true), (7, false), (9, false)]).registerAll [0, 1, 2]).bind
      fun booted => run (step shortHeader 100) booted [.beginIteration]).map
        (fun io => (io.held, io.services)) =
      some (some 24, [⟨7, true, some 1⟩, ⟨7, false, some 2⟩, ⟨9, false, none⟩]) := by
    decide +kernel
  rw [registers, Option.bind_some] at evaluated
  obtain ⟨io, executed, values⟩ := Option.map_eq_some_iff.mp evaluated
  simp only [Prod.mk.injEq] at values
  obtain ⟨held, services⟩ := values
  obtain ⟨next, action, stepped, disposed, handed⟩ :=
    (disposes io ⟨_, executed⟩).1 24 (some [1, 7, 42]) held
  have given : action = .ioInput 1 24 := by
    refine (handed 1).mpr ⟨_, rfl, ⟨Nat.le_succ 2, rfl⟩, [0], [2], rfl, ?_, ?_⟩
    · exact ⟨⟨7, false, some 2⟩, by rw [services]; rfl, rfl, rfl⟩
    · intro earlier membership
      obtain rfl := List.mem_singleton.mp membership
      rintro ⟨entry, found, _, running⟩
      rw [services] at found
      cases found
      cases running
  exact ⟨booted, io, next, registers, executed, stepped, given ▸ disposed.2.1⟩

end Io

end XBotFirmware.Packets
