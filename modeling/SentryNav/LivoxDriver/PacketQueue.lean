import Mathlib.Data.Int.Notation
import Mathlib.Data.List.Basic
import Mathlib.Logic.Function.Basic

/-!
# The packet queues of the lidar driver

Two threads share the queues.  The thread of the publish handler calls `PushLidarData` for each
packet of points; the poll thread runs `DistributePointCloudData` over and over, which waits for the
semaphore and then publishes what is in the queues.  The counters of a queue are not locked, and the
count of the semaphore is read without its lock.

`step` lets one thread go on to its next access to what they share.  A slot is written and read at
the end of the states `writing` and `reading`; `none` stands for an access outside the storage.  The
message formats that ROS 2 has are modelled, for all of which the loops are the same.
-/

namespace SentryNav.LivoxDriver

/-- `kMaxSourceLidar`, the number of lidars. -/
def kMaxSourceLidar : ℕ := 32

/-- `LidarConnectState`. -/
inductive LidarConnectState
  | off
  | on
  | config
  | sampling
deriving DecidableEq

/-- `StoragePacket`; `points_num` is the length of `points`. -/
structure StoragePacket (P : Type*) where
  baseTime : BitVec 64
  points : List P
deriving DecidableEq

/-- `LidarDataQueue`. -/
structure LidarDataQueue (P : Type*) where
  storagePacket : Option (List (StoragePacket P))
  rdIdx : BitVec 32
  wrIdx : BitVec 32
  mask : BitVec 32
  size : BitVec 32

/-- `LidarDevice`, as the queues need it. -/
structure LidarDevice (P : Type*) where
  connectState : LidarConnectState
  data : LidarDataQueue P

/-! ## `ldq.cpp` -/

/-- `IsPowerOf2`. -/
def isPowerOf2 (size : BitVec 32) : Bool := size ≠ 0 && (size &&& (size - 1)) = 0

/-- `RoundupPowerOf2`. -/
def roundupPowerOf2 (size : BitVec 32) : BitVec 32 :=
  match (List.range 32).find? fun i => size ≤ (1 : BitVec 32) <<< i with
  | some i => 1 <<< i
  | none => 1 <<< 31

variable {P : Type*}

/-- `DeInitQueue`. -/
def deInitQueue : LidarDataQueue P :=
  { storagePacket := none, rdIdx := 0, wrIdx := 0, mask := 0, size := 0 }

/-- `InitQueue`. -/
def LidarDataQueue.initQueue (queueSize : BitVec 32) : LidarDataQueue P :=
  let queueSize := if isPowerOf2 queueSize then queueSize else roundupPowerOf2 queueSize
  { storagePacket := some (List.replicate queueSize.toNat ⟨0, []⟩)
    rdIdx := 0
    wrIdx := 0
    size := queueSize
    mask := queueSize - 1 }

/-- `QueueIsFull`. -/
def LidarDataQueue.isFull (queue : LidarDataQueue P) : Bool :=
  queue.mask < queue.wrIdx - queue.rdIdx

/-- `QueueIsEmpty`. -/
def LidarDataQueue.isEmpty (queue : LidarDataQueue P) : Bool := queue.rdIdx = queue.wrIdx

/-- `QueuePushAny`, up to the count: a packet is put in the next slot. -/
def LidarDataQueue.fillSlot (queue : LidarDataQueue P) (packet : StoragePacket P) :
    Option (LidarDataQueue P) :=
  let wrIdx := (queue.wrIdx &&& queue.mask).toNat
  queue.storagePacket.bind fun slots =>
    if wrIdx < slots.length then
      some { queue with storagePacket := some (slots.set wrIdx packet) }
    else none

/-- `QueuePushAny`, the count. -/
def LidarDataQueue.pushUpdate (queue : LidarDataQueue P) : LidarDataQueue P :=
  { queue with wrIdx := queue.wrIdx + 1 }

/-- `QueuePrePop`, from a queue that is not empty: the packet in the slot to be read. -/
def LidarDataQueue.readSlot (queue : LidarDataQueue P) : Option (StoragePacket P) :=
  queue.storagePacket.bind fun slots => slots[(queue.rdIdx &&& queue.mask).toNat]?

/-- `QueuePopUpdate`. -/
def LidarDataQueue.popUpdate (queue : LidarDataQueue P) : LidarDataQueue P :=
  { queue with rdIdx := queue.rdIdx + 1 }

/-! ## The two threads -/

/-- Where the publish handler's thread is, in `PushLidarData`. -/
inductive Producer (P : Type*)
  | idle
  | start (i : Fin kMaxSourceLidar) (packet : StoragePacket P)
  | checkFull (i : Fin kMaxSourceLidar) (packet : StoragePacket P)
  | writing (i : Fin kMaxSourceLidar) (packet : StoragePacket P)
  | pushUpdate (i : Fin kMaxSourceLidar) (packet : StoragePacket P)
  | checkEmpty (i : Fin kMaxSourceLidar)
  | getCount
  | signal

/-- Where the poll thread is, in `DistributePointCloudData` and what it calls. -/
inductive Consumer (P : Type*)
  | start
  | wait
  | select (i : ℕ)
  | polling (i : Fin kMaxSourceLidar)
  | outer (i : Fin kMaxSourceLidar)
  | inner (i : Fin kMaxSourceLidar)
  | prePop (i : Fin kMaxSourceLidar)
  | reading (i : Fin kMaxSourceLidar)
  | popUpdate (i : Fin kMaxSourceLidar) (pkg : StoragePacket P)
  | publish (i : Fin kMaxSourceLidar) (pkg : StoragePacket P)

/-- What the threads share, and where they are; `count` is that of `pcd_semaphore_`. -/
structure State (P : Type*) where
  lidars : Fin kMaxSourceLidar → LidarDevice P
  count : ℤ
  requestExit : Bool
  producer : Producer P
  consumer : Consumer P

inductive Event (P : Type*)
  | accepted (i : Fin kMaxSourceLidar) (packet : StoragePacket P)
  | dropped (i : Fin kMaxSourceLidar) (packet : StoragePacket P)
  | published (i : Fin kMaxSourceLidar) (pkg : StoragePacket P)

/-- After the constructors, the lidars being in some states. -/
def State.init (connectState : Fin kMaxSourceLidar → LidarConnectState) : State P where
  lidars i := { connectState := connectState i, data := deInitQueue }
  count := 0
  requestExit := false
  producer := .idle
  consumer := .start

/-- The queue of a lidar. -/
def State.queue (s : State P) (i : Fin kMaxSourceLidar) : LidarDataQueue P := (s.lidars i).data

def State.setQueue (s : State P) (i : Fin kMaxSourceLidar) (queue : LidarDataQueue P) : State P :=
  { s with lidars := Function.update s.lidars i { s.lidars i with data := queue } }

def State.setConnectState (s : State P) (i : Fin kMaxSourceLidar) (state : LidarConnectState) :
    State P :=
  { s with lidars := Function.update s.lidars i { s.lidars i with connectState := state } }

/-- `PushLidarData`, up to the next access.  As long as the indices of a new queue are equal, the
poll thread looks at nothing else in it, so it is made at once. -/
def State.produce (queueSize : BitVec 32) (s : State P) : Option (State P × Option (Event P)) :=
  match s.producer with
  | .idle => some (s, none)
  | .start i packet =>
      match (s.queue i).storagePacket with
      | none => some ({ s.setQueue i (LidarDataQueue.initQueue queueSize) with
          producer := .checkFull i packet }, none)
      | some _ => some ({ s with producer := .checkFull i packet }, none)
  | .checkFull i packet =>
      if (s.queue i).isFull then some ({ s with producer := .getCount }, some (.dropped i packet))
      else some ({ s with producer := .writing i packet }, none)
  | .writing i packet =>
      ((s.queue i).fillSlot packet).map fun queue =>
        ({ s.setQueue i queue with producer := .pushUpdate i packet }, none)
  | .pushUpdate i packet =>
      some ({ s.setQueue i (s.queue i).pushUpdate with producer := .checkEmpty i },
        some (.accepted i packet))
  | .checkEmpty i =>
      some ({ s with producer := if (s.queue i).isEmpty then .idle else .getCount }, none)
  | .getCount => some ({ s with producer := if s.count ≤ 0 then .signal else .idle }, none)
  | .signal => some ({ s with count := s.count + 1, producer := .idle }, none)

/-- `DistributePointCloudData`, over and over, up to the next access. -/
def State.consume (s : State P) : Option (State P × Option (Event P)) :=
  match s.consumer with
  | .start => some ({ s with consumer := if s.requestExit then .start else .wait }, none)
  | .wait =>
      if 0 < s.count then some ({ s with count := s.count - 1, consumer := .select 0 }, none)
      else some (s, none)
  | .select i =>
      if h : i < kMaxSourceLidar then
        if (s.lidars ⟨i, h⟩).connectState = .sampling then
          some ({ s with consumer := .polling ⟨i, h⟩ }, none)
        else some ({ s with consumer := .select (i + 1) }, none)
      else some ({ s with consumer := .start }, none)
  | .polling i =>
      match (s.queue i).storagePacket with
      | none => some ({ s with consumer := .select (i + 1) }, none)
      | some _ => some ({ s with consumer := .outer i }, none)
  | .outer i =>
      if !s.requestExit && !(s.queue i).isEmpty then some ({ s with consumer := .inner i }, none)
      else some ({ s with consumer := .select (i + 1) }, none)
  | .inner i =>
      if (s.queue i).isEmpty then some ({ s with consumer := .outer i }, none)
      else some ({ s with consumer := .prePop i }, none)
  | .prePop i =>
      -- a pop that fails leaves the packet as it was made
      if (s.queue i).isEmpty then some ({ s with consumer := .publish i ⟨0, []⟩ }, none)
      else some ({ s with consumer := .reading i }, none)
  | .reading i =>
      (s.queue i).readSlot.map fun pkg => ({ s with consumer := .popUpdate i pkg }, none)
  | .popUpdate i pkg =>
      some ({ s.setQueue i (s.queue i).popUpdate with consumer := .publish i pkg }, none)
  | .publish i pkg =>
      match pkg.points with
      | [] => some ({ s with consumer := .inner i }, none)
      | _ :: _ => some ({ s with consumer := .inner i }, some (.published i pkg))

/-- What can happen: `PushLidarData` is called, a thread goes on, the last setting of a lidar is
acknowledged, the node is to end. -/
inductive Action (P : Type*)
  | push (i : Fin kMaxSourceLidar) (packet : StoragePacket P)
  | produce
  | consume
  | sampling (i : Fin kMaxSourceLidar)
  | requestExit

/-- A call can begin only after the call before has ended. -/
def State.push (s : State P) (i : Fin kMaxSourceLidar) (packet : StoragePacket P) : State P :=
  match s.producer with
  | .idle => { s with producer := .start i packet }
  | _ => s

def State.step (queueSize : BitVec 32) (s : State P) :
    Action P → Option (State P × Option (Event P))
  | .push i packet => some (s.push i packet, none)
  | .produce => s.produce queueSize
  | .consume => s.consume
  | .sampling i => some (s.setConnectState i .sampling, none)
  | .requestExit => some ({ s with requestExit := true }, none)

/-- A run from a state, with its events. -/
def State.run (queueSize : BitVec 32) (s : State P) :
    List (Action P) → Option (State P × List (Event P))
  | [] => some (s, [])
  | action :: schedule => do
      let (s, event) ← s.step queueSize action
      let (s, events) ← s.run queueSize schedule
      return (s, event.toList ++ events)

end SentryNav.LivoxDriver
