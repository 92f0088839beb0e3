import SentryNav.LivoxDriver.QueueContents
import Mathlib.Algebra.BigOperators.Fin

/-!
# Packets are handed over

The two threads may go on in any order.  `run_fifo` is that the poll thread publishes just the
packets that have been accepted, each once and in their order, up to those that are still in the
queue or in its hands, and that no slot is read while it is written.  `no_lost_wakeup` is that it is
not blocked while there are packets that nobody will signal, although the count of the semaphore is
looked at without its lock, and `drains` that it gets to them if it goes on.

Packets that are accepted before their lidar samples are passed over, and nobody signals for them
later.  So these two are about lidars from which a packet has been accepted while they sampled;
`Sound` keeps account of them as `live`, among those that are `watched`.
-/

namespace SentryNav.LivoxDriver

variable {P : Type*} {packet : StoragePacket P}

/-! ## What holds in every state -/

variable {s : State P} {i j : Fin kMaxSourceLidar}

lemma queue_setQueue (s : State P) (i : Fin kMaxSourceLidar) (queue : LidarDataQueue P) :
    (s.setQueue i queue).queue = Function.update s.queue i queue := by
  funext j
  by_cases h : j = i
  · subst h
    simp [State.queue, State.setQueue]
  · simp [State.queue, State.setQueue, h]

lemma connectState_setQueue (s : State P) (i j : Fin kMaxSourceLidar) (queue : LidarDataQueue P) :
    ((s.setQueue i queue).lidars j).connectState = (s.lidars j).connectState := by
  by_cases h : j = i
  · subst h
    simp [State.setQueue]
  · simp [State.setQueue, h]

lemma queue_setConnectState (s : State P) (i : Fin kMaxSourceLidar) (state : LidarConnectState) :
    (s.setConnectState i state).queue = s.queue := by
  funext j
  by_cases h : j = i
  · subst h
    simp [State.queue, State.setConnectState]
  · simp [State.queue, State.setConnectState, h]

/-- Packets without points are not published. -/
def StoragePacket.hasPoints (packet : StoragePacket P) : Bool := !packet.points.isEmpty

def Event.acceptedAt (i : Fin kMaxSourceLidar) : Event P → Option (StoragePacket P)
  | .accepted j packet => if j = i then some packet else none
  | _ => none

def Event.publishedAt (i : Fin kMaxSourceLidar) : Event P → Option (StoragePacket P)
  | .published j packet => if j = i then some packet else none
  | _ => none

/-- The packets of a lidar that have been accepted. -/
def accepted (i : Fin kMaxSourceLidar) (log : List (Event P)) : List (StoragePacket P) :=
  log.filterMap (Event.acceptedAt i)

/-- The packets of a lidar that have been published. -/
def published (i : Fin kMaxSourceLidar) (log : List (Event P)) : List (StoragePacket P) :=
  log.filterMap (Event.publishedAt i)

@[simp] lemma accepted_append (i : Fin kMaxSourceLidar) (log log' : List (Event P)) :
    accepted i (log ++ log') = accepted i log ++ accepted i log' := List.filterMap_append

@[simp] lemma published_append (i : Fin kMaxSourceLidar) (log log' : List (Event P)) :
    published i (log ++ log') = published i log ++ published i log' := List.filterMap_append

@[simp] lemma accepted_accepted (i j : Fin kMaxSourceLidar) (packet : StoragePacket P) :
    accepted i [.accepted j packet] = if j = i then [packet] else [] := by
  by_cases h : j = i <;> simp [accepted, Event.acceptedAt, h]

@[simp] lemma published_published (i j : Fin kMaxSourceLidar) (packet : StoragePacket P) :
    published i [.published j packet] = if j = i then [packet] else [] := by
  by_cases h : j = i <;> simp [published, Event.publishedAt, h]

@[simp] lemma published_accepted (i j : Fin kMaxSourceLidar) (packet : StoragePacket P) :
    published i [.accepted j packet] = [] := rfl

@[simp] lemma accepted_dropped (i j : Fin kMaxSourceLidar) (packet : StoragePacket P) :
    accepted i [.dropped j packet] = [] := rfl

@[simp] lemma published_dropped (i j : Fin kMaxSourceLidar) (packet : StoragePacket P) :
    published i [.dropped j packet] = [] := rfl

@[simp] lemma accepted_published (i j : Fin kMaxSourceLidar) (packet : StoragePacket P) :
    accepted i [.published j packet] = [] := rfl

/-- A packet that is out of its queue and not yet published. -/
def Consumer.held (i : Fin kMaxSourceLidar) : Consumer P → List (StoragePacket P)
  | .publish j pkg => if j = i then [pkg] else []
  | _ => []

/-- The packets in the queues. -/
abbrev Contents (P : Type*) := Fin kMaxSourceLidar → List (StoragePacket P)

/-- What the publish handler's thread has made sure of. -/
def Producer.Knows (queue : Fin kMaxSourceLidar → LidarDataQueue P) (c : Contents P) :
    Producer P → Prop
  | .checkFull i _ => (queue i).storagePacket ≠ none
  | .writing i _ => (queue i).HasRoom (c i)
  | .pushUpdate i packet => (queue i).Filled (c i) packet
  | _ => True

/-- What the poll thread has made sure of. -/
def Consumer.Knows (c : Contents P) : Consumer P → Prop
  | .prePop i => c i ≠ []
  | .reading i => c i ≠ []
  | .popUpdate i pkg => ∃ rest, c i = pkg :: rest
  | _ => True

/-- The publish handler's thread is to signal for a lidar, if no signal is pending. -/
def Producer.Signals (i : Fin kMaxSourceLidar) : Producer P → Prop
  | .checkEmpty j => j = i
  | .getCount => True
  | .signal => True
  | _ => False

/-- The poll thread is still to come to a lidar, or is at it. -/
def Consumer.Comes (i : Fin kMaxSourceLidar) : Consumer P → Prop
  | .start => False
  | .wait => False
  | .select j => j ≤ i.val
  | .polling j => j ≤ i
  | .outer j => j ≤ i
  | .inner j => j ≤ i
  | .prePop j => j ≤ i
  | .reading j => j ≤ i
  | .popUpdate j _ => j ≤ i
  | .publish j _ => j ≤ i

/-- What holds in every state of a run, for the packets in the queues: they are what has been
accepted and not published, and no packet of a lidar that is `live` is left to lie without somebody
to see to it. -/
structure Sound (watched live : Set (Fin kMaxSourceLidar)) (s : State P) (log : List (Event P))
    (c : Contents P) : Prop where
  queues : ∀ i, (s.queue i).Contains (c i)
  producer : s.producer.Knows s.queue c
  consumer : s.consumer.Knows c
  ledger : ∀ i, (accepted i log).filter StoragePacket.hasPoints
    = published i log ++ (s.consumer.held i ++ c i).filter StoragePacket.hasPoints
  live_subset : live ⊆ watched
  sampling : ∀ i ∈ watched, (s.lidars i).connectState = .sampling
  count_nonneg : 0 ≤ s.count
  awake : s.requestExit = false → ∀ i ∈ live, c i ≠ [] →
    0 < s.count ∨ s.producer.Signals i ∨ s.consumer.Comes i

variable {watched live : Set (Fin kMaxSourceLidar)} {log : List (Event P)} {c : Contents P}

lemma sound_init (connectState : Fin kMaxSourceLidar → LidarConnectState) :
    Sound ∅ ∅ (State.init connectState : State P) [] fun _ => [] where
  queues _ := contains_deInitQueue
  producer := trivial
  consumer := trivial
  ledger _ := rfl
  live_subset := subset_rfl
  sampling _ h := absurd h (Set.notMem_empty _)
  count_nonneg := Int.le_refl 0
  awake _ _ hi := absurd hi (Set.notMem_empty _)

/-- The publish handler's thread goes on. -/
lemma Sound.setProducer (h : Sound watched live s log c) {producer : Producer P}
    (hknows : producer.Knows s.queue c)
    (hsignals : ∀ i, c i ≠ [] → s.producer.Signals i → 0 < s.count ∨ producer.Signals i) :
    Sound watched live { s with producer := producer } log c :=
  { h with
    producer := hknows
    awake := fun hexit i hsampling hne => by
      rcases h.awake hexit i hsampling hne with hcount | hproducer | hconsumer
      · exact .inl hcount
      · exact (hsignals i hne hproducer).imp_right .inl
      · exact .inr (.inr hconsumer) }

/-- It may be that a packet is dropped. -/
lemma Sound.dropped (h : Sound watched live s log c) (i : Fin kMaxSourceLidar)
    (packet : StoragePacket P) : Sound watched live s (log ++ [.dropped i packet]) c :=
  { h with
    ledger := fun j => by
      rw [accepted_append, published_append, accepted_dropped, published_dropped, List.append_nil,
        List.append_nil]
      exact h.ledger j }

/-- The poll thread goes on. -/
lemma Sound.setConsumer (h : Sound watched live s log c) {consumer : Consumer P}
    (hknows : consumer.Knows c)
    (hheld : ∀ i, (consumer.held i).filter StoragePacket.hasPoints
      = (s.consumer.held i).filter StoragePacket.hasPoints)
    (hcomes : s.requestExit = false → ∀ i ∈ live, c i ≠ [] →
      s.consumer.Comes i → consumer.Comes i) :
    Sound watched live { s with consumer := consumer } log c :=
  { h with
    consumer := hknows
    ledger := fun i => by
      rw [h.ledger i, List.filter_append, List.filter_append, hheld i]
    awake := fun hexit i hsampling hne =>
      (h.awake hexit i hsampling hne).imp_right fun hto =>
        hto.imp_right (hcomes hexit i hsampling hne) }

/-! ## The publish handler's thread -/

/-- The publish handler's thread changes a queue that goes on containing the same. -/
lemma Sound.replaceQueue (h : Sound watched live s log c) {queue : LidarDataQueue P}
    (hqueue : queue.Contains (c i)) {producer : Producer P}
    (hknows : producer.Knows (Function.update s.queue i queue) c)
    (hsignals : ∀ j, ¬ s.producer.Signals j) :
    Sound watched live { s.setQueue i queue with producer := producer } log c where
  queues j := by
    show ((s.setQueue i queue).queue j).Contains (c j)
    rw [queue_setQueue]
    by_cases hj : j = i
    · subst hj
      rwa [Function.update_self]
    · rw [Function.update_of_ne hj]
      exact h.queues j
  producer := by
    show producer.Knows (s.setQueue i queue).queue c
    rwa [queue_setQueue]
  consumer := h.consumer
  ledger := h.ledger
  live_subset := h.live_subset
  sampling j hj := (connectState_setQueue s i j queue).trans (h.sampling j hj)
  count_nonneg := h.count_nonneg
  awake hexit j hsampling hne := by
    rcases h.awake hexit j hsampling hne with hcount | hproducer | hconsumer
    · exact .inl hcount
    · exact absurd hproducer (hsignals j)
    · exact .inr (.inr hconsumer)

/-- What is in front of a queue stays there. -/
lemma Consumer.Knows.append {consumer : Consumer P} (h : consumer.Knows c)
    (i : Fin kMaxSourceLidar) (xs : List (StoragePacket P)) :
    consumer.Knows (Function.update c i (c i ++ xs)) := by
  have htail : ∀ j, ∃ tail, Function.update c i (c i ++ xs) j = c j ++ tail := by
    intro j
    by_cases hj : j = i
    · subst hj
      exact ⟨xs, Function.update_self ..⟩
    · exact ⟨[], by rw [Function.update_of_ne hj, List.append_nil]⟩
  cases consumer with
  | prePop j =>
      obtain ⟨tail, htail⟩ := htail j
      exact fun hnil => h (List.append_eq_nil_iff.mp (htail.symm.trans hnil)).1
  | reading j =>
      obtain ⟨tail, htail⟩ := htail j
      exact fun hnil => h (List.append_eq_nil_iff.mp (htail.symm.trans hnil)).1
  | popUpdate j pkg =>
      obtain ⟨tail, htail⟩ := htail j
      obtain ⟨rest, hrest⟩ := h
      exact ⟨rest ++ tail, by rw [htail, hrest, List.cons_append]⟩
  | _ => trivial

/-- A packet gets into its queue, and from now on somebody sees to that. -/
lemma Sound.pushUpdate (h : Sound watched live s log c)
    (hp : s.producer = .pushUpdate i packet) :
    Sound watched (live ∪ {j | j ∈ watched ∧ j = i})
      { s.setQueue i (s.queue i).pushUpdate with producer := .checkEmpty i }
      (log ++ [.accepted i packet]) (Function.update c i (c i ++ [packet])) where
  queues j := by
    show ((s.setQueue i _).queue j).Contains _
    rw [queue_setQueue]
    by_cases hj : j = i
    · subst hj
      have hknows := h.producer
      rw [hp] at hknows
      rw [Function.update_self, Function.update_self]
      exact .inr (LidarDataQueue.Filled.pushUpdate hknows)
    · rw [Function.update_of_ne hj, Function.update_of_ne hj]
      exact h.queues j
  producer := trivial
  consumer := h.consumer.append i [packet]
  ledger j := by
    have hledger := h.ledger j
    show (accepted j (log ++ [.accepted i packet])).filter _
      = published j (log ++ [.accepted i packet]) ++ (s.consumer.held j ++ _).filter _
    rw [accepted_append, published_append, List.filter_append, hledger, accepted_accepted,
      published_accepted, List.append_nil]
    by_cases hj : j = i
    · subst hj
      rw [Function.update_self, if_pos rfl, List.append_assoc, ← List.filter_append,
        List.append_assoc]
    · rw [Function.update_of_ne hj, if_neg (Ne.symm hj), List.filter_nil, List.append_nil]
  live_subset := Set.union_subset h.live_subset fun _ hj => hj.1
  sampling j hj := (connectState_setQueue s i j _).trans (h.sampling j hj)
  count_nonneg := h.count_nonneg
  awake hexit j hsampling hne := by
    by_cases hj : j = i
    · exact .inr (.inl hj.symm)
    · rw [Function.update_of_ne hj] at hne
      have hlive : j ∈ live := hsampling.resolve_right fun hnow => hj hnow.2
      rcases h.awake hexit j hlive hne with hcount | hproducer | hconsumer
      · exact .inl hcount
      · rw [hp] at hproducer
        exact hproducer.elim
      · exact .inr (.inr hconsumer)

/-- The lidars that are live after an event. -/
def enliven (watched live : Set (Fin kMaxSourceLidar)) (events : List (Event P)) :
    Set (Fin kMaxSourceLidar) :=
  live ∪ {i | i ∈ watched ∧ accepted i events ≠ []}

lemma enliven_eq_of_none {events : List (Event P)} (h : ∀ i, accepted i events = []) :
    enliven watched live events = live := by
  rw [enliven, Set.union_eq_left]
  rintro i ⟨-, hi⟩
  exact absurd (h i) hi

lemma enliven_append (watched live : Set (Fin kMaxSourceLidar)) (events events' : List (Event P)) :
    enliven watched (enliven watched live events) events'
      = enliven watched live (events ++ events') := by
  ext i
  simp only [enliven, accepted_append, Set.mem_union, Set.mem_ofPred_eq, ne_eq,
    List.append_eq_nil_iff]
  tauto

/-- Nothing happens that can be seen. -/
lemma Sound.quiet (h : Sound watched live s log c) :
    Sound watched (enliven watched live (none : Option (Event P)).toList) s
      (log ++ (none : Option (Event P)).toList) c := by
  rw [enliven_eq_of_none fun _ => rfl, Option.toList_none, List.append_nil]
  exact h

/-- The publish handler's thread goes on. -/
lemma Sound.produce (h : Sound watched live s log c) (queueSize : BitVec 32) :
    ∃ s' event c', s.produce queueSize = some (s', event) ∧
      Sound watched (enliven watched live event.toList) s' (log ++ event.toList) c' := by
  rw [State.produce]
  have hknows := h.producer
  cases hp : s.producer with
  | idle => exact ⟨s, none, c, rfl, h.quiet⟩
  | start i packet =>
      have hsilent : ∀ j, ¬ s.producer.Signals j := fun j => by simp [hp, Producer.Signals]
      simp only
      cases hmade : (s.queue i).storagePacket with
      | none =>
          have hempty : c i = [] := (h.queues i).eq_nil hmade
          refine ⟨_, none, c, rfl, Sound.quiet ?_⟩
          refine h.replaceQueue (hempty ▸ .inr (ready_initQueue queueSize)) ?_ hsilent
          show (Function.update s.queue i _ i).storagePacket ≠ none
          rw [Function.update_self]
          exact Option.some_ne_none _
      | some slots =>
          refine ⟨_, none, c, rfl, Sound.quiet ?_⟩
          refine h.setProducer ?_ fun j _ hj => absurd hj (hsilent j)
          show (s.queue i).storagePacket ≠ none
          rw [hmade]
          exact Option.some_ne_none _
  | checkFull i packet =>
      rw [hp] at hknows
      simp only
      split_ifs with hfull
      · refine ⟨_, _, c, rfl, ?_⟩
        have hsound : Sound watched live { s with producer := .getCount } log c :=
          h.setProducer trivial fun _ _ _ => .inr trivial
        rw [enliven_eq_of_none fun _ => rfl]
        exact hsound.dropped i packet
      · refine ⟨_, none, c, rfl, Sound.quiet ?_⟩
        refine h.setProducer (((h.queues i).ready hknows).hasRoom hfull) fun j _ hj => ?_
        rw [hp] at hj
        exact hj.elim
  | writing i packet =>
      rw [hp] at hknows
      obtain ⟨queue, hfill, hfilled⟩ := LidarDataQueue.HasRoom.fillSlot hknows packet
      simp only [hfill, Option.map_some]
      refine ⟨_, none, c, rfl, Sound.quiet ?_⟩
      refine h.replaceQueue hfilled.contains ?_ fun j => by simp [hp, Producer.Signals]
      show (Function.update s.queue i queue i).Filled (c i) packet
      rwa [Function.update_self]
  | pushUpdate i packet =>
      refine ⟨_, _, Function.update c i (c i ++ [packet]), rfl, ?_⟩
      have hnow : enliven watched live [Event.accepted i packet]
          = live ∪ {j | j ∈ watched ∧ j = i} := by
        ext j
        by_cases hj : i = j <;> simp [enliven, hj, eq_comm]
      rw [Option.toList_some, hnow]
      exact h.pushUpdate hp
  | checkEmpty i =>
      refine ⟨_, none, c, rfl, Sound.quiet ?_⟩
      split_ifs with hempty
      · refine h.setProducer trivial fun j hne hj => ?_
        rw [hp] at hj
        obtain rfl : i = j := hj
        exact absurd ((h.queues i).isEmpty_iff.mp hempty) hne
      · exact h.setProducer trivial fun j _ _ => .inr trivial
  | getCount =>
      refine ⟨_, none, c, rfl, Sound.quiet ?_⟩
      split_ifs with hcount
      · exact h.setProducer trivial fun j _ _ => .inr trivial
      · exact h.setProducer trivial fun j _ _ => .inl (not_le.mp hcount)
  | signal =>
      refine ⟨_, none, c, rfl, Sound.quiet ?_⟩
      have hpos : 0 < s.count + 1 := Int.lt_add_one_of_le h.count_nonneg
      exact { h with
        producer := trivial
        count_nonneg := hpos.le
        awake := fun _ _ _ _ => .inl hpos }

/-! ## The poll thread -/

/-- How far the poll thread is from its next wait, apart from the packets in the queues. -/
def Consumer.distance (c : Contents P) : Consumer P → ℕ
  | .wait => 0
  | .start => 1
  | .select i => 4 * (kMaxSourceLidar - i) + 2
  | .polling i => 4 * (kMaxSourceLidar - i) + 1
  | .outer i => 4 * (kMaxSourceLidar - i)
  | .inner i => if c i = [] then 4 * (kMaxSourceLidar - i) + 1 else 4 * (kMaxSourceLidar - i) - 1
  | .prePop i => 4 * (kMaxSourceLidar - i) - 2
  | .reading i => 4 * (kMaxSourceLidar - i) - 3
  | .popUpdate i _ => 4 * (kMaxSourceLidar - i) - 4
  | .publish i _ => 4 * (kMaxSourceLidar - i) + 2

/-- How far the poll thread is from being blocked. -/
def State.distance (s : State P) (c : Contents P) : ℕ :=
  200 * s.count.toNat + 8 * ∑ i, (c i).length + s.consumer.distance c

/-- A packet is taken out of its queue. -/
lemma Sound.popUpdate (h : Sound watched live s log c) {pkg : StoragePacket P}
    {rest : List (StoragePacket P)} (hc : s.consumer = .popUpdate i pkg)
    (hrest : c i = pkg :: rest) :
    Sound watched live { s.setQueue i (s.queue i).popUpdate with consumer := .publish i pkg } log
      (Function.update c i rest) where
  queues j := by
    show ((s.setQueue i _).queue j).Contains _
    rw [queue_setQueue]
    by_cases hj : j = i
    · subst hj
      rw [Function.update_self, Function.update_self]
      exact LidarDataQueue.Contains.popUpdate (hrest ▸ h.queues j)
    · rw [Function.update_of_ne hj, Function.update_of_ne hj]
      exact h.queues j
  producer := by
    show s.producer.Knows (s.setQueue i _).queue _
    rw [queue_setQueue]
    have hknows := h.producer
    cases hp : s.producer with
    | checkFull j packet =>
        rw [hp] at hknows
        show (Function.update s.queue i _ j).storagePacket ≠ none
        by_cases hj : j = i
        · subst hj
          rw [Function.update_self]
          exact hknows
        · rw [Function.update_of_ne hj]
          exact hknows
    | writing j packet =>
        rw [hp] at hknows
        show (Function.update s.queue i _ j).HasRoom (Function.update c i rest j)
        by_cases hj : j = i
        · subst hj
          rw [Function.update_self, Function.update_self]
          have hroom : (s.queue j).HasRoom (c j) := hknows
          exact (hrest ▸ hroom).popUpdate
        · rw [Function.update_of_ne hj, Function.update_of_ne hj]
          exact hknows
    | pushUpdate j packet =>
        rw [hp] at hknows
        show (Function.update s.queue i _ j).Filled (Function.update c i rest j) packet
        by_cases hj : j = i
        · subst hj
          rw [Function.update_self, Function.update_self]
          have hfilled : (s.queue j).Filled (c j) packet := hknows
          exact (hrest ▸ hfilled).popUpdate
        · rw [Function.update_of_ne hj, Function.update_of_ne hj]
          exact hknows
    | _ => trivial
  consumer := trivial
  ledger j := by
    have hledger := h.ledger j
    rw [hc] at hledger
    by_cases hj : j = i
    · subst hj
      rw [hrest] at hledger
      simpa [Consumer.held] using hledger
    · simpa [Consumer.held, hj, Ne.symm hj] using hledger
  live_subset := h.live_subset
  sampling j hj := (connectState_setQueue s i j _).trans (h.sampling j hj)
  count_nonneg := h.count_nonneg
  awake hexit j hsampling hne := by
    have hne' : c j ≠ [] := by
      by_cases hj : j = i
      · subst hj
        rw [hrest]
        exact List.cons_ne_nil _ _
      · rwa [Function.update_of_ne hj] at hne
    have hawake := h.awake hexit j hsampling hne'
    rwa [hc] at hawake

/-- One packet less is to be handed over. -/
lemma sum_length_update {pkg : StoragePacket P} {rest : List (StoragePacket P)}
    (hrest : c i = pkg :: rest) :
    ∑ j, (Function.update c i rest j).length + 1 = ∑ j, (c j).length := by
  rw [← Finset.add_sum_erase _ _ (Finset.mem_univ i),
    ← Finset.add_sum_erase _ (fun j => (c j).length) (Finset.mem_univ i), Function.update_self,
    hrest, List.length_cons]
  have hothers : ∑ j ∈ Finset.univ.erase i, (Function.update c i rest j).length
      = ∑ j ∈ Finset.univ.erase i, (c j).length :=
    Finset.sum_congr rfl fun j hj => by rw [Function.update_of_ne (Finset.ne_of_mem_erase hj)]
  rw [hothers]
  omega

/-- A packet is published, if it has points. -/
lemma Sound.publish (h : Sound watched live s log c) {pkg : StoragePacket P}
    (hc : s.consumer = .publish i pkg) {event : Option (Event P)}
    (hevent : event = if pkg.hasPoints then some (.published i pkg) else none) :
    Sound watched live { s with consumer := .inner i } (log ++ event.toList) c where
  queues := h.queues
  producer := h.producer
  consumer := trivial
  ledger j := by
    have hledger := h.ledger j
    rw [hc] at hledger
    subst hevent
    by_cases hj : i = j
    · subst hj
      by_cases hpoints : pkg.hasPoints
      · simpa [Consumer.held, hpoints] using hledger
      · simpa [Consumer.held, hpoints] using hledger
    · by_cases hpoints : pkg.hasPoints
      · simpa [Consumer.held, hj, hpoints] using hledger
      · simpa [Consumer.held, hj, hpoints] using hledger
  live_subset := h.live_subset
  sampling := h.sampling
  count_nonneg := h.count_nonneg
  awake hexit j hsampling hne := by
    have hawake := h.awake hexit j hsampling hne
    rwa [hc] at hawake

/-- What the poll thread keeps, and that it comes nearer to being blocked. -/
structure Polled (s : State P) (c : Contents P) (s' : State P) (c' : Contents P) : Prop where
  producer : s'.producer = s.producer
  requestExit : s'.requestExit = s.requestExit
  closer : s.requestExit = false → s.consumer = .wait ∧ s.count ≤ 0 ∨ s'.distance c' < s.distance c

/-- When a queue is empty, the poll thread has come to those after it. -/
lemma past_empty (hempty : c i = []) (hne : c j ≠ []) (hle : i ≤ j) :
    (Consumer.select (i + 1) : Consumer P).Comes j := by
  have hij : i.val ≠ j.val := fun heq => hne (Fin.ext heq ▸ hempty)
  exact Nat.succ_le_of_lt (Nat.lt_of_le_of_ne hle hij)

/-- The poll thread goes on without touching anything. -/
lemma Sound.move (h : Sound watched live s log c) {consumer : Consumer P}
    (hknows : consumer.Knows c) (hheld : ∀ i, consumer.held i = s.consumer.held i)
    (hcomes : s.requestExit = false → ∀ i ∈ live, c i ≠ [] →
      s.consumer.Comes i → consumer.Comes i)
    (hcloser : s.requestExit = false → consumer.distance c < s.consumer.distance c) :
    ∃ s' event c', some ({ s with consumer := consumer }, (none : Option (Event P)))
        = some (s', event) ∧
      Sound watched live s' (log ++ event.toList) c' ∧ Polled s c s' c' := by
  refine ⟨_, none, c, rfl, ?_, rfl, rfl, fun hexit => .inr ?_⟩
  · rw [Option.toList_none, List.append_nil]
    exact h.setConsumer hknows (fun i => congrArg _ (hheld i)) hcomes
  · exact Nat.add_lt_add_left (hcloser hexit) _

/-- The poll thread goes on, and what it keeps is kept. -/
def GoesOn (watched live : Set (Fin kMaxSourceLidar)) (s : State P) (log : List (Event P))
    (c : Contents P) : Prop :=
  ∃ s' event c', s.consume = some (s', event) ∧
    Sound watched live s' (log ++ event.toList) c' ∧ Polled s c s' c'

lemma Sound.consume_start (h : Sound watched live s log c) (hc : s.consumer = .start) :
    GoesOn watched live s log c := by
  rw [GoesOn, State.consume, hc]
  refine h.move ?_ (fun j => ?_) (fun _ j _ _ hj => ?_) fun hexit => ?_
  · split_ifs <;> trivial
  · rw [hc]
    split_ifs <;> rfl
  · rw [hc] at hj
    exact hj.elim
  · rw [hexit, hc]
    exact Nat.zero_lt_one

/-- The poll thread is blocked, or takes a signal. -/
lemma Sound.consume_wait (h : Sound watched live s log c) (hc : s.consumer = .wait) :
    GoesOn watched live s log c := by
  rw [GoesOn, State.consume, hc]
  simp only
  split_ifs with hcount
  · refine ⟨_, none, c, rfl, ?_, rfl, rfl, fun _ => .inr ?_⟩
    · rw [Option.toList_none, List.append_nil]
      exact { h with
        consumer := trivial
        ledger := fun j => by
          have hledger := h.ledger j
          rw [hc] at hledger
          exact hledger
        count_nonneg := Int.le_sub_one_of_lt hcount
        awake := fun _ j _ _ => .inr (.inr (Nat.zero_le _)) }
    · simp only [State.distance, Consumer.distance, hc, kMaxSourceLidar]
      omega
  · refine ⟨s, none, c, rfl, ?_, rfl, rfl, fun _ => .inl ⟨hc, not_lt.mp hcount⟩⟩
    rwa [Option.toList_none, List.append_nil]

/-- A lidar that samples is polled, another one passed over. -/
lemma Sound.consume_select (h : Sound watched live s log c) {i : ℕ} (hc : s.consumer = .select i) :
    GoesOn watched live s log c := by
  rw [GoesOn, State.consume, hc]
  simp only
  split_ifs with hi hsampling
  · refine h.move trivial (fun j => by rw [hc]; rfl) (fun _ j _ _ hle => ?_) fun _ => ?_
    · rw [hc] at hle
      exact hle
    · rw [hc]
      exact Nat.lt_succ_self _
  · refine h.move trivial (fun j => by rw [hc]; rfl) (fun _ j hj _ hle => ?_) fun _ => ?_
    · rw [hc] at hle
      have hne : i ≠ j.val := by
        rintro rfl
        exact hsampling (h.sampling j (h.live_subset hj))
      exact Nat.succ_le_of_lt (Nat.lt_of_le_of_ne hle hne)
    · rw [hc]
      simp only [Consumer.distance]
      omega
  · refine h.move trivial (fun j => by rw [hc]; rfl) (fun _ j _ _ hle => ?_) fun _ => ?_
    · rw [hc] at hle
      exact absurd (Nat.lt_of_le_of_lt hle j.isLt) hi
    · rw [hc]
      simp only [Consumer.distance]
      omega

lemma Sound.consume_polling (h : Sound watched live s log c) (hc : s.consumer = .polling i) :
    GoesOn watched live s log c := by
  rw [GoesOn, State.consume, hc]
  simp only
  cases hmade : (s.queue i).storagePacket with
  | none =>
      refine h.move trivial (fun j => by rw [hc]; rfl) (fun _ j _ hne hle => ?_) fun _ => ?_
      · rw [hc] at hle
        exact past_empty ((h.queues i).eq_nil hmade) hne hle
      · rw [hc]
        simp only [Consumer.distance]
        omega
  | some slots =>
      refine h.move trivial (fun j => by rw [hc]; rfl) (fun _ j _ _ hle => ?_) fun _ => ?_
      · rw [hc] at hle
        exact hle
      · rw [hc]
        exact Nat.lt_succ_self _

/-- The poll thread leaves a lidar only when its queue is empty, unless the node is to end. -/
lemma Sound.consume_outer (h : Sound watched live s log c) (hc : s.consumer = .outer i) :
    GoesOn watched live s log c := by
  have hi := i.isLt
  rw [GoesOn, State.consume, hc]
  simp only
  split_ifs with hmore
  · have hne : c i ≠ [] := by
      intro hempty
      rw [(h.queues i).isEmpty_iff.mpr hempty, Bool.not_true, Bool.and_false] at hmore
      cases hmore
    refine h.move trivial (fun j => by rw [hc]; rfl) (fun _ j _ _ hle => ?_) fun _ => ?_
    · rw [hc] at hle
      exact hle
    · rw [hc]
      simp only [Consumer.distance, if_neg hne]
      omega
  · refine h.move trivial (fun j => by rw [hc]; rfl) (fun hexit j _ hne hle => ?_) fun _ => ?_
    · rw [hc] at hle
      rw [hexit, Bool.not_false, Bool.true_and, Bool.not_eq_true', Bool.not_eq_false,
        (h.queues i).isEmpty_iff] at hmore
      exact past_empty hmore hne hle
    · rw [hc]
      simp only [Consumer.distance]
      omega

lemma Sound.consume_inner (h : Sound watched live s log c) (hc : s.consumer = .inner i) :
    GoesOn watched live s log c := by
  have hi := i.isLt
  rw [GoesOn, State.consume, hc]
  simp only
  split_ifs with hempty
  · rw [(h.queues i).isEmpty_iff] at hempty
    refine h.move trivial (fun j => by rw [hc]; rfl) (fun _ j _ _ hle => ?_) fun _ => ?_
    · rw [hc] at hle
      exact hle
    · rw [hc]
      simp only [Consumer.distance, if_pos hempty]
      omega
  · rw [(h.queues i).isEmpty_iff] at hempty
    refine h.move hempty (fun j => by rw [hc]; rfl) (fun _ j _ _ hle => ?_) fun _ => ?_
    · rw [hc] at hle
      exact hle
    · rw [hc]
      simp only [Consumer.distance, if_neg hempty]
      omega

/-- A pop never fails: the queue was seen not to be empty, and nobody else takes from it. -/
lemma Sound.consume_prePop (h : Sound watched live s log c) (hc : s.consumer = .prePop i) :
    GoesOn watched live s log c := by
  have hi := i.isLt
  have hknows := h.consumer
  rw [hc] at hknows
  rw [GoesOn, State.consume, hc]
  simp only
  rw [if_neg fun hempty => hknows ((h.queues i).isEmpty_iff.mp hempty)]
  refine h.move hknows (fun j => by rw [hc]; rfl) (fun _ j _ _ hle => ?_) fun _ => ?_
  · rw [hc] at hle
    exact hle
  · rw [hc]
    simp only [Consumer.distance]
    omega

lemma Sound.consume_reading (h : Sound watched live s log c) (hc : s.consumer = .reading i) :
    GoesOn watched live s log c := by
  have hi := i.isLt
  have hknows := h.consumer
  rw [hc] at hknows
  obtain ⟨pkg, rest, hrest⟩ := List.exists_cons_of_ne_nil hknows
  rw [GoesOn, State.consume, hc]
  simp only [(hrest ▸ h.queues i : (s.queue i).Contains (pkg :: rest)).readSlot, Option.map_some]
  refine h.move ⟨rest, hrest⟩ (fun j => by rw [hc]; rfl) (fun _ j _ _ hle => ?_) fun _ => ?_
  · rw [hc] at hle
    exact hle
  · rw [hc]
    simp only [Consumer.distance]
    omega

lemma Sound.consume_popUpdate (h : Sound watched live s log c) {pkg : StoragePacket P}
    (hc : s.consumer = .popUpdate i pkg) : GoesOn watched live s log c := by
  have hi := i.isLt
  have hknows := h.consumer
  rw [hc] at hknows
  obtain ⟨rest, hrest⟩ := hknows
  rw [GoesOn, State.consume, hc]
  refine ⟨_, none, Function.update c i rest, rfl, ?_, rfl, rfl, fun _ => .inr ?_⟩
  · rw [Option.toList_none, List.append_nil]
    exact h.popUpdate hc hrest
  · have hsum := sum_length_update hrest
    simp only [State.distance, Consumer.distance, hc, State.setQueue]
    omega

lemma Sound.consume_publish (h : Sound watched live s log c) {pkg : StoragePacket P}
    (hc : s.consumer = .publish i pkg) : GoesOn watched live s log c := by
  have hi := i.isLt
  have hcloser : ({ s with consumer := .inner i } : State P).distance c < s.distance c := by
    simp only [State.distance, Consumer.distance, hc]
    split_ifs <;> omega
  rw [GoesOn, State.consume, hc]
  simp only
  cases hpoints : pkg.points with
  | nil =>
      refine ⟨_, none, c, rfl, h.publish hc ?_, rfl, rfl, fun _ => .inr hcloser⟩
      rw [if_neg (by simp [StoragePacket.hasPoints, hpoints])]
  | cons point points =>
      refine ⟨_, _, c, rfl, h.publish hc ?_, rfl, rfl, fun _ => .inr hcloser⟩
      rw [if_pos (by simp [StoragePacket.hasPoints, hpoints])]

lemma Sound.consume (h : Sound watched live s log c) : GoesOn watched live s log c := by
  cases hc : s.consumer with
  | start => exact h.consume_start hc
  | wait => exact h.consume_wait hc
  | select i => exact h.consume_select hc
  | polling i => exact h.consume_polling hc
  | outer i => exact h.consume_outer hc
  | inner i => exact h.consume_inner hc
  | prePop i => exact h.consume_prePop hc
  | reading i => exact h.consume_reading hc
  | popUpdate i pkg => exact h.consume_popUpdate hc
  | publish i pkg => exact h.consume_publish hc

/-- The poll thread does not accept packets. -/
lemma accepted_consume {s' : State P} {event : Option (Event P)} (h : s.consume = some (s', event))
    (i : Fin kMaxSourceLidar) : accepted i event.toList = [] := by
  have hevent : event = none ∨ ∃ j pkg, event = some (.published j pkg) := by
    cases hc : s.consumer with
    | reading j =>
        simp only [State.consume, hc, Option.map_eq_some_iff] at h
        obtain ⟨pkg, -, heq⟩ := h
        exact .inl (Prod.mk.inj heq).2.symm
    | _ =>
        simp only [State.consume, hc] at h
        grind
  rcases hevent with rfl | ⟨j, pkg, rfl⟩
  · rfl
  · exact accepted_published i j pkg

/-! ## Runs -/

lemma Sound.step (h : Sound watched live s log c) (queueSize : BitVec 32) (action : Action P) :
    ∃ s' event c', s.step queueSize action = some (s', event) ∧
      Sound watched (enliven watched live event.toList) s' (log ++ event.toList) c' := by
  cases action with
  | push i packet =>
      refine ⟨_, none, c, rfl, Sound.quiet ?_⟩
      rw [State.push]
      split
      next hp =>
        refine h.setProducer trivial fun j _ hj => ?_
        rw [hp] at hj
        exact hj.elim
      next => exact h
  | produce => exact h.produce queueSize
  | consume =>
      obtain ⟨s', event, c', hstep, hsound, -⟩ := h.consume
      refine ⟨s', event, c', hstep, ?_⟩
      rwa [enliven_eq_of_none (accepted_consume hstep)]
  | sampling i =>
      refine ⟨_, none, c, rfl, Sound.quiet ?_⟩
      exact { h with
        queues := fun j => queue_setConnectState s i _ ▸ h.queues j
        producer := by
          show s.producer.Knows (s.setConnectState i _).queue c
          rw [queue_setConnectState]
          exact h.producer
        sampling := fun j hj => by
          rw [State.setConnectState]
          by_cases hji : j = i
          · subst hji
            simp
          · simpa [hji] using h.sampling j hj }
  | requestExit =>
      refine ⟨_, none, c, rfl, Sound.quiet ?_⟩
      exact { h with awake := fun hexit => absurd hexit Bool.true_eq_false_eq_False }

lemma Sound.run (h : Sound watched live s log c) (queueSize : BitVec 32)
    (schedule : List (Action P)) :
    ∃ s' log' c', s.run queueSize schedule = some (s', log') ∧
      Sound watched (enliven watched live log') s' (log ++ log') c' := by
  induction schedule generalizing s log c live with
  | nil =>
      refine ⟨s, [], c, rfl, ?_⟩
      rwa [enliven_eq_of_none fun _ => rfl, List.append_nil]
  | cons action schedule ih =>
      obtain ⟨s₁, event, c₁, hstep, hsound₁⟩ := h.step queueSize action
      obtain ⟨s₂, log₂, c₂, hrun, hsound₂⟩ := ih hsound₁
      refine ⟨s₂, event.toList ++ log₂, c₂, ?_, ?_⟩
      · rw [State.run, hstep]
        show (s₁.run queueSize schedule).bind _ = _
        rw [hrun]
        rfl
      · rwa [enliven_append, List.append_assoc] at hsound₂

/-- **What is accepted is published, once and in order**, whatever the schedule: the packets with
points that have been accepted from a lidar are those that have been published, one that is just
being published, and those in its queue.  All accesses are within the storage, and no slot is read
while it is written. -/
theorem run_fifo (queueSize : BitVec 32)
    (connectState : Fin kMaxSourceLidar → LidarConnectState) (schedule : List (Action P)) :
    ∃ s log, (State.init connectState).run queueSize schedule = some (s, log) ∧
      (∀ i packet, s.producer = .writing i packet → s.consumer = .reading i →
        ((s.queue i).wrIdx &&& (s.queue i).mask).toNat
          ≠ ((s.queue i).rdIdx &&& (s.queue i).mask).toNat) ∧
      ∀ i, ∃ waiting, (s.queue i).Contains waiting ∧
        (accepted i log).filter StoragePacket.hasPoints
          = published i log ++ (s.consumer.held i ++ waiting).filter StoragePacket.hasPoints := by
  obtain ⟨s, log, c, hrun, hsound⟩ :=
    (sound_init connectState).run queueSize schedule
  refine ⟨s, log, hrun, fun i packet hp hc => ?_, fun i => ⟨c i, hsound.queues i, hsound.ledger i⟩⟩
  have hroom := hsound.producer
  have hne := hsound.consumer
  rw [hp] at hroom
  rw [hc] at hne
  exact LidarDataQueue.HasRoom.apart hroom hne

/-- When both threads are at rest, all has been published. -/
lemma Sound.at_rest (h : Sound watched live s log c) (hlive : i ∈ live)
    (hexit : s.requestExit = false) (hidle : s.producer = .idle) (hwait : s.consumer = .wait)
    (hcount : s.count ≤ 0) :
    published i log = (accepted i log).filter StoragePacket.hasPoints := by
  have hempty : c i = [] := by
    by_contra hne
    rcases h.awake hexit i hlive hne with hpos | hproducer | hconsumer
    · exact absurd hpos (not_lt.mpr hcount)
    · rw [hidle] at hproducer
      exact hproducer
    · rw [hwait] at hconsumer
      exact hconsumer
  rw [h.ledger i, hempty, hwait]
  simp [Consumer.held]

/-- A run in two parts: lidars that sample in between are watched, and live once a packet has been
accepted from them in the second part. -/
lemma sound_of_runs {queueSize : BitVec 32} {before after : List (Action P)} {s₀ : State P}
    {log₀ : List (Event P)} {connectState : Fin kMaxSourceLidar → LidarConnectState}
    (hbefore : (State.init connectState).run queueSize before = some (s₀, log₀))
    (hafter : s₀.run queueSize after = some (s, log)) :
    ∃ c, Sound {i | (s₀.lidars i).connectState = .sampling}
      {i | (s₀.lidars i).connectState = .sampling ∧ accepted i log ≠ []} s (log₀ ++ log) c := by
  obtain ⟨s₁, log₁, c₁, hrun₁, hsound₁⟩ := (sound_init connectState).run queueSize before
  obtain ⟨rfl, rfl⟩ := Prod.mk.inj (Option.some.inj (hbefore.symm.trans hrun₁))
  have hwatched : Sound {i | (s₀.lidars i).connectState = .sampling} ∅ s₀ log₀ c₁ :=
    { hsound₁ with
      live_subset := Set.empty_subset _
      sampling := fun _ hi => hi
      awake := fun _ _ hi => absurd hi (Set.notMem_empty _) }
  obtain ⟨s₂, log₂, c₂, hrun₂, hsound₂⟩ := hwatched.run queueSize after
  obtain ⟨rfl, rfl⟩ := Prod.mk.inj (Option.some.inj (hafter.symm.trans hrun₂))
  rw [enliven, Set.empty_union] at hsound₂
  exact ⟨c₂, hsound₂⟩

/-- **No wakeup is lost.**  When the poll thread is blocked and no call of `PushLidarData` is under
way, all packets with points that have been accepted from a lidar are published, if one has been
accepted since it samples. -/
theorem no_lost_wakeup {queueSize : BitVec 32} {before after : List (Action P)} {s₀ : State P}
    {log₀ : List (Event P)} {connectState : Fin kMaxSourceLidar → LidarConnectState}
    (hbefore : (State.init connectState).run queueSize before = some (s₀, log₀))
    (hsampling : (s₀.lidars i).connectState = .sampling)
    (hafter : s₀.run queueSize after = some (s, log)) (hsince : accepted i log ≠ [])
    (hexit : s.requestExit = false) (hidle : s.producer = .idle) (hwait : s.consumer = .wait)
    (hcount : s.count ≤ 0) :
    published i (log₀ ++ log) = (accepted i (log₀ ++ log)).filter StoragePacket.hasPoints := by
  obtain ⟨c, hsound⟩ := sound_of_runs hbefore hafter
  exact hsound.at_rest ⟨hsampling, hsince⟩ hexit hidle hwait hcount

/-- Two of the lidars. -/
def firstLidar : Fin kMaxSourceLidar := ⟨0, by decide⟩

def secondLidar : Fin kMaxSourceLidar := ⟨1, by decide⟩

/-- A call of `PushLidarData`, from its beginning to its end. -/
def pushed (i : Fin kMaxSourceLidar) (packet : StoragePacket ℕ) : List (Action ℕ) :=
  .push i packet :: List.replicate 7 .produce

/-- A packet is accepted and passed over before its lidar samples, and then two lidars sample. -/
def lateStart : List (Action ℕ) :=
  pushed firstLidar ⟨7, [1, 2]⟩ ++ List.replicate 36 .consume
    ++ [.sampling firstLidar, .sampling secondLidar]

/-- Packets come from both lidars, one of them without points. -/
def fourPackets : List (Action ℕ) :=
  pushed firstLidar ⟨8, [3]⟩ ++ pushed secondLidar ⟨8, [4, 5]⟩
    ++ .consume :: pushed firstLidar ⟨9, []⟩ ++ pushed firstLidar ⟨10, [6]⟩

/-- The state before the packets, and the events until then. -/
def late : State ℕ × List (Event ℕ) :=
  ((State.init fun _ => .off).run 10 lateStart).getD (State.init fun _ => .off, [])

set_option maxRecDepth 8000 in
lemma run_lateStart : (State.init fun _ => .off).run 10 lateStart = some late := rfl

set_option maxRecDepth 8000 in
/-- All packets of the first lidar come and go, also the one that was there before it sampled. -/
theorem no_lost_wakeup_late :
    ∃ (s : State ℕ) (log : List (Event ℕ)),
      late.1.run 10 (fourPackets ++ List.replicate 106 .consume) = some (s, log) ∧
      published firstLidar (late.2 ++ log)
        = (accepted firstLidar (late.2 ++ log)).filter StoragePacket.hasPoints := by
  have hafter : late.1.run 10 (fourPackets ++ List.replicate 106 .consume) = some (_, _) := rfl
  exact ⟨_, _, hafter, no_lost_wakeup run_lateStart rfl hafter (List.cons_ne_nil _ _) rfl rfl rfl
    le_rfl⟩

/-! ## Going on alone -/

/-- Going on alone, the poll thread comes to be blocked. -/
lemma Sound.drain (h : Sound watched live s log c) (queueSize : BitVec 32)
    (hexit : s.requestExit = false) (hidle : s.producer = .idle) :
    ∃ n s' log' c', s.run queueSize (List.replicate n .consume) = some (s', log') ∧
      Sound watched live s' (log ++ log') c' ∧ s'.requestExit = false ∧ s'.producer = .idle ∧
      s'.consumer = .wait ∧ s'.count ≤ 0 := by
  -- on how far the poll thread is from being blocked
  induction hd : s.distance c using Nat.strong_induction_on generalizing s log c with
  | _ d ih =>
    obtain ⟨s₁, event, c₁, hstep, hsound₁, hpolled⟩ := h.consume
    rcases hpolled.closer hexit with ⟨hwait, hcount⟩ | hlt
    · exact ⟨0, s, [], c, rfl, by rwa [List.append_nil], hexit, hidle, hwait, hcount⟩
    · obtain ⟨n, s₂, log₂, c₂, hrun, hsound₂, hend⟩ :=
        ih _ (hd ▸ hlt) hsound₁ (hpolled.requestExit.trans hexit)
          (hpolled.producer.trans hidle) rfl
      refine ⟨n + 1, s₂, event.toList ++ log₂, c₂, ?_, by rwa [← List.append_assoc], hend⟩
      rw [List.replicate_succ, State.run]
      show (s.consume).bind _ = _
      rw [hstep]
      show (s₁.run queueSize (List.replicate n .consume)).bind _ = _
      rw [hrun]
      rfl

/-- **All that is accepted gets published**: from any state in which no call of `PushLidarData` is
under way, the poll thread, if it goes on, comes to be blocked, and then it has published what has
been accepted from each lidar from which a packet has been accepted since it samples. -/
theorem drains {queueSize : BitVec 32} {before after : List (Action P)} {s₀ : State P}
    {log₀ : List (Event P)} {connectState : Fin kMaxSourceLidar → LidarConnectState}
    (hbefore : (State.init connectState).run queueSize before = some (s₀, log₀))
    (hafter : s₀.run queueSize after = some (s, log)) (hexit : s.requestExit = false)
    (hidle : s.producer = .idle) :
    ∃ n s' log', s.run queueSize (List.replicate n .consume) = some (s', log') ∧
      s'.consumer = .wait ∧ s'.count ≤ 0 ∧
      ∀ i, (s₀.lidars i).connectState = .sampling → accepted i log ≠ [] →
        published i (log₀ ++ log ++ log')
          = (accepted i (log₀ ++ log ++ log')).filter StoragePacket.hasPoints := by
  obtain ⟨c, hsound⟩ := sound_of_runs hbefore hafter
  obtain ⟨n, s', log', c', hrun', hsound', hexit', hidle', hwait', hcount'⟩ :=
    hsound.drain queueSize hexit hidle
  exact ⟨n, s', log', hrun', hwait', hcount', fun i hsampling hsince =>
    hsound'.at_rest ⟨hsampling, hsince⟩ hexit' hidle' hwait' hcount'⟩

set_option maxRecDepth 8000 in
/-- The packets of both lidars are in their queues, and the poll thread has just woken up. -/
theorem drains_late :
    ∃ (s : State ℕ) (log : List (Event ℕ)), late.1.run 10 fourPackets = some (s, log) ∧
      ∃ n s' log', s.run 10 (List.replicate n .consume) = some (s', log') ∧
        s'.consumer = .wait ∧ s'.count ≤ 0 ∧
        ∀ i, (late.1.lidars i).connectState = .sampling → accepted i log ≠ [] →
          published i (late.2 ++ log ++ log')
            = (accepted i (late.2 ++ log ++ log')).filter StoragePacket.hasPoints := by
  have hafter : late.1.run 10 fourPackets = some (_, _) := rfl
  exact ⟨_, _, hafter, drains run_lateStart hafter rfl rfl⟩

end SentryNav.LivoxDriver
