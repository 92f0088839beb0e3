import SentryNav.LivoxDriver.PubHandler
import Mathlib.Data.Finset.Card

/-!
# Frames part the points of the lidars

Every point of every packet goes into just one frame, in the order in which the points come, or is
still waiting for one (`frames_conserve`).  This does not depend on when the packets come, or on
whether the lidars are synchronised then.
-/

namespace SentryNav.LivoxDriver

variable {K : Type*} {p p' : PubHandler K} {id j : ℕ}

/-! ## Packets in a frame -/

/-- The points that packets have for a lidar. -/
def pointsOf (id : ℕ) (packets : List (PointPacket K)) : List (PointXyzlt K) :=
  (packets.filter fun packet => packet.handle = id).flatMap PointPacket.points

@[simp] lemma pointsOf_nil (id : ℕ) : pointsOf id ([] : List (PointPacket K)) = [] := rfl

@[simp] lemma pointsOf_append (id : ℕ) (xs ys : List (PointPacket K)) :
    pointsOf id (xs ++ ys) = pointsOf id xs ++ pointsOf id ys := by
  rw [pointsOf, List.filter_append, List.flatMap_append]
  rfl

lemma pointsOf_singleton (id : ℕ) (packet : PointPacket K) :
    pointsOf id [packet] = if packet.handle = id then packet.points else [] := by
  by_cases h : packet.handle = id <;> simp [pointsOf, h]

/-- A packet of a frame has points, and the time of the first of them. -/
def PointPacket.WellFormed (packet : PointPacket K) : Prop :=
  ∃ first rest, packet.points = first :: rest ∧ packet.baseTime = first.offsetTime

/-- What a step that puts packets in a frame does: it moves points. -/
structure Moved (p p' : PubHandler K) (packets : List (PointPacket K)) : Prop where
  points : ∀ j, pointsOf j packets ++ (p'.handler j).pointsClouds = (p.handler j).pointsClouds
  extrinsic : ∀ j, (p'.handler j).extrinsic = (p.handler j).extrinsic
  isSet : ∀ j, (p'.handler j).isSetExtrinsicParams = (p.handler j).isSetExtrinsicParams
  lidarExtrinsics : p'.lidarExtrinsics = p.lidarExtrinsics
  lidarIds : p'.lidarIds = p.lidarIds
  wellFormed : ∀ packet ∈ packets, packet.WellFormed

lemma Moved.refl (p : PubHandler K) : Moved p p [] where
  points _ := rfl
  extrinsic _ := rfl
  isSet _ := rfl
  lidarExtrinsics := rfl
  lidarIds := rfl
  wellFormed _ h := absurd h List.not_mem_nil

lemma Moved.trans {p'' : PubHandler K} {xs ys : List (PointPacket K)} (h : Moved p p' xs)
    (h' : Moved p' p'' ys) : Moved p p'' (xs ++ ys) where
  points j := by rw [pointsOf_append, List.append_assoc, h'.points, h.points]
  extrinsic j := (h'.extrinsic j).trans (h.extrinsic j)
  isSet j := (h'.isSet j).trans (h.isSet j)
  lidarExtrinsics := h'.lidarExtrinsics.trans h.lidarExtrinsics
  lidarIds := h'.lidarIds.trans h.lidarIds
  wellFormed packet hpacket := by
    rcases List.mem_append.mp hpacket with hpacket | hpacket
    · exact h.wellFormed packet hpacket
    · exact h'.wellFormed packet hpacket

lemma handler_takePoints (p : PubHandler K) (id j : ℕ) :
    (p.takePoints id).handler j
      = if j = id then { p.handler id with pointsClouds := [] } else p.handler j := by
  rw [PubHandler.takePoints, PubHandler.setHandler]
  by_cases h : j = id
  · subst h
    rw [if_pos rfl]
    exact Function.update_self ..
  · rw [if_neg h]
    exact Function.update_of_ne h ..

/-- The points of a lidar are taken, and put into packets. -/
lemma moved_takePoints {packets : List (PointPacket K)}
    (hpoints : ∀ j, pointsOf j packets = if id = j then (p.handler id).pointsClouds else [])
    (hwellFormed : ∀ packet ∈ packets, packet.WellFormed) : Moved p (p.takePoints id) packets where
  points j := by
    rw [hpoints, handler_takePoints]
    by_cases hj : j = id
    · subst hj
      rw [if_pos rfl, if_pos rfl, List.append_nil]
    · rw [if_neg hj, if_neg (Ne.symm hj), List.nil_append]
  extrinsic j := by
    rw [handler_takePoints]
    split_ifs with hj
    · rw [hj]
    · rfl
  isSet j := by
    rw [handler_takePoints]
    split_ifs with hj
    · rw [hj]
    · rfl
  lidarExtrinsics := rfl
  lidarIds := rfl
  wellFormed := hwellFormed

/-- There are no points. -/
lemma moved_none (h : (p.handler id).pointsClouds = []) : Moved p (p.takePoints id) [] := by
  refine moved_takePoints (fun j => ?_) fun _ hpacket => absurd hpacket List.not_mem_nil
  rw [h, ite_self]
  rfl

/-- The points are put in the frame. -/
lemma moved_packetOf {first : PointXyzlt K} {rest : List (PointXyzlt K)}
    (h : (p.handler id).pointsClouds = first :: rest) :
    Moved p (p.takePoints id) [p.packetOf id] := by
  refine moved_takePoints (fun j => pointsOf_singleton j _) fun packet hpacket => ?_
  obtain rfl := List.mem_singleton.mp hpacket
  refine ⟨first, rest, h, ?_⟩
  show (p.handler id).getLidarBaseTime = first.offsetTime
  rw [LidarPubHandler.getLidarBaseTime, h]

/-! ## `CheckTimer` -/

/-- The loop over the lidars moves points, if there is room. -/
lemma fillFrame_spec (p : PubHandler K) (frame : List (PointPacket K)) (ids : List ℕ)
    (hroom : frame.length + ids.length ≤ maxFrameLidars) :
    ∃ p' packets, p.fillFrame frame ids = some (p', frame ++ packets) ∧ Moved p p' packets := by
  induction ids generalizing p frame with
  | nil => exact ⟨p, [], by rw [PubHandler.fillFrame, List.append_nil], .refl p⟩
  | cons id ids ih =>
      rw [List.length_cons] at hroom
      rw [PubHandler.fillFrame, if_pos (by omega)]
      cases hpoints : (p.handler id).pointsClouds with
      | nil =>
          obtain ⟨p', packets, hfill, hmoved⟩ := ih (p.takePoints id) frame (by omega)
          exact ⟨p', packets, hfill, (moved_none hpoints).trans hmoved⟩
      | cons first rest =>
          obtain ⟨p', packets, hfill, hmoved⟩ := ih (p.takePoints id) (frame ++ [p.packetOf id]) (by
            rw [List.length_append, List.length_singleton]
            omega)
          refine ⟨p', p.packetOf id :: packets, ?_, (moved_packetOf hpoints).trans hmoved⟩
          rw [← List.append_cons] at hfill
          exact hfill

/-- Whatever the time, points are only moved. -/
lemma checkTimer_spec (p : PubHandler K) (id : ℕ) (isTimestampSync : Bool) (nowTime : ℤ)
    (hroom : p.lidarIds.length ≤ maxFrameLidars) :
    ∃ p' frame, p.checkTimer id isTimestampSync nowTime = some (p', frame) ∧
      Moved p p' (frame.getD []) := by
  have hstay : ∀ lastPubTime, Moved p { p with lastPubTime := lastPubTime } [] := fun _ =>
    { Moved.refl p with points := fun _ => rfl }
  rw [PubHandler.checkTimer]
  cases isTimestampSync with
  | true =>
      rw [if_pos rfl]
      simp only
      split_ifs
      · exact ⟨p, none, rfl, .refl p⟩
      · exact ⟨p, none, rfl, .refl p⟩
      · cases hpoints : (p.handler id).pointsClouds with
        | nil => exact ⟨_, none, rfl, moved_none hpoints⟩
        | cons first rest => exact ⟨_, _, rfl, moved_packetOf hpoints⟩
  | false =>
      rw [if_neg Bool.false_ne_true]
      cases p.lastPubTime with
      | none => exact ⟨_, none, rfl, hstay _⟩
      | some lastPubTime =>
          simp only
          split_ifs
          · exact ⟨p, none, rfl, .refl p⟩
          · obtain ⟨p', packets, hfill, hmoved⟩ := fillFrame_spec
              { p with lastPubTime := some (lastPubTime + p.publishInterval.toNat) } [] p.lidarIds
              (by rwa [List.length_nil, Nat.zero_add])
            rw [List.nil_append] at hfill
            refine ⟨p', some packets, ?_, (hstay _).trans hmoved⟩
            rw [hfill]
            rfl

/-! ## Packets of the network -/

variable [Field K] {libm : Libm K}

/-- The parameters of a lidar, once it has some. -/
def PubHandler.extrinsicOf (libm : Libm K) (p : PubHandler K) (id : ℕ) : ExtParameterDetailed K :=
  match p.lidarExtrinsics id with
  | none => LidarPubHandler.make.extrinsic
  | some param => param.detailed libm

/-- What a handler has for the transform of its lidar. -/
structure Settled (libm : Libm K) (param : Option (ExtParameter K)) (h : LidarPubHandler K) :
    Prop where
  fresh : h.isSetExtrinsicParams = false → h.extrinsic = LidarPubHandler.make.extrinsic
  set : h.isSetExtrinsicParams = true → ∃ q, param = some q ∧ h.extrinsic = q.detailed libm

/-- What holds of the handlers at all times, for lidars with some handles. -/
structure Orderly (libm : Libm K) (handles : Finset ℕ) (p : PubHandler K) : Prop where
  unseen : ∀ id, id ∉ p.lidarIds → (p.handler id).pointsClouds = []
  settled : ∀ id, Settled libm (p.lidarExtrinsics id) (p.handler id)
  nodup : p.lidarIds.Nodup
  known : ∀ id ∈ p.lidarIds, id ∈ handles

variable {handles : Finset ℕ} {h : LidarPubHandler K}

lemma settled_make (param : Option (ExtParameter K)) : Settled libm param .make where
  fresh _ := rfl
  set hset := nomatch hset

lemma Orderly.length_le (h : Orderly libm handles p) : p.lidarIds.length ≤ handles.card := by
  rw [← List.toFinset_card_of_nodup h.nodup]
  exact Finset.card_le_card fun id hid => h.known id (List.mem_toFinset.mp hid)

lemma Orderly.moved {packets : List (PointPacket K)} (h : Orderly libm handles p)
    (hmoved : Moved p p' packets) : Orderly libm handles p' where
  unseen id hid := by
    rw [hmoved.lidarIds] at hid
    have hpoints := hmoved.points id
    rw [h.unseen id hid] at hpoints
    exact (List.append_eq_nil_iff.mp hpoints).2
  settled id :=
    { fresh := fun hset => by
        rw [hmoved.extrinsic]
        exact (h.settled id).fresh (hmoved.isSet id ▸ hset)
      set := fun hset => by
        rw [hmoved.lidarExtrinsics, hmoved.extrinsic]
        exact (h.settled id).set (hmoved.isSet id ▸ hset) }
  nodup := hmoved.lidarIds ▸ h.nodup
  known := hmoved.lidarIds ▸ h.known

omit [Field K] in
lemma handler_setHandler_self (p : PubHandler K) (id : ℕ) (h : LidarPubHandler K) :
    (p.setHandler id h).handler id = h := Function.update_self ..

omit [Field K] in
lemma handler_setHandler_of_ne (p : PubHandler K) (h : LidarPubHandler K) (hj : j ≠ id) :
    (p.setHandler id h).handler j = p.handler j := Function.update_of_ne hj ..

/-- A lidar that has been seen gets another handler. -/
lemma Orderly.setHandler (horderly : Orderly libm handles p) (hid : id ∈ p.lidarIds)
    (hsettled : Settled libm (p.lidarExtrinsics id) h) :
    Orderly libm handles (p.setHandler id h) where
  unseen j hj := by
    have hne : j ≠ id := fun heq => hj (heq ▸ hid)
    rw [handler_setHandler_of_ne p h hne]
    exact horderly.unseen j hj
  settled j := by
    by_cases hj : j = id
    · subst hj
      rw [handler_setHandler_self]
      exact hsettled
    · rw [handler_setHandler_of_ne p h hj]
      exact horderly.settled j
  nodup := horderly.nodup
  known := horderly.known

/-- After the search for a handler there is one, with the points of before. -/
lemma Orderly.ensureHandler (horderly : Orderly libm handles p) (hid : id ∈ handles) :
    Orderly libm handles (p.ensureHandler id) ∧ id ∈ (p.ensureHandler id).lidarIds ∧
      (p.ensureHandler id).lidarExtrinsics = p.lidarExtrinsics ∧
      ∀ j, ((p.ensureHandler id).handler j).pointsClouds = (p.handler j).pointsClouds := by
  rw [PubHandler.ensureHandler]
  split_ifs with hmem
  · exact ⟨horderly, hmem, rfl, fun _ => rfl⟩
  · have hinsert : ∀ j, j ∈ p.lidarIds.orderedInsert (· ≤ ·) id ↔ j = id ∨ j ∈ p.lidarIds :=
      fun j => List.mem_orderedInsert (· ≤ ·)
    refine ⟨⟨fun j hj => ?_, fun j => ?_, ?_, fun j hj => ?_⟩, (hinsert id).mpr (.inl rfl), rfl,
      fun j => ?_⟩
    · obtain ⟨hne, hj⟩ := not_or.mp (mt (hinsert j).mpr hj)
      exact (congrArg _ (handler_setHandler_of_ne p .make hne)).trans (horderly.unseen j hj)
    · show Settled libm (p.lidarExtrinsics j) ((p.setHandler id .make).handler j)
      by_cases hj : j = id
      · subst hj
        rw [handler_setHandler_self]
        exact settled_make _
      · rw [handler_setHandler_of_ne p .make hj]
        exact horderly.settled j
    · exact (List.perm_orderedInsert (· ≤ ·) id p.lidarIds).nodup_iff.mpr
        (List.nodup_cons.mpr ⟨hmem, horderly.nodup⟩)
    · rcases (hinsert j).mp hj with rfl | hj
      · exact hid
      · exact horderly.known j hj
    · show ((p.setHandler id .make).handler j).pointsClouds = _
      by_cases hj : j = id
      · subst hj
        rw [handler_setHandler_self, horderly.unseen j hmem]
        rfl
      · rw [handler_setHandler_of_ne p .make hj]

/-- The handler has the transform of its lidar then. -/
lemma Orderly.setExtrinsics (horderly : Orderly libm handles p) (hid : id ∈ p.lidarIds) :
    Orderly libm handles (p.setExtrinsics libm id) ∧
      (p.setExtrinsics libm id).lidarIds = p.lidarIds ∧
      (p.setExtrinsics libm id).lidarExtrinsics = p.lidarExtrinsics ∧
      ((p.setExtrinsics libm id).handler id).extrinsic = p.extrinsicOf libm id ∧
      ∀ j, ((p.setExtrinsics libm id).handler j).pointsClouds = (p.handler j).pointsClouds := by
  have hsettled := horderly.settled id
  rw [PubHandler.setExtrinsics, PubHandler.extrinsicOf]
  cases hparam : p.lidarExtrinsics id with
  | none =>
      refine ⟨horderly, rfl, rfl, hsettled.fresh ?_, fun _ => rfl⟩
      by_contra hset
      obtain ⟨q, hq, -⟩ := hsettled.set (Bool.of_not_eq_false hset)
      rw [hparam] at hq
      cases hq
  | some param =>
      have hsettled' : Settled libm (p.lidarExtrinsics id)
          ((p.handler id).setLidarsExtParam libm param) ∧
          ((p.handler id).setLidarsExtParam libm param).extrinsic = param.detailed libm ∧
          ((p.handler id).setLidarsExtParam libm param).pointsClouds
            = (p.handler id).pointsClouds := by
        rw [LidarPubHandler.setLidarsExtParam]
        split_ifs with hset
        · obtain ⟨q, hq, hextrinsic⟩ := hsettled.set hset
          obtain rfl := Option.some.inj (hparam.symm.trans hq)
          exact ⟨hsettled, hextrinsic, rfl⟩
        · exact ⟨⟨fun hset => (nomatch hset), fun _ => ⟨param, hparam, rfl⟩⟩, rfl, rfl⟩
      refine ⟨horderly.setHandler hid hsettled'.1, rfl, rfl, ?_, fun j => ?_⟩
      · simp only [handler_setHandler_self]
        exact hsettled'.2.1
      · simp only
        by_cases hj : j = id
        · subst hj
          rw [handler_setHandler_self]
          exact hsettled'.2.2
        · rw [handler_setHandler_of_ne p _ hj]

/-- A packet adds its points to its lidar. -/
lemma Orderly.process (horderly : Orderly libm handles p) (pkt : RawPacket)
    (hpkt : pkt.handle ∈ handles) :
    Orderly libm handles (p.process libm pkt) ∧
      (p.process libm pkt).lidarExtrinsics = p.lidarExtrinsics ∧
      ∀ j, ((p.process libm pkt).handler j).pointsClouds = (p.handler j).pointsClouds ++
        if pkt.handle = j then pkt.points libm (p.extrinsicOf libm j) else [] := by
  obtain ⟨hensured, hmem, hext₁, hpoints₁⟩ := horderly.ensureHandler hpkt
  obtain ⟨hset, hids, hext₂, hextrinsic, hpoints₂⟩ := hensured.setExtrinsics hmem
  rw [PubHandler.process]
  refine ⟨hset.setHandler (hids ▸ hmem) ⟨?_, ?_⟩, hext₂.trans hext₁, fun j => ?_⟩
  · exact (hset.settled pkt.handle).fresh
  · exact (hset.settled pkt.handle).set
  · by_cases hj : j = pkt.handle
    · subst hj
      rw [handler_setHandler_self, if_pos rfl, ← hpoints₁, ← hpoints₂,
        LidarPubHandler.pointCloudProcess, hextrinsic, PubHandler.extrinsicOf, hext₁]
      rfl
    · rw [handler_setHandler_of_ne _ _ hj, if_neg (Ne.symm hj), List.append_nil, hpoints₂,
        hpoints₁]

/-! ## Runs -/

/-- The points that packets from the network have for a lidar. -/
def decoded (libm : Libm K) (p : PubHandler K) (id : ℕ) (arrivals : List Arrival) :
    List (PointXyzlt K) :=
  (arrivals.filter fun a => a.pkt.handle = id).flatMap fun a =>
    a.pkt.points libm (p.extrinsicOf libm id)

lemma decoded_cons (libm : Libm K) (p : PubHandler K) (id : ℕ) (a : Arrival)
    (arrivals : List Arrival) :
    decoded libm p id (a :: arrivals)
      = (if a.pkt.handle = id then a.pkt.points libm (p.extrinsicOf libm id) else [])
        ++ decoded libm p id arrivals := by
  by_cases h : a.pkt.handle = id <;> simp [decoded, h]

lemma decoded_congr (libm : Libm K) (h : p'.lidarExtrinsics = p.lidarExtrinsics) (id : ℕ)
    (arrivals : List Arrival) : decoded libm p' id arrivals = decoded libm p id arrivals := by
  rw [decoded, decoded, PubHandler.extrinsicOf, PubHandler.extrinsicOf, h]

lemma Orderly.run (horderly : Orderly libm handles p) (hroom : handles.card ≤ maxFrameLidars)
    (arrivals : List Arrival) (harrivals : ∀ a ∈ arrivals, a.pkt.handle ∈ handles) :
    ∃ p' packets, p.run libm arrivals = some (p', packets) ∧
      (∀ packet ∈ packets, packet.WellFormed) ∧
      ∀ id, pointsOf id packets ++ (p'.handler id).pointsClouds
        = (p.handler id).pointsClouds ++ decoded libm p id arrivals := by
  induction arrivals generalizing p with
  | nil =>
      exact ⟨p, [], rfl, fun _ h => absurd h List.not_mem_nil, fun id => (List.append_nil _).symm⟩
  | cons a arrivals ih =>
      obtain ⟨ha, harrivals⟩ := List.forall_mem_cons.mp harrivals
      obtain ⟨hprocessed, hextrinsics, hpoints⟩ := horderly.process a.pkt ha
      obtain ⟨p₁, frame, hcheck, hmoved⟩ := checkTimer_spec (p.process libm a.pkt) a.pkt.handle
        a.isTimestampSync a.nowTime (hprocessed.length_le.trans hroom)
      obtain ⟨p₂, packets, hrun, hwellFormed, hconserve⟩ := ih (hprocessed.moved hmoved) harrivals
      refine ⟨p₂, frame.getD [] ++ packets, ?_, fun packet hpacket => ?_, fun id => ?_⟩
      · rw [PubHandler.run, PubHandler.rawDataProcess, hcheck]
        show (p₁.run libm arrivals).bind _ = _
        rw [hrun]
        rfl
      · rcases List.mem_append.mp hpacket with hpacket | hpacket
        · exact hmoved.wellFormed packet hpacket
        · exact hwellFormed packet hpacket
      · calc pointsOf id (frame.getD [] ++ packets) ++ (p₂.handler id).pointsClouds
            = pointsOf id (frame.getD []) ++ (p₁.handler id).pointsClouds
                ++ decoded libm p₁ id arrivals := by
              rw [pointsOf_append, List.append_assoc, hconserve id, ← List.append_assoc]
          _ = ((p.process libm a.pkt).handler id).pointsClouds ++ decoded libm p id arrivals := by
              rw [hmoved.points id,
                decoded_congr libm (hmoved.lidarExtrinsics.trans hextrinsics)]
          _ = (p.handler id).pointsClouds ++ decoded libm p id (a :: arrivals) := by
              rw [hpoints id, List.append_assoc, decoded_cons]

/-- **No point is lost and none is published twice.**  With at most 32 lidars, whenever their
packets come: the points published for a lidar and those waiting for a frame are those of its
packets, in their order.  What is published for a lidar has points, and the time of the first of
them. -/
theorem frames_conserve (libm : Libm K) (publishInterval : BitVec 64)
    (lidarExtrinsics : ℕ → Option (ExtParameter K)) (arrivals : List Arrival)
    (hroom : (arrivals.map fun a => a.pkt.handle).toFinset.card ≤ maxFrameLidars) :
    ∃ p packets, (PubHandler.make publishInterval lidarExtrinsics).run libm arrivals
        = some (p, packets) ∧
      (∀ packet ∈ packets, ∃ first rest,
        packet.points = first :: rest ∧ packet.baseTime = first.offsetTime) ∧
      ∀ id, pointsOf id packets ++ (p.handler id).pointsClouds
        = decoded libm (PubHandler.make publishInterval lidarExtrinsics) id arrivals := by
  have horderly : Orderly libm (arrivals.map fun a => a.pkt.handle).toFinset
      (PubHandler.make publishInterval lidarExtrinsics) :=
    { unseen := fun _ _ => rfl
      settled := fun _ => settled_make _
      nodup := List.nodup_nil
      known := fun _ h => absurd h List.not_mem_nil }
  exact horderly.run hroom arrivals fun a ha =>
    List.mem_toFinset.mpr (List.mem_map_of_mem ha)

/-- The functions as they are at zero, for lidars that are not turned. -/
def noTurn : Libm ℚ := ⟨fun _ => 0, fun _ => 1, fun _ => 0, fun _ _ => 0, fun _ _ => 0⟩

/-- Packets of two lidars, the second one shifted by half a metre; the third packet makes the time
for a frame of both, and the fourth is left waiting. -/
def twoLidars : List Arrival :=
  [⟨⟨9, false, 4, 100000000, 10, .cartesianHigh [⟨1, 2, 3, 90, 0⟩, ⟨4, 5, 6, 91, 0⟩]⟩, false, 0⟩,
    ⟨⟨7, true, 4, 100000500, 10, .cartesianLow [⟨1, 1, 1, 50, 1⟩]⟩, false, 50000000⟩,
    ⟨⟨9, false, 4, 200000000, 10, .cartesianHigh [⟨7, 8, 9, 92, 0⟩]⟩, false, 100000000⟩,
    ⟨⟨7, true, 4, 200000500, 10, .cartesianLow [⟨2, 2, 2, 51, 1⟩]⟩, false, 120000000⟩]

/-- Where the second lidar is. -/
def halfMetreUp (id : ℕ) : Option (ExtParameter ℚ) :=
  if id = 9 then some ⟨0, 0, 0, 0, 0, 500⟩ else none

/-- The points of two lidars, published or waiting. -/
theorem frames_conserve_twoLidars :
    ∃ (p : PubHandler ℚ) (packets : List (PointPacket ℚ)),
      (PubHandler.make 100000000 halfMetreUp).run noTurn twoLidars = some (p, packets) ∧
      (∀ packet ∈ packets, ∃ first rest,
        packet.points = first :: rest ∧ packet.baseTime = first.offsetTime) ∧
      ∀ id, pointsOf id packets ++ (p.handler id).pointsClouds
        = decoded noTurn (PubHandler.make 100000000 halfMetreUp) id twoLidars :=
  frames_conserve noTurn 100000000 halfMetreUp twoLidars (by decide)

/-- The frame is of both lidars, with three points and one. -/
example : (((PubHandler.make 100000000 halfMetreUp).run noTurn twoLidars).map fun r =>
      r.2.map fun packet => (packet.handle, packet.baseTime, packet.points.length))
    = some [(7, 100000500, 1), (9, 100000000, 3)] := by
  decide +kernel

end SentryNav.LivoxDriver
