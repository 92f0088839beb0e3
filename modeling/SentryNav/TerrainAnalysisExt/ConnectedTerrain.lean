import SentryNav.Core.FloodFill
import SentryNav.TerrainAnalysisExt.TerrainConn
import Mathlib.Data.List.ProdSigma
import Mathlib.Data.Rat.Cast.OfScientific
import Mathlib.Data.Rat.Floor

/-!
# Which terrain is connected

The connectivity check is a flood fill over the planar voxels: `checkConnectivity_eq` says that the
loop on indices does what the fill does on voxels.  So it comes to an end and stays in the arrays,
and what it has visited is linked to the vehicle's voxel by small steps (`visited_linked`).

A voxel much higher or lower than one that was visited is taken for ceiling, also where the ground
leads up to it in small steps.  `connected_or_ceiling` is what is left of completeness: along every
chain of small steps all voxels are found, or one of them was taken for ceiling.  `steep_ramp` is a
ramp whose upper end is lost.
-/

namespace SentryNav.TerrainAnalysisExt

open FloodFill Loop Raster

variable {K : Type*} [Field K] [LinearOrder K]

/-! ## Voxels and their neighbours -/

/-- The indices of a voxel along the axes. -/
def indX (c : PlanarVoxel) : ℤ := (c : ℤ) / planarVoxelWidth
def indY (c : PlanarVoxel) : ℤ := (c : ℤ) % planarVoxelWidth

/-- At most ten indices apart per axis. -/
def Near (a b : PlanarVoxel) : Prop := |indX b - indX a| ≤ 10 ∧ |indY b - indY a| ≤ 10

/-- The voxel of the vehicle. -/
def vehicleVoxel : PlanarVoxel :=
  ⟨planarVoxelWidth * planarVoxelHalfWidth + planarVoxelHalfWidth, by decide⟩

/-- The elevations that the check works on. -/
def groundElev (p : Params K) (vehicleZ : K) (elev : PlanarVoxel → K)
    (pointElev : PlanarVoxel → List K) : PlanarVoxel → K :=
  if (pointElev vehicleVoxel).length = 0 then
    Function.update elev vehicleVoxel (vehicleZ + p.terrainUnderVehicle)
  else elev

/-- The voxel with some indices along the axes, if they are in the grid. -/
def voxelAt? (ix iy : ℤ) : Option PlanarVoxel :=
  if Inside planarVoxelWidth ix iy then place? (planarVoxelWidth * ix + iy) else none

lemma inside_voxel (c : PlanarVoxel) : Inside planarVoxelWidth (indX c) (indY c) :=
  inside_ediv_emod (Int.natCast_nonneg _) (Int.ofNat_lt.mpr c.isLt)

lemma place?_cast (c : PlanarVoxel) : place? c = some c := by
  have hlt : (c : ℤ) < kPlanarVoxelNum := Int.ofNat_lt.mpr c.isLt
  rw [place?, dif_pos ⟨Int.natCast_nonneg _, hlt⟩]
  rfl

/-- Inside the grid there is a place for every index. -/
lemma exists_place {ix iy : ℤ} (h : Inside planarVoxelWidth ix iy) :
    ∃ c, place? (planarVoxelWidth * ix + iy) = some c ∧ indX c = ix ∧ indY c = iy := by
  have hplace : 0 ≤ planarVoxelWidth * ix + iy ∧ planarVoxelWidth * ix + iy < kPlanarVoxelNum := by
    simp only [Inside, kPlanarVoxelNum, planarVoxelWidth] at *
    omega
  obtain ⟨hX, hY⟩ := h.ediv_emod
  rw [← Int.toNat_of_nonneg hplace.1] at hX hY
  exact ⟨_, dif_pos hplace, hX, hY⟩

lemma voxelAt?_eq_some_iff {ix iy : ℤ} {c : PlanarVoxel} :
    voxelAt? ix iy = some c ↔ indX c = ix ∧ indY c = iy := by
  rw [voxelAt?]
  constructor
  · intro h
    split at h
    · next hinside =>
        obtain ⟨c', hplace, hind⟩ := exists_place hinside
        rw [hplace, Option.some.injEq] at h
        rw [← h]
        exact hind
    · exact absurd h nofun
  · rintro ⟨rfl, rfl⟩
    have hplace : planarVoxelWidth * indX c + indY c = c := Int.mul_ediv_add_emod _ _
    rw [if_pos (inside_voxel c), hplace, place?_cast]

/-! ## The check as a fill -/

/-- How the check spreads. -/
def spread (p : Params K) (elev : PlanarVoxel → K) (pointElev : PlanarVoxel → List K) :
    Spread PlanarVoxel where
  window c := (window ×ˢ window).filterMap fun d => voxelAt? (indX c + d.1) (indY c + d.2)
  joins a b := 0 < (pointElev b).length ∧ |elev a - elev b| < p.terrainConnThre
  bars a b := 0 < (pointElev b).length ∧ p.ceilingFilteringThre < |elev a - elev b|

lemma mem_window {d : ℤ} : d ∈ window ↔ |d| ≤ 10 := by
  simp only [window, List.mem_map, List.mem_range, abs_le]
  constructor
  · rintro ⟨i, hi, rfl⟩
    omega
  · rintro ⟨hlow, hhigh⟩
    exact ⟨(d + 10).toNat, by omega, by omega⟩

lemma mem_spread_window {p : Params K} {elev : PlanarVoxel → K} {pointElev : PlanarVoxel → List K}
    {a b : PlanarVoxel} : b ∈ (spread p elev pointElev).window a ↔ Near a b := by
  simp only [spread, List.mem_filterMap, Prod.exists, List.mem_product, mem_window,
    voxelAt?_eq_some_iff, Near]
  constructor
  · rintro ⟨dX, dY, ⟨hX, hY⟩, hbX, hbY⟩
    rw [hbX, hbY, add_sub_cancel_left, add_sub_cancel_left]
    exact ⟨hX, hY⟩
  · intro hnear
    exact ⟨indX b - indX a, indY b - indY a, hnear, by omega, by omega⟩

/-- How `planarVoxelConn` says what has become of a voxel. -/
def conn : Mark → ℤ
  | .unseen => 0
  | .queued => 1
  | .visited => 2
  | .barred => -1

/-- The variables, when a fill is under way. -/
def planar (elev : PlanarVoxel → K) (pointElev : PlanarVoxel → List K)
    (t : FloodFill.State PlanarVoxel) : Planar K where
  elev := elev
  pointElev := pointElev
  conn c := conn (t.mark c)
  queue := t.queue.map fun c : PlanarVoxel => (c : ℤ)
  pushed := t.pushed.map fun c : PlanarVoxel => (c : ℤ)

omit [Field K] [LinearOrder K] in
lemma planar_conn (elev : PlanarVoxel → K) (pointElev : PlanarVoxel → List K)
    (t : FloodFill.State PlanarVoxel) (c : PlanarVoxel) :
    (planar elev pointElev t).conn c = conn (t.mark c) := rfl

/-- Marking a voxel is an assignment. -/
lemma conn_setMark (t : FloodFill.State PlanarVoxel) (c : PlanarVoxel) (m : Mark) :
    (fun b => conn ((t.setMark c m).mark b))
      = Function.update (fun b => conn (t.mark b)) c (conn m) := by
  funext b
  rw [setMark_mark, Function.update_apply]
  exact apply_ite conn _ _ _

lemma conn_eq_zero_iff {m : Mark} : conn m = 0 ↔ m = .unseen := by
  cases m <;> decide

variable (p : Params K) (elev : PlanarVoxel → K) (pointElev : PlanarVoxel → List K)

omit [Field K] [LinearOrder K] in
lemma planar_push (t : FloodFill.State PlanarVoxel) (c : PlanarVoxel) :
    (planar elev pointElev t).push c = planar elev pointElev (t.push c) := by
  simp only [Planar.push, planar, push_queue, push_pushed, List.map_append, List.map_cons,
    List.map_nil, Planar.mk.injEq, true_and, and_true]
  exact (conn_setMark t c .queued).symm

omit [Field K] [LinearOrder K] in
lemma planar_barred (t : FloodFill.State PlanarVoxel) (c : PlanarVoxel) :
    planar elev pointElev (t.setMark c .barred)
      = { planar elev pointElev t with
          conn := Function.update (planar elev pointElev t).conn c (-1) } := by
  simp only [planar, setMark_queue, setMark_pushed, conn_setMark]
  rfl

omit [Field K] [LinearOrder K] in
lemma planar_taken (t : FloodFill.State PlanarVoxel) (c : PlanarVoxel) :
    planar elev pointElev { t.setMark c .visited with queue := t.queue.tail }
      = { planar elev pointElev t with
          conn := Function.update (planar elev pointElev t).conn c 2
          queue := (planar elev pointElev t).queue.tail } := by
  simp only [planar, setMark_pushed, conn_setMark, List.map_tail]
  rfl

lemma meetVoxel_planar (front : PlanarVoxel) (t : FloodFill.State PlanarVoxel) (c : PlanarVoxel) :
    meetVoxel p front (planar elev pointElev t) c
      = planar elev pointElev (look (spread p elev pointElev) front t c) := by
  have hunseen : (planar elev pointElev t).conn c = 0 ↔ t.mark c = .unseen := conn_eq_zero_iff
  have hpoints : (planar elev pointElev t).pointElev = pointElev := rfl
  have helev : (planar elev pointElev t).elev = elev := rfl
  simp only [meetVoxel, look, hunseen, hpoints, helev, spread, decide_eq_true_eq, planar_push]
  by_cases hseen : t.mark c = .unseen
  · by_cases hany : 0 < (pointElev c).length
    · simp only [hseen, hany, and_self, true_and, if_true, apply_ite (planar elev pointElev),
        planar_barred]
      rfl
    · simp [hany]
  · simp [hseen]

lemma lookAround_planar (front : PlanarVoxel) (t : FloodFill.State PlanarVoxel) (d : ℤ × ℤ) :
    lookAround p front (planar elev pointElev t) d
      = some (planar elev pointElev
        ((voxelAt? (indX front + d.1) (indY front + d.2)).elim t
          (look (spread p elev pointElev) front t))) := by
  have hX : (front : ℤ).tdiv planarVoxelWidth = indX front :=
    Int.tdiv_eq_ediv_of_nonneg (Int.natCast_nonneg _)
  have hY : (front : ℤ).tmod planarVoxelWidth = indY front :=
    Int.tmod_eq_emod_of_nonneg (Int.natCast_nonneg _)
  simp only [lookAround, hX, hY, voxelAt?, add_assoc]
  split
  · next hinside =>
      obtain ⟨c, hplace, -⟩ := exists_place hinside
      rw [hplace, Option.map_some, meetVoxel_planar]
      rfl
  · rfl

lemma foldlM_lookAround_planar (front : PlanarVoxel) (t : FloodFill.State PlanarVoxel)
    (offsets : List (ℤ × ℤ)) :
    offsets.foldlM (lookAround p front) (planar elev pointElev t)
      = some (planar elev pointElev
        ((offsets.filterMap fun d => voxelAt? (indX front + d.1) (indY front + d.2)).foldl
          (look (spread p elev pointElev) front) t)) := by
  induction offsets generalizing t with
  | nil => rfl
  | cons d offsets ih =>
      rw [List.foldlM_cons, lookAround_planar, Option.bind_eq_bind, Option.bind_some, ih,
        List.filterMap_cons]
      cases voxelAt? (indX front + d.1) (indY front + d.2) <;> rfl

/-- A voxel that is taken from the queue is visited. -/
lemma visitFront_planar (front : PlanarVoxel) (t : FloodFill.State PlanarVoxel) :
    visitFront p (planar elev pointElev t) front
      = some (planar elev pointElev (visit (spread p elev pointElev) front t)) := by
  rw [visitFront, place?_cast, Option.bind_some, visit]
  dsimp only
  rw [← planar_taken, foldlM_lookAround_planar]
  rfl

lemma connBody_nil {p : Params K} {s : Planar K} (h : s.queue = []) :
    connBody p s = .leave (some s) := by
  rw [connBody, h]

lemma connBody_cons {p : Params K} {s : Planar K} {front : ℤ} {rest : List ℤ}
    (h : s.queue = front :: rest) :
    connBody p s = (visitFront p s front).elim (.leave none) .again := by
  rw [connBody, h]
  dsimp only
  cases visitFront p s front <;> rfl

/-- A pass of the loop is a pass of the fill. -/
lemma connBody_planar (t : FloodFill.State PlanarVoxel) :
    connBody p (planar elev pointElev t)
      = (fillPass (spread p elev pointElev) t).map (planar elev pointElev)
        fun t => some (planar elev pointElev t) := by
  cases hqueue : t.queue with
  | nil =>
      have hempty : (planar elev pointElev t).queue = [] := by
        rw [planar, hqueue, List.map_nil]
      rw [connBody_nil hempty, fillPass, hqueue]
      rfl
  | cons front rest =>
      have hfront : (planar elev pointElev t).queue
          = (front : ℤ) :: rest.map fun c : PlanarVoxel => (c : ℤ) := by
        rw [planar, hqueue, List.map_cons]
      rw [connBody_cons hfront, visitFront_planar, fillPass, hqueue]
      rfl

omit [LinearOrder K] in
/-- The variables before the first push. -/
lemma planar_nothing (vehicleZ : K) :
    planar (groundElev p vehicleZ elev pointElev) pointElev ⟨[], fun _ => .unseen, []⟩
      = if (pointElev vehicleVoxel).length = 0 then
          { Planar.start elev pointElev with
            elev := Function.update elev vehicleVoxel (vehicleZ + p.terrainUnderVehicle) }
        else Planar.start elev pointElev := by
  rw [groundElev]
  split <;> rfl

/-- **The check is a fill** from the voxel of the vehicle. -/
theorem checkConnectivity_eq (hcheck : p.checkTerrainConn = true) (vehicleZ : K) :
    checkConnectivity p vehicleZ (Planar.start elev pointElev)
      = (fill (spread p (groundElev p vehicleZ elev pointElev) pointElev) (kPlanarVoxelNum + 1)
          (State.start vehicleVoxel)).map
        fun t => some (planar (groundElev p vehicleZ elev pointElev) pointElev t) := by
  have hvehicle : place? (planarVoxelWidth * planarVoxelHalfWidth + planarVoxelHalfWidth)
      = some vehicleVoxel := place?_cast vehicleVoxel
  rw [checkConnectivity, if_pos hcheck, hvehicle, fill,
    ← loop_map _ _ (connBody_planar p (groundElev p vehicleZ elev pointElev) pointElev),
    State.start, ← planar_push]
  dsimp only
  rw [planar_nothing]
  rfl

/-! ## What the check finds -/

variable {elev pointElev}

/-- A step of a chain of voxels: to a voxel with points, near and at nearly the same elevation. -/
def Step (p : Params K) (elev : PlanarVoxel → K) (pointElev : PlanarVoxel → List K)
    (a b : PlanarVoxel) : Prop :=
  0 < (pointElev b).length ∧ Near a b ∧ |elev a - elev b| < p.terrainConnThre

instance (p : Params K) (elev : PlanarVoxel → K) (pointElev : PlanarVoxel → List K) :
    DecidableRel (Step p elev pointElev) :=
  fun _ _ => inferInstanceAs (Decidable (_ ∧ (_ ∧ _) ∧ _))

lemma linked_iff {p : Params K} {a b : PlanarVoxel} :
    Linked (spread p elev pointElev) a b ↔ Step p elev pointElev a b := by
  rw [Linked, mem_spread_window, Step]
  simp only [spread, decide_eq_true_eq]
  exact and_left_comm

/-- A voxel was taken for ceiling by a voxel that was visited. -/
def TakenForCeiling (p : Params K) (s : Planar K) (b : PlanarVoxel) : Prop :=
  s.conn b = -1 ∧ ∃ a, s.conn a = 2 ∧ Near a b ∧ p.ceilingFilteringThre < |s.elev a - s.elev b|

/-- The check comes to the end of its fill. -/
lemma checkConnectivity_filled (p : Params K) (hcheck : p.checkTerrainConn = true) (vehicleZ : K)
    (elev : PlanarVoxel → K) (pointElev : PlanarVoxel → List K) :
    ∃ t, checkConnectivity p vehicleZ (Planar.start elev pointElev)
        = some (some (planar (groundElev p vehicleZ elev pointElev) pointElev t)) ∧
      Filled (spread p (groundElev p vehicleZ elev pointElev) pointElev) vehicleVoxel t := by
  have htotal := fill_total (spread p (groundElev p vehicleZ elev pointElev) pointElev) vehicleVoxel
  rw [Fintype.card_fin] at htotal
  obtain ⟨t, hfill, hfilled⟩ := htotal
  refine ⟨t, ?_, hfilled⟩
  rw [checkConnectivity_eq p elev pointElev hcheck vehicleZ]
  exact congrArg (Option.map _) hfill

lemma conn_eq_one_iff {m : Mark} : conn m = 1 ↔ m = .queued := by
  cases m <;> decide

lemma conn_eq_two_iff {m : Mark} : conn m = 2 ↔ m = .visited := by
  cases m <;> decide

/-- **The check terminates and is sound.**  It comes to an end without leaving the arrays; each
voxel has been pushed once at most, the queue is empty, and none is left that was pushed and not
visited; and each voxel that has been visited is at the end of a chain of steps from the vehicle's
voxel.  The steps are those of the elevations that were given, but for the vehicle's own voxel if
that is empty. -/
theorem visited_linked (p : Params K) (vehicleZ : K) (elev : PlanarVoxel → K)
    (pointElev : PlanarVoxel → List K) :
    ∃ s, checkConnectivity p vehicleZ (Planar.start elev pointElev) = some (some s) ∧
      (p.checkTerrainConn = true → s.elev = groundElev p vehicleZ elev pointElev) ∧
      s.pushed.Nodup ∧ s.queue = [] ∧ (∀ c, s.conn c ≠ 1) ∧
      ∀ c, s.conn c = 2 → ∃ chain,
        (vehicleVoxel :: chain).IsChain (Step p (groundElev p vehicleZ elev pointElev) pointElev) ∧
        (vehicleVoxel :: chain).getLast (List.cons_ne_nil _ _) = c := by
  by_cases hcheck : p.checkTerrainConn = true
  · obtain ⟨t, hend, hfilled⟩ := checkConnectivity_filled p hcheck vehicleZ elev
      pointElev
    refine ⟨_, hend, fun _ => rfl, ?_, ?_, ?_, ?_⟩
    · exact hfilled.pushed_nodup.map fun a b h => Fin.ext (Int.ofNat_inj.mp h)
    · rw [planar, hfilled.queue_empty, List.map_nil]
    · intro c hc
      rw [planar_conn, conn_eq_one_iff] at hc
      exact hfilled.mark_ne_queued c hc
    · intro c hc
      rw [planar_conn, conn_eq_two_iff] at hc
      have hlinked := hfilled.linked c ((hfilled.mem_pushed c).mpr (Or.inr hc))
      exact List.exists_isChain_cons_of_relationReflTransGen
        (Relation.ReflTransGen.mono (fun a b => linked_iff.mp) vehicleVoxel c hlinked)
  · refine ⟨Planar.start elev pointElev, ?_, fun h => absurd h hcheck, List.nodup_nil, rfl, ?_, ?_⟩
    · rw [checkConnectivity, if_neg hcheck]
    · exact fun c => Int.zero_ne_one
    · exact fun c (hc : (0 : ℤ) = 2) => absurd hc (by decide)

/-- **Connected terrain is found, but for the ceiling.**  The check comes to an end, and then all
voxels of every chain of steps from the vehicle's voxel have been visited, or one of them was taken
for ceiling. -/
theorem connected_or_ceiling (p : Params K) (hcheck : p.checkTerrainConn = true) (vehicleZ : K)
    (elev : PlanarVoxel → K) (pointElev : PlanarVoxel → List K) :
    ∃ s, checkConnectivity p vehicleZ (Planar.start elev pointElev) = some (some s) ∧
      s.elev = groundElev p vehicleZ elev pointElev ∧ s.conn vehicleVoxel = 2 ∧
        ∀ chain, (vehicleVoxel :: chain).IsChain (Step p s.elev pointElev) →
          (∀ c ∈ chain, s.conn c = 2) ∨ ∃ b ∈ chain, TakenForCeiling p s b := by
  obtain ⟨t, hend, hfilled⟩ := checkConnectivity_filled p hcheck vehicleZ elev
    pointElev
  refine ⟨_, hend, rfl, ?_, ?_⟩
  · rw [planar_conn, hfilled.visited_start]
    rfl
  · intro chain hchain
    have hlinks := hchain.imp fun a b h => linked_iff.mpr h
    rcases hfilled.visited_or_barred hfilled.visited_start hlinks with hall | ⟨b, hb, hbarred⟩
    · left
      intro c hc
      rw [planar_conn, hall c hc]
      rfl
    · right
      obtain ⟨a, ha, hwindow, hbars⟩ := hfilled.barred b hbarred
      refine ⟨b, hb, ?_, a, ?_, mem_spread_window.mp hwindow, (of_decide_eq_true hbars).2⟩
      · rw [planar_conn, hbarred]
        rfl
      · rw [planar_conn, ha]
        rfl

/-- On flat ground. -/
theorem connected_or_ceiling_flat :
    ∃ s, checkConnectivity Params.declared (0 : ℚ) (Planar.start (fun _ => 0) fun _ => [0])
        = some (some s) ∧
      s.elev = groundElev Params.declared 0 (fun _ => 0) (fun _ => [0]) ∧ s.conn vehicleVoxel = 2 ∧
        ∀ chain, (vehicleVoxel :: chain).IsChain (Step Params.declared s.elev fun _ => [0]) →
          (∀ c ∈ chain, s.conn c = 2) ∨ ∃ b ∈ chain, TakenForCeiling Params.declared s b :=
  connected_or_ceiling Params.declared rfl 0 _ _

/-- A ramp that leads away from the vehicle: six voxels, each two fifths higher than the one
before. -/
def rampElev (c : PlanarVoxel) : ℚ := (indX c - planarVoxelHalfWidth) * (2 / 5)

def onRamp (c : PlanarVoxel) : Bool := indY c = planarVoxelHalfWidth ∧
  planarVoxelHalfWidth ≤ indX c ∧ indX c ≤ planarVoxelHalfWidth + 6

def rampPoints (c : PlanarVoxel) : List ℚ := if onRamp c then [rampElev c] else []

def rampVoxel (k : Fin 7) : PlanarVoxel :=
  ⟨planarVoxelWidth * (planarVoxelHalfWidth + k) + planarVoxelHalfWidth, by revert k; decide⟩

/-- The voxels of the ramp beyond that of the vehicle. -/
def ramp : List PlanarVoxel := (List.finRange 7).tail.map rampVoxel

lemma isChain_ramp : (vehicleVoxel :: ramp).IsChain
    (Step Params.declared (groundElev Params.declared 0 rampElev rampPoints) rampPoints) := by
  decide +kernel

lemma conn_ramp_top : (checkConnectivity Params.declared 0 (Planar.start rampElev rampPoints)).map
    (fun o => o.map fun s => s.conn (rampVoxel 6)) = some (some (-1)) := by
  decide +kernel

/-- **A steep ramp.**  With the parameters as declared, the upper end of a ramp is linked to the
vehicle's voxel by steps of two fifths, and is taken for ceiling. -/
theorem steep_ramp :
    ¬ ∀ (p : Params ℚ) (vehicleZ : ℚ) (elev : PlanarVoxel → ℚ) (pointElev : PlanarVoxel → List ℚ),
      p.checkTerrainConn = true → 0 < p.terrainConnThre →
      p.terrainConnThre ≤ p.ceilingFilteringThre →
        ∃ s, checkConnectivity p vehicleZ (Planar.start elev pointElev) = some (some s) ∧
          s.elev = groundElev p vehicleZ elev pointElev ∧
            ∀ chain, (vehicleVoxel :: chain).IsChain (Step p s.elev pointElev) →
              ∀ c ∈ chain, s.conn c = 2 := by
  intro hfound
  obtain ⟨s, hs, helev, hall⟩ := hfound Params.declared 0 rampElev rampPoints rfl
    (by decide +kernel) (by decide +kernel)
  have htop := conn_ramp_top
  simp only [hs, Option.map_some, Option.some.injEq] at htop
  rw [helev] at hall
  have htwo := hall ramp isChain_ramp (rampVoxel 6) (by decide)
  rw [htop] at htwo
  exact absurd htwo (by decide)

end SentryNav.TerrainAnalysisExt
