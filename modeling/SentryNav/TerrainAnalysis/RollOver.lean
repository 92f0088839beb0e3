import SentryNav.TerrainAnalysis.Grid

/-!
# Rolling the grid over

A pass of one of the four loops moves all rows or all columns along by one voxel.  `Rolled` says
what the passes do together: the shifts change, the pointers are permuted, and the grid shows what
it showed before, from a window that has moved along.  It holds of one pass (`rolled_left` and the
others), of the passes of a loop (`rolled_iterate`), and of the four loops (`rollOver_spec`).
-/

namespace SentryNav.TerrainAnalysis

open Loop PointerArray Raster

/-! ## Cells -/

variable {width : ℕ}

lemma cell_injective2 : Function.Injective2 (cell : Fin width → Fin width → _) := by
  rintro a a' b b' h
  have hval : width * (a : ℕ) + b = width * a' + b' := congrArg Fin.val h
  have hmod : (b : ℕ) = b' := by
    have := congrArg (· % width) hval
    simpa [Nat.mul_add_mod, Nat.mod_eq_of_lt] using this
  have hmul : width * (a : ℕ) = width * a' := by omega
  have hpos : 0 < width := Fin.pos a
  exact ⟨Fin.ext (Nat.eq_of_mul_eq_mul_left hpos hmul), Fin.ext hmod⟩

lemma exists_cell (ind : Fin (width * width)) : ∃ a b, cell a b = ind :=
  ⟨ind.divNat, ind.modNat, Fin.ext (Nat.div_add_mod _ _)⟩

lemma cell?_cast (a b : Fin width) : cell? width (a : ℤ) (b : ℤ) = some (cell a b) := by
  rw [cell?, dif_pos (inside_cast a b)]
  simp

lemma cell?_eq_some {ix iy : ℤ} {a b : Fin width} (h : cell? width ix iy = some (cell a b)) :
    ix = a ∧ iy = b := by
  rw [cell?] at h
  split_ifs at h with hinside
  obtain ⟨hx, hy⟩ := cell_injective2 (Option.some.inj h)
  simp only [← hx, ← hy, Int.toNat_of_nonneg hinside.1, Int.toNat_of_nonneg hinside.2.2.1,
    and_self]

lemma cell?_of_outside {ix iy : ℤ} (h : ¬ Inside width ix iy) : cell? width ix iy = none :=
  dif_neg h

/-- Rows or columns, by an addressing that tells all places apart, share no cell. -/
lemma nodup_strips {place : Fin width → Fin width → Fin (width * width)}
    (h : Function.Injective2 place) : (strips place).flatten.Nodup := by
  rw [strips, List.nodup_flatten]
  constructor
  · intro strip hstrip
    obtain ⟨across, _, rfl⟩ := List.mem_map.mp hstrip
    exact (List.nodup_finRange width).map fun a a' heq => (h heq).1
  · rw [List.pairwise_map]
    refine (List.nodup_finRange width).imp fun {b b'} hne => ?_
    refine List.disjoint_left.mpr ?_
    rintro x hx hx'
    obtain ⟨a, _, rfl⟩ := List.mem_map.mp hx
    obtain ⟨a', _, heq⟩ := List.mem_map.mp hx'
    exact hne (h heq).2.symm

/-! ## What the grid shows -/

/-- What is at a place of the grid. -/
def view {β : Type*} (c : Cells (Fin (width * width)) ℕ β) (empty : β) (ix iy : ℤ) : β :=
  (cell? width ix iy).elim empty c.deref

section View

variable {β : Type*} {c : Cells (Fin (width * width)) ℕ β} {empty : β}

lemma view_cast (c : Cells (Fin (width * width)) ℕ β) (empty : β) (a b : Fin width) :
    view c empty a b = c.deref (cell a b) := by
  rw [view, cell?_cast]
  rfl

/-- What is seen is in a cell. -/
lemma exists_of_mem_view {α : Type*} {c : Cells (Fin (width * width)) ℕ (List α)} {ix iy : ℤ}
    {x : α} (h : x ∈ view c [] ix iy) :
    ∃ a b : Fin width, ix = a ∧ iy = b ∧ x ∈ c.deref (cell a b) := by
  by_cases hinside : Inside width ix iy
  · obtain ⟨a, b, rfl, rfl⟩ := hinside.exists_fin
    exact ⟨a, b, rfl, rfl, by rwa [view_cast] at h⟩
  · rw [view, cell?_of_outside hinside] at h
    exact absurd h List.not_mem_nil

lemma framed_view : Framed width empty (view c empty) := by
  intro ix iy houtside
  rw [view, cell?_of_outside houtside]
  rfl

/-- Moving all rows or all columns along moves the window. -/
lemma view_recycleAll {place : Fin width → Fin width → Fin (width * width)} {kx ky : ℤ}
    (hplace : Function.Injective2 place)
    (hcell : ∀ a b, ∃ along across, cell a b = place along across ∧
      cell? width (a + kx) (b + ky)
        = if h : along + 1 < width then some (place ⟨along + 1, h⟩ across) else none)
    (hinj : Function.Injective c.ptr) :
    view (c.recycleAll empty (strips place)) empty = slide width empty kx ky (view c empty) := by
  funext ix iy
  rw [slide]
  split_ifs with hinside
  · obtain ⟨a, b, rfl, rfl⟩ := hinside.exists_fin
    obtain ⟨along, across, heq, hnext⟩ := hcell a b
    have hstrip : (List.finRange width).map (fun along => place along across) ∈ strips place :=
      List.mem_map_of_mem (List.mem_finRange across)
    have hlt : (along : ℕ)
        < ((List.finRange width).map fun along => place along across).length := by
      simp
    have hmoved : (c.recycleAll empty (strips place)).deref _ = _ :=
      deref_recycleAll (nodup_strips hplace) hinj hstrip hlt
    simp only [List.getElem_map, List.getElem_finRange, List.length_map, List.length_finRange,
      Fin.cast_mk, Fin.eta] at hmoved
    rw [view_cast, heq, view, hnext, hmoved]
    split_ifs <;> rfl
  · exact framed_view ix iy hinside

end View

/-! ## Passes -/

/-- What one or more passes have done: the grid has moved by some columns and rows. -/
structure Rolled {K : Type*} (kx ky : ℤ) (t t' : Terrain K width) : Prop where
  shiftX : t'.shiftX = t.shiftX + kx
  shiftY : t'.shiftY = t.shiftY + ky
  ptr : ∃ σ : Equiv.Perm (Fin (width * width)), t'.cells.ptr = t.cells.ptr ∘ σ
  clouds : Function.Injective t.cells.ptr →
    view t'.cells [] = slide width [] kx ky (view t.cells [])
  history : Function.Injective t.cells.ptr →
    view t'.history .new = slide width .new kx ky (view t.history .new)
  updateNum : t'.updateNum = t.updateNum
  updateTime : t'.updateTime = t.updateTime

section Passes

variable {K : Type*} {t t' t'' : Terrain K width} {kx ky lx ly : ℤ}

lemma Rolled.injective (h : Rolled kx ky t t') (hinj : Function.Injective t.cells.ptr) :
    Function.Injective t'.cells.ptr := by
  obtain ⟨σ, hptr⟩ := h.ptr
  rw [hptr]
  exact hinj.comp σ.injective

/-- What a cell holds afterwards. -/
lemma Rolled.deref (h : Rolled kx ky t t') (hinj : Function.Injective t.cells.ptr)
    (a b : Fin width) : t'.cells.deref (cell a b) = view t.cells [] (a + kx) (b + ky) := by
  rw [← view_cast t'.cells [], h.clouds hinj, slide, if_pos (inside_cast a b)]

/-- The history of what a cell holds afterwards. -/
lemma Rolled.deref_history (h : Rolled kx ky t t') (hinj : Function.Injective t.cells.ptr)
    (a b : Fin width) : t'.history.deref (cell a b) = view t.history .new (a + kx) (b + ky) := by
  rw [← view_cast t'.history .new, h.history hinj, slide, if_pos (inside_cast a b)]

lemma Rolled.refl (t : Terrain K width) : Rolled 0 0 t t where
  shiftX := by simp
  shiftY := by simp
  ptr := ⟨1, rfl⟩
  clouds _ := (slide_zero framed_view).symm
  history _ := (slide_zero framed_view).symm
  updateNum := rfl
  updateTime := rfl

/-- Moving on in one direction. -/
lemma Rolled.trans (h : Rolled kx ky t t') (h' : Rolled lx ly t' t'') (hx : SameWay lx kx)
    (hy : SameWay ly ky) : Rolled (lx + kx) (ly + ky) t t'' where
  shiftX := by rw [h'.shiftX, h.shiftX]; ring
  shiftY := by rw [h'.shiftY, h.shiftY]; ring
  ptr := by
    obtain ⟨σ, hσ⟩ := h.ptr
    obtain ⟨τ, hτ⟩ := h'.ptr
    refine ⟨σ * τ, ?_⟩
    rw [hτ, hσ]
    rfl
  clouds hinj := by
    rw [h'.clouds (h.injective hinj), h.clouds hinj, slide_slide framed_view hx hy]
  history hinj := by
    rw [h'.history (h.injective hinj), h.history hinj, slide_slide framed_view hx hy]
  updateNum := h'.updateNum.trans h.updateNum
  updateTime := h'.updateTime.trans h.updateTime

/-! ### One pass -/

/-- One place further along, counted from the far end. -/
lemma cast_rev_next (a : Fin width) (h : (a.rev : ℕ) + 1 < width) :
    (a : ℤ) + -1 = ((Fin.rev ⟨a.rev + 1, h⟩ : Fin width) : ℕ) := by
  simp only [Fin.val_rev] at h ⊢
  omega

lemma history_recycle (t : Terrain K width) (strip : List (Fin (width * width))) :
    (t.recycle strip).history = t.history.recycle .new strip := by
  cases strip with
  | nil => rfl
  | cons first rest =>
      simp only [Terrain.history, Terrain.recycle, Cells.recycle, List.head?_cons, Option.map_some,
        Option.toList_some, List.singleton_append]
      congr 1
      funext cloud
      simp only [historyOf, Function.update_apply, eq_comm (a := cloud)]

/-- The passes over the strips, field by field. -/
lemma foldl_recycle (strips : List (List (Fin (width * width)))) (t : Terrain K width) :
    (strips.foldl Terrain.recycle t).cells = t.cells.recycleAll [] strips ∧
      (strips.foldl Terrain.recycle t).history = t.history.recycleAll .new strips ∧
      (strips.foldl Terrain.recycle t).shiftX = t.shiftX ∧
      (strips.foldl Terrain.recycle t).shiftY = t.shiftY ∧
      (strips.foldl Terrain.recycle t).updateNum = t.updateNum ∧
      (strips.foldl Terrain.recycle t).updateTime = t.updateTime := by
  induction strips generalizing t with
  | nil => exact ⟨rfl, rfl, rfl, rfl, rfl, rfl⟩
  | cons strip strips ih =>
      obtain ⟨hcells, hhistory, hX, hY, hnum, htime⟩ := ih (t.recycle strip)
      refine ⟨hcells, ?_, hX, hY, hnum, htime⟩
      rw [List.foldl_cons, hhistory, history_recycle]
      rfl

/-- A pass that moves all rows or all columns along by one voxel. -/
lemma rolled_strips (place : Fin width → Fin width → Fin (width * width))
    (hplace : Function.Injective2 place) {x y : ℤ}
    (hcell : ∀ a b, ∃ along across, cell a b = place along across ∧
      cell? width (a + kx) (b + ky)
        = if h : along + 1 < width then some (place ⟨along + 1, h⟩ across) else none)
    (hX : x = t.shiftX + kx) (hY : y = t.shiftY + ky) :
    Rolled kx ky t { (strips place).foldl Terrain.recycle t with shiftX := x, shiftY := y } := by
  obtain ⟨hcells, hhistory, _, _, hnum, htime⟩ := foldl_recycle (strips place) t
  refine ⟨hX, hY, ?_, ?_, ?_, hnum, htime⟩
  · obtain ⟨σ, hσ, _⟩ := recycleAll_ptr (nodup_strips hplace) t.cells
    exact ⟨σ, by rw [hcells, hσ]⟩
  · intro hinj
    rw [hcells, view_recycleAll hplace hcell hinj]
  · intro hinj
    have hhistories : Function.Injective t.history.ptr := hinj
    exact (congrArg (view · .new) hhistory).trans (view_recycleAll hplace hcell hhistories)

/-- The shift across the direction of a pass stays. -/
lemma foldl_recycle_shift (strips : List (List (Fin (width * width)))) (t : Terrain K width) :
    (strips.foldl Terrain.recycle t).shiftX = t.shiftX + 0 ∧
      (strips.foldl Terrain.recycle t).shiftY = t.shiftY + 0 := by
  obtain ⟨_, _, hX, hY, _⟩ := foldl_recycle strips t
  rw [hX, hY, add_zero, add_zero]
  exact ⟨rfl, rfl⟩

lemma rolled_right (t : Terrain K width) : Rolled 1 0 t t.rollRight := by
  refine rolled_strips (fun along indY => cell along indY) cell_injective2 ?_ rfl
    (foldl_recycle_shift _ t).2
  intro a b
  refine ⟨a, b, rfl, ?_⟩
  split_ifs with hnext
  · rw [add_zero]
    exact cell?_cast ⟨a + 1, hnext⟩ b
  · refine cell?_of_outside fun hinside => hnext ?_
    simp only [Inside] at hinside
    omega

lemma rolled_left (t : Terrain K width) : Rolled (-1) 0 t t.rollLeft := by
  refine rolled_strips (fun along indY => cell along.rev indY) ?_ ?_ rfl
    (foldl_recycle_shift _ t).2
  · rintro a a' b b' h
    obtain ⟨hrev, hb⟩ := cell_injective2 h
    exact ⟨Fin.rev_injective hrev, hb⟩
  · intro a b
    refine ⟨a.rev, b, by rw [Fin.rev_rev], ?_⟩
    split_ifs with hnext
    · rw [cast_rev_next a hnext, add_zero]
      exact cell?_cast _ b
    · refine cell?_of_outside fun hinside => hnext ?_
      simp only [Inside, Fin.val_rev] at hinside ⊢
      omega

lemma rolled_up (t : Terrain K width) : Rolled 0 1 t t.rollUp := by
  refine rolled_strips (fun along indX => cell indX along) ?_ ?_ (foldl_recycle_shift _ t).1 rfl
  · rintro a a' b b' h
    exact (cell_injective2 h).symm
  · intro a b
    refine ⟨b, a, rfl, ?_⟩
    split_ifs with hnext
    · rw [add_zero]
      exact cell?_cast a ⟨b + 1, hnext⟩
    · refine cell?_of_outside fun hinside => hnext ?_
      simp only [Inside] at hinside
      omega

lemma rolled_down (t : Terrain K width) : Rolled 0 (-1) t t.rollDown := by
  refine rolled_strips (fun along indX => cell indX along.rev) ?_ ?_ (foldl_recycle_shift _ t).1 rfl
  · rintro a a' b b' h
    obtain ⟨hb, hrev⟩ := cell_injective2 h
    exact ⟨Fin.rev_injective hrev, hb⟩
  · intro a b
    refine ⟨b.rev, a, by rw [Fin.rev_rev], ?_⟩
    split_ifs with hnext
    · rw [cast_rev_next b hnext, add_zero]
      exact cell?_cast a _
    · refine cell?_of_outside fun hinside => hnext ?_
      simp only [Inside, Fin.val_rev] at hinside ⊢
      omega

/-! ### The passes of a loop -/

lemma rolled_iterate {step : Terrain K width → Terrain K width}
    (h : ∀ t, Rolled kx ky t (step t)) (t : Terrain K width) (n : ℕ) :
    Rolled (n * kx) (n * ky) t (step^[n] t) := by
  induction n with
  | zero => simpa using Rolled.refl t
  | succ n ih =>
      have hx : ((n + 1 : ℕ) : ℤ) * kx = kx + n * kx := by push_cast; ring
      have hy : ((n + 1 : ℕ) : ℤ) * ky = ky + n * ky := by push_cast; ring
      rw [Function.iterate_succ_apply', hx, hy]
      exact ih.trans (h _) (sameWay_mul n kx) (sameWay_mul n ky)

/-- Passes to the one side, or else to the other. -/
lemma rolled_axis {back forth : Terrain K width → Terrain K width}
    (hback : ∀ t, Rolled (-kx) (-ky) t (back t)) (hforth : ∀ t, Rolled kx ky t (forth t))
    (t : Terrain K width) {n m : ℕ} (h : n = 0 ∨ m = 0) :
    Rolled ((m - n) * kx) ((m - n) * ky) t (forth^[m] (back^[n] t)) := by
  have hsame : ∀ k : ℤ, SameWay ((m : ℤ) * k) (n * -k) := by
    intro k
    rcases h with rfl | rfl
    · simpa using sameWay_zero _
    · simpa using zero_sameWay _
  have hsum : ∀ k : ℤ, ((m : ℤ) - n) * k = m * k + n * -k := fun k => by ring
  rw [hsum, hsum]
  exact (rolled_iterate hback t n).trans (rolled_iterate hforth _ m) (hsame kx) (hsame ky)

end Passes

/-! ## The four loops -/

section RollOver

variable {K : Type*} [Field K] [LinearOrder K] [IsStrictOrderedRing K] [FloorRing K] (g : Grid K)

/-- The voxels by which the grid moves along an axis. -/
def Grid.rollSteps (vehicle : K) (shift : ℤ) : ℤ :=
  approach g.voxelSize (vehicle - g.voxelSize * shift)

/-- The two loops along an axis: both end, at most one of them moves the grid, and the vehicle is
within a voxel of the centre then. -/
lemma axis_loops {shift : Terrain K g.width → ℤ} {down up : Terrain K g.width → Terrain K g.width}
    (hdown : ∀ t, shift (down t) = shift t - 1) (hup : ∀ t, shift (up t) = shift t + 1)
    (vehicle : K) (t : Terrain K g.width) :
    ∃ n m : ℕ,
      loop (whileBody (fun t => vehicle - g.voxelSize * shift t < -g.voxelSize) down)
        (g.fuel vehicle (shift t)) t = some (down^[n] t) ∧
      loop (whileBody (fun t => g.voxelSize < vehicle - g.voxelSize * shift t) up)
        (g.fuel vehicle (shift (down^[n] t))) (down^[n] t) = some (up^[m] (down^[n] t)) ∧
      |vehicle - g.voxelSize * shift (up^[m] (down^[n] t))| ≤ g.voxelSize ∧
      (m : ℤ) - n = g.rollSteps vehicle (shift t) ∧ (n = 0 ∨ m = 0) := by
  let off (t : Terrain K g.width) : K := vehicle - g.voxelSize * shift t
  have hstep : ∀ t, -off (down t) = -off t - g.voxelSize := by
    intro t
    simp only [off, hdown]
    push_cast
    ring
  have hstep' : ∀ t, off (up t) = off t - g.voxelSize := by
    intro t
    simp only [off, hup]
    push_cast
    ring
  obtain ⟨n, hloop, hnear, hnot⟩ := while_approach (fun t => -off t) g.voxelSize_pos
    (fun t => lt_neg (a := off t)) hstep (s := t)
    (show _ < g.fuel vehicle (shift t) by rw [abs_neg]; exact Nat.lt_succ_self _)
  obtain ⟨m, hloop', hnear', hnot'⟩ := while_approach off g.voxelSize_pos (fun t => Iff.rfl) hstep'
    (s := down^[n] t) (Nat.lt_succ_self _)
  have hmid : off (down^[n] t) = off t + n * g.voxelSize := by
    have := distance_iterate (fun t => -off t) hstep t n
    linarith
  have hend := distance_iterate off hstep' (down^[n] t) m
  rw [hmid] at hnear' hnot' hend
  obtain ⟨hsteps, hone⟩ := approach_eq g.voxelSize_pos hnear hnot hnear' hnot'
  refine ⟨n, m, hloop, hloop', ?_, hsteps, hone⟩
  change |off _| ≤ _
  rw [hend]
  exact abs_le_of_approached g.voxelSize_pos hnear hnear' hnot'

/-- **What the roll-over does**: its loops end, the grid has moved by the voxels that bring the
vehicle within a voxel of the centre, and it shows what it showed before. -/
theorem rollOver_spec (vehicleX vehicleY : K) (t : Terrain K g.width) :
    ∃ t', g.rollOver vehicleX vehicleY t = some t' ∧
      Rolled (g.rollSteps vehicleX t.shiftX) (g.rollSteps vehicleY t.shiftY) t t' ∧
      |vehicleX - g.voxelSize * t'.shiftX| ≤ g.voxelSize ∧
      |vehicleY - g.voxelSize * t'.shiftY| ≤ g.voxelSize := by
  obtain ⟨n, m, hleft, hright, hx, hstepsX, honeX⟩ := axis_loops g
    (fun t => (rolled_left t).shiftX) (fun t => (rolled_right t).shiftX) vehicleX t
  have hrolledX := rolled_axis rolled_left rolled_right t honeX
  generalize hmid : Terrain.rollRight^[m] (Terrain.rollLeft^[n] t) = mid at hright hx hrolledX
  obtain ⟨k, l, hdown, hup, hy, hstepsY, honeY⟩ := axis_loops g
    (fun t => (rolled_down t).shiftY) (fun t => (rolled_up t).shiftY) vehicleY mid
  have hrolledY := rolled_axis rolled_down rolled_up mid honeY
  generalize hlast : Terrain.rollUp^[l] (Terrain.rollDown^[k] mid) = t' at hup hy hrolledY
  rw [hstepsX, mul_one, mul_zero] at hrolledX
  rw [hstepsY, hrolledX.shiftY, add_zero, mul_one, mul_zero] at hrolledY
  refine ⟨t', ?_, ?_, ?_, hy⟩
  · simp only [Grid.rollOver, hleft, hright, hdown, hup, Option.bind_eq_bind, Option.bind_some]
  · have hboth := hrolledX.trans hrolledY (zero_sameWay _) (sameWay_zero _)
    rwa [zero_add, add_zero] at hboth
  · rwa [hrolledY.shiftX, add_zero]

/-- A roll-over as it should be. -/
structure RolledOver (vehicleX vehicleY : K) (t t' : Terrain K g.width) : Prop where
  /-- The vehicle is within a voxel of the centre. -/
  centredX : |vehicleX - g.voxelSize * t'.shiftX| ≤ g.voxelSize
  centredY : |vehicleY - g.voxelSize * t'.shiftY| ≤ g.voxelSize
  /-- No cloud is lost. -/
  permuted : ∃ σ : Equiv.Perm (Fin (g.width * g.width)), t'.cells.ptr = t.cells.ptr ∘ σ
  /-- No two cells share a cloud. -/
  unshared : Function.Injective t'.cells.ptr
  /-- A cell holds what was in the cell by which the grid has moved, if there was one. -/
  moved : ∀ indX indY : Fin g.width, t'.cells.deref (cell indX indY)
    = (cell? g.width (indX + (t'.shiftX - t.shiftX)) (indY + (t'.shiftY - t.shiftY))).elim []
        t.cells.deref

/-- **Roll-over correctness**, from any shifts and for any position of the vehicle. -/
theorem rollOver_correct (vehicleX vehicleY : K) (t : Terrain K g.width)
    (hunshared : Function.Injective t.cells.ptr) :
    ∃ t', g.rollOver vehicleX vehicleY t = some t' ∧ RolledOver g vehicleX vehicleY t t' := by
  obtain ⟨t', hrun, hrolled, hx, hy⟩ := rollOver_spec g vehicleX vehicleY t
  refine ⟨t', hrun, hx, hy, hrolled.ptr, hrolled.injective hunshared, ?_⟩
  intro indX indY
  rw [hrolled.deref hunshared, hrolled.shiftX, hrolled.shiftY, add_sub_cancel_left,
    add_sub_cancel_left]
  rfl

end RollOver

lemma init_unshared (K : Type*) [Zero K] (width : ℕ) :
    Function.Injective (Terrain.init K width).cells.ptr := Fin.val_injective

/-- A grid with a point of its own in each cell, some way from where it began. -/
def planted (width : ℕ) : Terrain ℚ width :=
  { Terrain.init ℚ width with
    shiftX := 2
    shiftY := -1
    cells := { ptr := fun ind => ind, obj := fun cloud => [⟨cloud, 0, 0, 0⟩] } }

/-- The grids of the two programs, with points in all cells, for a vehicle that has gone on a little
and for one that has gone far. -/
theorem rollOver_correct_planted :
    (∃ t', (Grid.terrainAnalysis ℚ).rollOver (9 / 2) (-3) (planted _) = some t' ∧
      RolledOver (Grid.terrainAnalysis ℚ) (9 / 2) (-3) (planted _) t') ∧
    ∃ t', (Grid.terrainAnalysisExt ℚ).rollOver (-7) 200 (planted _) = some t' ∧
      RolledOver (Grid.terrainAnalysisExt ℚ) (-7) 200 (planted _) t' :=
  ⟨rollOver_correct _ _ _ _ (init_unshared ℚ _), rollOver_correct _ _ _ _ (init_unshared ℚ _)⟩

end SentryNav.TerrainAnalysis
