import SentryNav.Core.Recency
import SentryNav.PointLio.IVox

/-!
# What the voxel map holds

The list, the map with its iterators and the capacity together make a store that forgets the voxels
used least recently.  `addPoints_history` is that no iterator ever dangles, and says from the points
added which voxels are there, in which order, and what is in each of them.
-/

namespace SentryNav.PointLio

open Recency

variable {K : Type*} [Field K] [LinearOrder K]

/-! ## The list and the map -/

/-- What the map has for a list node. -/
def CacheNode.entry (n : CacheNode K) : Sigma fun _ : KeyType => ℕ := ⟨n.key, n.address⟩

/-- The map finds the list nodes, each of them once. -/
structure Linked (v : IVox K) : Prop where
  entries : v.gridsMap.entries.Perm (v.gridsCache.map CacheNode.entry)
  addresses : (v.gridsCache.map CacheNode.address).Nodup
  allocated : ∀ n ∈ v.gridsCache, n.address < v.allocated

/-- Besides, there are not more list nodes than there is room for. -/
structure Synced (v : IVox K) : Prop extends Linked v where
  room : v.gridsCache.length ≤ v.options.capacity - 1

variable {v : IVox K}

lemma synced_make [FloorRing K] (options : Options K) : Synced (IVox.make options) where
  entries := .refl _
  addresses := List.nodup_nil
  allocated _ hn := absurd hn List.not_mem_nil
  room := Nat.zero_le _

omit [Field K] [LinearOrder K] in
lemma Linked.keys_nodup (h : Linked v) : (v.gridsCache.map CacheNode.key).Nodup := by
  have hkeys := (h.entries.map Sigma.fst).nodup_iff.mp v.gridsMap.nodupKeys
  rwa [List.map_map] at hkeys

omit [Field K] [LinearOrder K] in
/-- The map has a key for each list node. -/
lemma Linked.size (h : Linked v) : v.gridsMap.keys.length = v.gridsCache.length := by
  have hlength := h.entries.length_eq
  rwa [List.length_map, ← List.length_map (f := Sigma.fst)] at hlength

omit [Field K] [LinearOrder K] in
lemma Linked.lookup_iff (h : Linked v) (key : KeyType) (it : ℕ) :
    v.gridsMap.lookup key = some it ↔ ∃ n ∈ v.gridsCache, n.key = key ∧ n.address = it := by
  have hmem := AList.mem_lookup_iff (s := v.gridsMap) (a := key) (b := it)
  rw [Option.mem_def, h.entries.mem_iff, List.mem_map] at hmem
  rw [hmem]
  refine exists_congr fun n => and_congr_right fun _ => ?_
  rw [CacheNode.entry, Sigma.mk.injEq, heq_eq_eq]

omit [Field K] [LinearOrder K] in
/-- A new list node, with an address of its own. -/
lemma Linked.push (h : Linked v) {key : KeyType} (hkey : v.gridsMap.lookup key = none)
    (node : IVoxNode K) :
    Linked { v with
      gridsMap := v.gridsMap.insert key v.allocated
      gridsCache := ⟨v.allocated, key, node⟩ :: v.gridsCache
      allocated := v.allocated + 1 } where
  entries := by
    show (v.gridsMap.insert key v.allocated).entries.Perm _
    rw [AList.entries_insert_of_notMem (AList.lookup_eq_none.mp hkey)]
    exact h.entries.cons _
  addresses := by
    refine List.nodup_cons.mpr ⟨fun hmem => ?_, h.addresses⟩
    obtain ⟨n, hn, heq⟩ := List.mem_map.mp hmem
    exact (h.allocated n hn).ne heq
  allocated n hn := by
    rcases List.mem_cons.mp hn with rfl | hn
    · exact v.allocated.lt_succ_self
    · exact (h.allocated n hn).trans v.allocated.lt_succ_self

omit [Field K] [LinearOrder K] in
/-- The last list node goes, with its key. -/
lemma Linked.popBack (h : Linked v) {back : CacheNode K}
    (hback : v.gridsCache.getLast? = some back) :
    Linked { v with
      gridsMap := v.gridsMap.erase back.key
      gridsCache := v.gridsCache.dropLast } := by
  have hsplit : v.gridsCache.dropLast ++ [back] = v.gridsCache :=
    List.dropLast_append_getLast? back hback
  refine ⟨?_, ?_, fun n hn => h.allocated n ((List.dropLast_sublist _).subset hn)⟩
  · have hentries : v.gridsMap.entries.Perm
        (back.entry :: v.gridsCache.dropLast.map CacheNode.entry) := by
      refine h.entries.trans ?_
      rw [← hsplit, List.map_append, List.dropLast_concat]
      exact List.perm_append_comm
    have hkerase := List.Perm.kerase (a := back.key) v.gridsMap.nodupKeys hentries
    rwa [List.kerase_cons_eq (show back.key = back.entry.1 from rfl)] at hkerase
  · exact h.addresses.sublist ((List.dropLast_sublist _).map _)

/-! ## Voxels -/

/-- The voxels of a list, with their points. -/
def voxels (cache : List (CacheNode K)) : List (KeyType × List (PointType K)) :=
  cache.map fun n => (n.key, n.node.points)

omit [Field K] [LinearOrder K] in
/-- What a search finds and leaves, if it is not satisfied by what comes before. -/
lemma search_split {α : Type*} {p : α → Bool} {before after : List α} {a : α}
    (hbefore : ∀ x ∈ before, p x = false) (ha : p a = true) :
    (before ++ a :: after).find? p = some a ∧
      (before ++ a :: after).eraseP p = before ++ after := by
  have hnot : ∀ x ∈ before, ¬ p x = true := fun x hx => by simp [hbefore x hx]
  refine ⟨List.find?_eq_some_iff_append.mpr ⟨ha, before, after, rfl, ?_⟩, ?_⟩
  · intro x hx
    rw [hbefore x hx]
    rfl
  · rw [List.eraseP_append_right _ hnot, List.eraseP_cons_of_pos ha]

omit [Field K] [LinearOrder K] in
/-- Things before another in a list without repetitions differ from it. -/
lemma ne_of_mem_before {α β : Type*} {f : α → β} {before after : List α} {a : α}
    (h : ((before ++ a :: after).map f).Nodup) {x : α} (hx : x ∈ before) : f x ≠ f a := by
  rw [List.map_append, List.map_cons, List.nodup_append] at h
  exact h.2.2 _ (List.mem_map_of_mem hx) _ List.mem_cons_self

omit [Field K] [LinearOrder K] in
lemma Linked.deref_eq (h : Linked v) {n : CacheNode K} (hn : n ∈ v.gridsCache) :
    v.deref n.address = some n := by
  obtain ⟨before, after, hsplit⟩ := List.append_of_mem hn
  have haddresses := h.addresses
  rw [IVox.deref, hsplit]
  rw [hsplit] at haddresses
  exact (search_split (fun x hx => decide_eq_false (ne_of_mem_before haddresses hx))
    (decide_eq_true rfl)).1

omit [Field K] [LinearOrder K] in
lemma voxels_split (before after : List (CacheNode K)) (n : CacheNode K) :
    voxels (before ++ n :: after) = voxels before ++ (n.key, n.node.points) :: voxels after :=
  List.map_append

variable [FloorRing K]

/-- A point for a voxel that is there. -/
lemma Synced.addPoint_hit (h : Synced v) (pt : PointType K) {n : CacheNode K}
    (hn : n ∈ v.gridsCache) (hkey : n.key = v.options.pos2Grid pt) :
    ∃ v', v.addPoint pt = some v' ∧ Synced v' ∧ v'.options = v.options ∧
      v'.nearbyGrids = v.nearbyGrids ∧
      voxels v'.gridsCache
        = touch v.options.pos2Grid (v.options.capacity - 1) (voxels v.gridsCache) pt := by
  have hlookup : v.gridsMap.lookup (v.options.pos2Grid pt) = some n.address :=
    (h.lookup_iff _ _).mpr ⟨n, hn, hkey, rfl⟩
  obtain ⟨before, after, hsplit⟩ := List.append_of_mem hn
  have haddresses := h.addresses
  have hkeys := h.keys_nodup
  rw [hsplit] at haddresses hkeys
  have herase : (before ++ n :: after).eraseP (CacheNode.at n.address) = before ++ after :=
    (search_split (fun x hx => decide_eq_false (ne_of_mem_before haddresses hx))
      (decide_eq_true rfl)).2
  rw [← hsplit] at herase
  have hperm : (n :: (before ++ after)).Perm v.gridsCache := by
    rw [hsplit]
    exact List.perm_middle.symm
  rw [IVox.addPoint, hlookup]
  simp only [h.deref_eq hn, Option.map_some, herase]
  refine ⟨_, rfl, ⟨⟨?_, ?_, ?_⟩, ?_⟩, rfl, rfl, ?_⟩
  · -- the entry of the voxel is the one that was there
    have hentries : v.gridsMap.entries.Perm (n.entry :: (before ++ after).map CacheNode.entry) :=
      h.entries.trans (hperm.symm.map CacheNode.entry)
    have hkerase := List.Perm.kerase (a := n.key) v.gridsMap.nodupKeys hentries
    rw [List.kerase_cons_eq (show n.key = n.entry.1 from rfl)] at hkerase
    show (v.gridsMap.insert (v.options.pos2Grid pt) n.address).entries.Perm
      (⟨n.key, n.address⟩ :: (before ++ after).map CacheNode.entry)
    rw [← hkey, AList.entries_insert]
    exact hkerase.cons _
  · exact ((hperm.map CacheNode.address).nodup_iff).mpr h.addresses
  · intro x hx
    rcases List.mem_cons.mp hx with rfl | hx
    · exact h.allocated n hn
    · exact h.allocated x (hperm.subset (List.mem_cons_of_mem _ hx))
  · exact hperm.length_eq.trans_le h.room
  · have hbefore : ∀ e ∈ voxels before, decide (e.1 = v.options.pos2Grid pt) = false := by
      intro e he
      obtain ⟨x, hx, rfl⟩ := List.mem_map.mp he
      exact decide_eq_false (hkey ▸ ne_of_mem_before hkeys hx)
    have hsearch : (voxels before ++ (n.key, n.node.points) :: voxels after).find?
          (fun e => decide (e.1 = v.options.pos2Grid pt)) = some (n.key, n.node.points) ∧
        (voxels before ++ (n.key, n.node.points) :: voxels after).eraseP
          (fun e => decide (e.1 = v.options.pos2Grid pt)) = voxels before ++ voxels after :=
      search_split hbefore (decide_eq_true hkey)
    rw [touch, hsplit, voxels_split, hsearch.1]
    show (n.key, n.node.points ++ [pt]) :: voxels (before ++ after)
      = (n.key, n.node.points ++ [pt]) :: List.eraseP _ _
    rw [hsearch.2, voxels, List.map_append]
    rfl

/-- A point for a voxel that is not there. -/
lemma Synced.addPoint_miss (h : Synced v) (pt : PointType K)
    (hnone : v.gridsMap.lookup (v.options.pos2Grid pt) = none) :
    ∃ v', v.addPoint pt = some v' ∧ Synced v' ∧ v'.options = v.options ∧
      v'.nearbyGrids = v.nearbyGrids ∧
      voxels v'.gridsCache
        = touch v.options.pos2Grid (v.options.capacity - 1) (voxels v.gridsCache) pt := by
  have hpush := h.push hnone (IVoxNode.insertPoint ⟨[]⟩ pt)
  have hsize : (v.gridsMap.insert (v.options.pos2Grid pt) v.allocated).keys.length
      = v.gridsCache.length + 1 := hpush.size
  have hfind : (voxels v.gridsCache).find? (fun e => e.1 = v.options.pos2Grid pt) = none := by
    rw [List.find?_eq_none]
    intro e he
    obtain ⟨n, hn, rfl⟩ := List.mem_map.mp he
    have hne : n.key ≠ v.options.pos2Grid pt := by
      intro heq
      have hsome := (h.lookup_iff _ n.address).mpr ⟨n, hn, heq, rfl⟩
      rw [hnone] at hsome
      cases hsome
    simpa using hne
  have hlength : (voxels v.gridsCache).length = v.gridsCache.length := List.length_map _
  have hroom := h.room
  rw [IVox.addPoint, hnone, touch, hfind]
  simp only [hsize]
  split_ifs with hfull
  · obtain ⟨back, hback⟩ := Option.isSome_iff_exists.mp
      (List.getLast?_isSome.mpr (List.cons_ne_nil
        (⟨v.allocated, v.options.pos2Grid pt, IVoxNode.insertPoint ⟨[]⟩ pt⟩ : CacheNode K)
        v.gridsCache))
    have hpop := hpush.popBack hback
    rw [hback, Option.map_some]
    refine ⟨_, rfl, ⟨hpop, ?_⟩, rfl, rfl, ?_⟩
    · show (List.dropLast (_ :: v.gridsCache)).length ≤ v.options.capacity - 1
      rwa [List.length_dropLast, List.length_cons, Nat.add_sub_cancel]
    · show voxels (List.dropLast (_ :: v.gridsCache)) = _
      rw [List.dropLast_eq_take, voxels, List.map_take, List.length_cons, Nat.add_sub_cancel,
        show v.gridsCache.length = v.options.capacity - 1 by omega]
      rfl
  · refine ⟨_, rfl, ⟨hpush, ?_⟩, rfl, rfl, ?_⟩
    · show v.gridsCache.length + 1 ≤ v.options.capacity - 1
      omega
    · rw [List.take_of_length_le]
      · rfl
      · rw [List.length_cons, hlength]
        omega

/-- One point. -/
lemma Synced.addPoint_spec (h : Synced v) (pt : PointType K) :
    ∃ v', v.addPoint pt = some v' ∧ Synced v' ∧ v'.options = v.options ∧
      v'.nearbyGrids = v.nearbyGrids ∧
      voxels v'.gridsCache
        = touch v.options.pos2Grid (v.options.capacity - 1) (voxels v.gridsCache) pt := by
  cases hlookup : v.gridsMap.lookup (v.options.pos2Grid pt) with
  | none => exact h.addPoint_miss pt hlookup
  | some it =>
      obtain ⟨n, hn, hkey, -⟩ := (h.lookup_iff _ it).mp hlookup
      exact h.addPoint_hit pt hn hkey

/-- Points one after the other. -/
lemma Synced.addPoints_spec (h : Synced v) (pts : List (PointType K)) :
    ∃ v', v.addPoints pts = some v' ∧ Synced v' ∧ v'.options = v.options ∧
      v'.nearbyGrids = v.nearbyGrids ∧
      voxels v'.gridsCache
        = pts.foldl (touch v.options.pos2Grid (v.options.capacity - 1)) (voxels v.gridsCache) := by
  induction pts generalizing v with
  | nil => exact ⟨v, rfl, h, rfl, rfl, rfl⟩
  | cons pt pts ih =>
      obtain ⟨w, hw, hsynced, hoptions, hnearby, hvoxels⟩ := h.addPoint_spec pt
      obtain ⟨v', hv', hsynced', hoptions', hnearby', hvoxels'⟩ := ih hsynced
      refine ⟨v', ?_, hsynced', hoptions'.trans hoptions, hnearby'.trans hnearby, ?_⟩
      · rw [IVox.addPoints, List.foldlM_cons, hw]
        exact hv'
      · rw [hvoxels', hvoxels, hoptions, List.foldl_cons]

/-- Calls of `AddPoints`, from a new map. -/
def IVox.history (options : Options K) (batches : List (List (PointType K))) : Option (IVox K) :=
  batches.foldlM IVox.addPoints (IVox.make options)

/-- The map stays in order, and the list is the store of the points. -/
lemma IVox.history_spec (options : Options K) (batches : List (List (PointType K))) :
    ∃ v, IVox.history options batches = some v ∧ Synced v ∧
      v.options = (IVox.make options).options ∧
      v.nearbyGrids = generateNearbyGrids options.nearbyType ∧
      voxels v.gridsCache
        = batches.flatten.foldl
            (touch (IVox.make options).options.pos2Grid (options.capacity - 1)) [] := by
  have hflat : ∀ v : IVox K, batches.foldlM IVox.addPoints v = v.addPoints batches.flatten := by
    induction batches with
    | nil => exact fun _ => rfl
    | cons pts batches ih =>
        intro v
        rw [List.foldlM_cons, List.flatten_cons, IVox.addPoints, IVox.addPoints,
          List.foldlM_append]
        exact congrArg _ (funext ih)
  obtain ⟨v, hv, hspec⟩ := (synced_make options).addPoints_spec batches.flatten
  exact ⟨v, (hflat _).trans hv, hspec⟩

/-- **The voxel map holds what its history says**, whatever has been added: no iterator dangles, the
map finds just the voxels of the list, and these are the voxels used last, in the order of use, each
with the points that came since it was last made. -/
theorem addPoints_history (options : Options K) (batches : List (List (PointType K))) :
    ∃ v, IVox.history options batches = some v ∧ Synced v ∧
      voxels v.gridsCache
        = contents (IVox.make options).options.pos2Grid (options.capacity - 1)
            batches.flatten.reverse := by
  obtain ⟨v, hv, hsynced, -, -, hvoxels⟩ := IVox.history_spec options batches
  exact ⟨v, hv, hsynced, hvoxels.trans (run_touch batches.flatten)⟩

end SentryNav.PointLio
