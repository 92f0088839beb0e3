import SentryNav.LivoxDriver.PacketQueue

/-!
# `CacheIndex`: which lidar has which place

Each lidar has a place among the devices, under its handle.  `GetFreeIndex` looks for the place of a
lidar under a lock, gives the lock back, and takes it again to find a free place for a lidar that
has none.  Calls of several threads may come in between, so one lidar can be given two places; but
whatever happens, two lidars are never given the same (`indices_apart`), and with calls that do not
overlap each lidar keeps the place it was given first (`getFreeIndex_stable`).

The text of a key is determined by the handle, which stands for it.  `ResetIndex` is never called.
-/

namespace SentryNav.LivoxDriver

/-- `CacheIndex`. -/
structure CacheIndex where
  mapIndex : ℕ → Option (Fin kMaxSourceLidar)
  indexCache : Fin kMaxSourceLidar → Bool

/-- `CacheIndex::CacheIndex`. -/
def CacheIndex.make : CacheIndex where
  mapIndex _ := none
  indexCache _ := false

/-- `GetFreeIndex`, when no place was found: the first free one is taken. -/
def CacheIndex.allocate (c : CacheIndex) (handle : ℕ) :
    CacheIndex × Option (Fin kMaxSourceLidar) :=
  match (List.finRange kMaxSourceLidar).find? fun i => !c.indexCache i with
  | none => (c, none)
  | some i =>
      ({ mapIndex := Function.update c.mapIndex handle (some i)
         indexCache := Function.update c.indexCache i true }, some i)

/-- `GetFreeIndex`, without another call in between. -/
def CacheIndex.getFreeIndex (c : CacheIndex) (handle : ℕ) :
    CacheIndex × Option (Fin kMaxSourceLidar) :=
  match c.mapIndex handle with
  | some i => (c, some i)
  | none => c.allocate handle

/-- The calls of several threads: those that have found no place wait for the lock. -/
structure Calls where
  cache : CacheIndex
  waiting : List ℕ

inductive CallAction
  | lookup (handle : ℕ)
  | allocate (handle : ℕ)

/-- A thread gets the lock; a place that a call returns, with the handle. -/
def Calls.step (s : Calls) : CallAction → Calls × Option (ℕ × Fin kMaxSourceLidar)
  | .lookup handle =>
      match s.cache.mapIndex handle with
      | some i => (s, some (handle, i))
      | none => ({ s with waiting := handle :: s.waiting }, none)
  | .allocate handle =>
      if handle ∈ s.waiting then
        let r := s.cache.allocate handle
        ({ cache := r.1, waiting := s.waiting.erase handle }, r.2.map fun i => (handle, i))
      else (s, none)

/-- The places that calls return. -/
def Calls.run (s : Calls) : List CallAction → List (ℕ × Fin kMaxSourceLidar)
  | [] => []
  | action :: actions => (s.step action).2.toList ++ (s.step action).1.run actions

/-- The places that `GetFreeIndex` returns for lidars one after the other. -/
def CacheIndex.getFreeIndices (c : CacheIndex) : List ℕ → List (ℕ × Fin kMaxSourceLidar)
  | [] => []
  | handle :: handles =>
      ((c.getFreeIndex handle).2.map fun i => (handle, i)).toList
        ++ (c.getFreeIndex handle).1.getFreeIndices handles

/-! ## Whose places they are -/

/-- The places in the map are taken, each by its owner. -/
def CacheIndex.Owned (c : CacheIndex) (owner : Fin kMaxSourceLidar → ℕ) : Prop :=
  ∀ handle i, c.mapIndex handle = some i → c.indexCache i = true ∧ owner i = handle

/-- What can have become of the places: those that were taken still are, by the same owners. -/
structure Later (c : CacheIndex) (owner : Fin kMaxSourceLidar → ℕ) (c' : CacheIndex)
    (owner' : Fin kMaxSourceLidar → ℕ) : Prop where
  owned : c'.Owned owner'
  taken : ∀ i, c.indexCache i = true → c'.indexCache i = true ∧ owner' i = owner i

variable {c : CacheIndex} {owner : Fin kMaxSourceLidar → ℕ}

lemma Later.refl (h : c.Owned owner) : Later c owner c owner where
  owned := h
  taken _ hi := ⟨hi, rfl⟩

/-- A place is given to a lidar only if it was free. -/
lemma CacheIndex.Owned.allocate (h : c.Owned owner) (handle : ℕ) :
    ∃ owner', Later c owner (c.allocate handle).1 owner' ∧
      ∀ i, (c.allocate handle).2 = some i →
        (c.allocate handle).1.indexCache i = true ∧ owner' i = handle := by
  rw [CacheIndex.allocate]
  cases hfind : (List.finRange kMaxSourceLidar).find? fun i => !c.indexCache i with
  | none => exact ⟨owner, .refl h, fun i hi => nomatch hi⟩
  | some i =>
      have hfree : c.indexCache i = false := by simpa using List.find?_some hfind
      have hkept : ∀ j, c.indexCache j = true → j ≠ i := by
        rintro j hj rfl
        rw [hfree] at hj
        cases hj
      refine ⟨Function.update owner i handle, ⟨fun handle' j hj => ?_, fun j hj => ?_⟩, ?_⟩
      · by_cases hhandle : handle' = handle
        · subst hhandle
          simp only [Function.update_self, Option.some.injEq] at hj
          subst hj
          exact ⟨Function.update_self .., Function.update_self ..⟩
        · simp only [Function.update_of_ne hhandle] at hj
          obtain ⟨htaken, howner⟩ := h handle' j hj
          simp only [Function.update_of_ne (hkept j htaken)]
          exact ⟨htaken, howner⟩
      · exact ⟨(Function.update_of_ne (hkept j hj) ..).trans hj,
          Function.update_of_ne (hkept j hj) ..⟩
      · intro j hj
        obtain rfl := Option.some.inj hj
        exact ⟨Function.update_self .., Function.update_self ..⟩

lemma CacheIndex.Owned.step {s : Calls} (h : s.cache.Owned owner) (action : CallAction) :
    ∃ owner', Later s.cache owner (s.step action).1.cache owner' ∧
      ∀ r, (s.step action).2 = some r →
        (s.step action).1.cache.indexCache r.2 = true ∧ owner' r.2 = r.1 := by
  cases action with
  | lookup handle =>
      rw [Calls.step]
      cases hmap : s.cache.mapIndex handle with
      | none => exact ⟨owner, .refl h, fun r hr => nomatch hr⟩
      | some i =>
          refine ⟨owner, .refl h, fun r hr => ?_⟩
          obtain rfl := Option.some.inj hr
          exact h handle i hmap
  | allocate handle =>
      rw [Calls.step]
      split_ifs with hwaiting
      · obtain ⟨owner', hlater, hgiven⟩ := h.allocate handle
        refine ⟨owner', hlater, fun r hr => ?_⟩
        obtain ⟨i, hi, rfl⟩ := Option.map_eq_some_iff.mp hr
        exact hgiven i hi
      · exact ⟨owner, .refl h, fun r hr => nomatch hr⟩

/-- In a run each place has one owner. -/
lemma CacheIndex.Owned.run {s : Calls} (h : s.cache.Owned owner) (actions : List CallAction) :
    ∃ owner' : Fin kMaxSourceLidar → ℕ,
      (∀ i, s.cache.indexCache i = true → owner' i = owner i) ∧
      ∀ r ∈ s.run actions, owner' r.2 = r.1 := by
  induction actions generalizing s owner with
  | nil => exact ⟨owner, fun _ _ => rfl, fun r hr => absurd hr List.not_mem_nil⟩
  | cons action actions ih =>
      obtain ⟨owner₁, hlater, hgiven⟩ := h.step action
      obtain ⟨owner₂, hkept, hrest⟩ := ih hlater.owned
      refine ⟨owner₂, fun i hi => ?_, fun r hr => ?_⟩
      · obtain ⟨htaken, howner⟩ := hlater.taken i hi
        exact (hkept i htaken).trans howner
      · rcases List.mem_append.mp hr with hr | hr
        · obtain ⟨htaken, howner⟩ := hgiven r (Option.mem_toList.mp hr)
          exact (hkept r.2 htaken).trans howner
        · exact hrest r hr

/-- In a run from the start each place has one owner. -/
lemma exists_owner (actions : List CallAction) :
    ∃ owner : Fin kMaxSourceLidar → ℕ, ∀ r ∈ Calls.run ⟨.make, []⟩ actions, owner r.2 = r.1 := by
  have howned : CacheIndex.make.Owned fun _ => 0 := fun _ _ h => nomatch h
  obtain ⟨owner, -, hrun⟩ := CacheIndex.Owned.run (s := ⟨.make, []⟩) howned actions
  exact ⟨owner, hrun⟩

/-- **Two lidars never get the same place**, whichever calls come in between. -/
theorem indices_apart (actions : List CallAction) :
    (Calls.run ⟨.make, []⟩ actions).Pairwise fun r r' => r.2 = r'.2 → r.1 = r'.1 := by
  obtain ⟨owner, hrun⟩ := exists_owner actions
  apply List.pairwise_of_forall_mem_list
  intro r hr r' hr' heq
  rw [← hrun r hr, ← hrun r' hr', heq]

/-! ## Calls that do not overlap -/

/-- The two parts of the calls, one after the other. -/
def alone (handles : List ℕ) : List CallAction :=
  handles.flatMap fun handle => [.lookup handle, .allocate handle]

/-- A call alone is its two parts. -/
lemma run_alone (c : CacheIndex) (handles : List ℕ) :
    Calls.run ⟨c, []⟩ (alone handles) = c.getFreeIndices handles := by
  induction handles generalizing c with
  | nil => rfl
  | cons handle handles ih =>
      show Calls.run ⟨c, []⟩ (.lookup handle :: .allocate handle :: alone handles) = _
      rw [CacheIndex.getFreeIndices, CacheIndex.getFreeIndex, Calls.run, Calls.step]
      cases hmap : c.mapIndex handle with
      | some i => simp [Calls.run, Calls.step, ih]
      | none => simp [Calls.run, Calls.step, ih]

/-- The place of a lidar stays its place. -/
lemma mapIndex_getFreeIndex {handle handle' : ℕ} {i : Fin kMaxSourceLidar}
    (h : c.mapIndex handle = some i) : (c.getFreeIndex handle').1.mapIndex handle = some i := by
  rw [CacheIndex.getFreeIndex]
  cases hmap : c.mapIndex handle' with
  | some j => exact h
  | none =>
      have hne : handle ≠ handle' := by
        rintro rfl
        rw [hmap] at h
        cases h
      simp only [CacheIndex.allocate]
      split
      · exact h
      · exact (Function.update_of_ne hne ..).trans h

/-- What a call returns is the place of the lidar. -/
lemma mapIndex_of_getFreeIndex {handle : ℕ} {i : Fin kMaxSourceLidar}
    (h : (c.getFreeIndex handle).2 = some i) :
    (c.getFreeIndex handle).1.mapIndex handle = some i := by
  rw [CacheIndex.getFreeIndex] at h ⊢
  cases hmap : c.mapIndex handle with
  | some j =>
      rw [hmap] at h
      obtain rfl := Option.some.inj h
      exact hmap
  | none =>
      rw [hmap] at h
      simp only [CacheIndex.allocate] at h ⊢
      split at h
      · cases h
      next j hfind =>
        obtain rfl := Option.some.inj h
        exact Function.update_self ..

lemma getFreeIndices_map (c : CacheIndex) (handles : List ℕ) :
    ∃ place : ℕ → Option (Fin kMaxSourceLidar),
      (∀ handle i, c.mapIndex handle = some i → place handle = some i) ∧
      ∀ r ∈ c.getFreeIndices handles, place r.1 = some r.2 := by
  induction handles generalizing c with
  | nil => exact ⟨c.mapIndex, fun _ _ h => h, fun r hr => absurd hr List.not_mem_nil⟩
  | cons handle handles ih =>
      obtain ⟨place, hkept, hrest⟩ := ih (c.getFreeIndex handle).1
      refine ⟨place, fun handle' i h => hkept handle' i (mapIndex_getFreeIndex h), fun r hr => ?_⟩
      rcases List.mem_append.mp hr with hr | hr
      · obtain ⟨i, hi, rfl⟩ := Option.map_eq_some_iff.mp (Option.mem_toList.mp hr)
        exact hkept handle i (mapIndex_of_getFreeIndex hi)
      · exact hrest r hr

/-- **A lidar keeps its place**, and has it alone, if calls do not overlap. -/
theorem getFreeIndex_stable (handles : List ℕ) :
    (CacheIndex.make.getFreeIndices handles).Pairwise fun r r' => r.1 = r'.1 ↔ r.2 = r'.2 := by
  obtain ⟨owner, howner⟩ := exists_owner (alone handles)
  rw [run_alone] at howner
  obtain ⟨place, -, hplace⟩ := getFreeIndices_map .make handles
  apply List.pairwise_of_forall_mem_list
  intro r hr r' hr'
  constructor
  · intro heq
    exact Option.some.inj ((hplace r hr).symm.trans (heq ▸ hplace r' hr'))
  · intro heq
    rw [← howner r hr, ← howner r' hr', heq]

end SentryNav.LivoxDriver
