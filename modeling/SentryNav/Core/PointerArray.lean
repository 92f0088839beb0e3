import Mathlib.GroupTheory.Perm.List
import Mathlib.Logic.Function.Basic

/-!
# Arrays of pointers

An array whose places hold pointers to objects can be moved along a strip of places in place, the
object that falls out at one end being emptied and used again at the other end.

* **Pointers.**  `rotate` moves the pointers of a strip along by assignments, one after the other;
  on a strip without repeats this is composition with the cyclic permutation of the strip
  (`rotate_eq_comp`).  So no object is lost, and none is pointed to twice.
* **Contents.**  As long as no two places share an object, the array behaves as if it held the
  contents themselves: `deref_modify` for a change through one pointer, `deref_recycle` and
  `deref_recycleAll` for moving strips along.
* **Loops.**  What a loop does at a place, if each pass is known to change what is at one place:
  `foldl_places` for a loop over places, `foldl_targets` for a loop over things that go to places.
-/

namespace PointerArray

variable {ι ρ β : Type*} [DecidableEq ι]

/-! ## Pointers -/

/-- Every place of a strip takes over what the next one holds, from the first place on; the last
place takes over what is carried. -/
def moveAlong (ptr : ι → ρ) : List ι → ρ → ι → ρ
  | [], _ => ptr
  | [a], carried => Function.update ptr a carried
  | a :: b :: rest, carried => moveAlong (Function.update ptr a (ptr b)) (b :: rest) carried

/-- Move a strip along; what the first place holds goes around to the last. -/
def rotate (ptr : ι → ρ) : List ι → ι → ρ
  | [] => ptr
  | first :: rest => moveAlong ptr (first :: rest) (ptr first)

/-- What the first place of a strip holds is overwritten before it is read. -/
lemma moveAlong_update_first (ptr : ι → ρ) {first : ι} {rest : List ι}
    (h : (first :: rest).Nodup) (x carried : ρ) :
    moveAlong (Function.update ptr first x) (first :: rest) carried
      = moveAlong ptr (first :: rest) carried := by
  cases rest with
  | nil => simp [moveAlong]
  | cons second rest =>
      have hne : second ≠ first := by
        rintro rfl
        simp at h
      simp [moveAlong, Function.update_of_ne hne]

/-- **Moving a strip along is composing with its cyclic permutation.** -/
theorem rotate_eq_comp (ptr : ι → ρ) {strip : List ι} (h : strip.Nodup) :
    rotate ptr strip = ptr ∘ strip.formPerm := by
  induction strip generalizing ptr with
  | nil => simp [rotate]
  | cons a rest ih =>
      cases rest with
      | nil => simp [rotate, moveAlong]
      | cons b rest =>
          have hrest : (b :: rest).Nodup := (List.nodup_cons.mp h).2
          have hswap : Function.update (Function.update ptr a (ptr b)) b (ptr a)
              = ptr ∘ Equiv.swap a b := by
            rw [Equiv.comp_swap_eq_update, Function.update_comm]
            rintro rfl
            simp at h
          have hlast : ptr a = (ptr ∘ Equiv.swap a b) b := by simp
          calc rotate ptr (a :: b :: rest)
              = moveAlong (Function.update ptr a (ptr b)) (b :: rest) (ptr a) := rfl
            _ = moveAlong (ptr ∘ Equiv.swap a b) (b :: rest) (ptr a) := by
                rw [← moveAlong_update_first _ hrest (ptr a), hswap]
            _ = rotate (ptr ∘ Equiv.swap a b) (b :: rest) := by
                rw [hlast]
                rfl
            _ = ptr ∘ (a :: b :: rest).formPerm := by
                rw [ih _ hrest, List.formPerm_cons_cons]
                rfl

/-! ## Contents -/

/-- An array of pointers, with the objects that they point to. -/
structure Cells (ι ρ β : Type*) where
  ptr : ι → ρ
  obj : ρ → β

/-- What a place points to. -/
def Cells.deref (c : Cells ι ρ β) (i : ι) : β := c.obj (c.ptr i)

variable [DecidableEq ρ]

/-- Change an object through the pointer to it. -/
def Cells.modify (c : Cells ι ρ β) (i : ι) (f : β → β) : Cells ι ρ β :=
  { c with obj := Function.update c.obj (c.ptr i) (f (c.deref i)) }

/-- Move a strip along, and empty the object that goes around. -/
def Cells.recycle (empty : β) (c : Cells ι ρ β) : List ι → Cells ι ρ β
  | [] => c
  | first :: rest =>
      { ptr := rotate c.ptr (first :: rest), obj := Function.update c.obj (c.ptr first) empty }

/-- Move some strips along, one after the other. -/
def Cells.recycleAll (empty : β) (c : Cells ι ρ β) (strips : List (List ι)) : Cells ι ρ β :=
  strips.foldl (Cells.recycle empty) c

variable {c : Cells ι ρ β} {strip : List ι} {strips : List (List ι)} {i : ι} {empty : β}

omit [DecidableEq ι] in
@[simp] lemma modify_ptr (f : β → β) : (c.modify i f).ptr = c.ptr := rfl

/-- Where no object is shared, a change through a pointer is a change at its place only. -/
lemma deref_modify (h : Function.Injective c.ptr) (f : β → β) :
    (c.modify i f).deref = Function.update c.deref i (f (c.deref i)) := by
  funext j
  by_cases hj : j = i
  · subst hj
    simp [Cells.deref, Cells.modify]
  · simp [Cells.deref, Cells.modify, hj, h.ne hj]

lemma recycle_ptr (h : strip.Nodup) : (c.recycle empty strip).ptr = c.ptr ∘ strip.formPerm := by
  cases strip with
  | nil => simp [Cells.recycle]
  | cons first rest => exact rotate_eq_comp c.ptr h

lemma recycle_injective (h : strip.Nodup) (hinj : Function.Injective c.ptr) :
    Function.Injective (c.recycle empty strip).ptr := by
  rw [recycle_ptr h]
  exact hinj.comp strip.formPerm.injective

/-- After a strip has been moved along, a place has what the next place of its strip had. -/
lemma deref_recycle (h : strip.Nodup) (hinj : Function.Injective c.ptr) (i : ι) :
    (c.recycle empty strip).deref i
      = if strip.head? = some (strip.formPerm i) then empty else c.deref (strip.formPerm i) := by
  rw [Cells.deref, recycle_ptr h]
  cases strip with
  | nil => simp [Cells.recycle, Cells.deref]
  | cons first rest =>
      simp only [Cells.recycle, Function.comp_apply, Function.update_apply, hinj.eq_iff,
        List.head?_cons, Option.some.injEq, Cells.deref]
      congr 1
      exact propext eq_comm

/-- Places off the strip keep what they have. -/
lemma deref_recycle_of_notMem (h : strip.Nodup) (hinj : Function.Injective c.ptr)
    (hi : i ∉ strip) : (c.recycle empty strip).deref i = c.deref i := by
  rw [deref_recycle h hinj, List.formPerm_apply_of_notMem hi, if_neg]
  exact fun hhead => hi (List.mem_of_mem_head? hhead)

/-- Places of the strip take over what the next one had; the last one is empty. -/
lemma deref_recycle_getElem (h : strip.Nodup) (hinj : Function.Injective c.ptr) {k : ℕ}
    (hk : k < strip.length) :
    (c.recycle empty strip).deref strip[k]
      = if hnext : k + 1 < strip.length then c.deref strip[k + 1] else empty := by
  have hhead : strip.head? = some strip[0] := by
    rw [List.head?_eq_getElem?, List.getElem?_eq_getElem]
  rw [deref_recycle h hinj, List.formPerm_apply_getElem _ h, hhead]
  simp only [Option.some.injEq, h.getElem_inj_iff]
  by_cases hnext : k + 1 < strip.length
  · simp [hnext, Nat.mod_eq_of_lt hnext]
  · have hlast : k + 1 = strip.length := by omega
    simp [hlast]

/-! ## Many strips -/

lemma recycleAll_cons (c : Cells ι ρ β) (strip : List ι) (strips : List (List ι)) :
    c.recycleAll empty (strip :: strips) = (c.recycle empty strip).recycleAll empty strips := rfl

/-- No pointer is lost or doubled, and those off the strips stay where they are. -/
lemma recycleAll_ptr (h : strips.flatten.Nodup) (c : Cells ι ρ β) :
    ∃ σ : Equiv.Perm ι, (c.recycleAll empty strips).ptr = c.ptr ∘ σ ∧
      ∀ i ∉ strips.flatten, σ i = i := by
  induction strips generalizing c with
  | nil => exact ⟨1, rfl, fun _ _ => rfl⟩
  | cons strip strips ih =>
      rw [List.flatten_cons, List.nodup_append] at h
      obtain ⟨σ, hptr, hfix⟩ := ih h.2.1 (c.recycle empty strip)
      refine ⟨strip.formPerm * σ, ?_, ?_⟩
      · rw [recycleAll_cons, hptr, recycle_ptr h.1]
        rfl
      · rintro i hi
        rw [List.flatten_cons, List.mem_append, not_or] at hi
        rw [Equiv.Perm.mul_apply, hfix i hi.2, List.formPerm_apply_of_notMem hi.1]

lemma deref_recycleAll_of_notMem (h : strips.flatten.Nodup) (hinj : Function.Injective c.ptr)
    (hi : i ∉ strips.flatten) : (c.recycleAll empty strips).deref i = c.deref i := by
  induction strips generalizing c with
  | nil => rfl
  | cons strip strips ih =>
      rw [List.flatten_cons, List.nodup_append] at h
      rw [List.flatten_cons, List.mem_append, not_or] at hi
      rw [recycleAll_cons, ih h.2.1 (recycle_injective h.1 hinj) hi.2,
        deref_recycle_of_notMem h.1 hinj hi.1]

/-- **Moving strips along**: each place of each strip takes over what the next one had; the last
ones are empty. -/
theorem deref_recycleAll (h : strips.flatten.Nodup) (hinj : Function.Injective c.ptr)
    (hstrip : strip ∈ strips) {k : ℕ} (hk : k < strip.length) :
    (c.recycleAll empty strips).deref strip[k]
      = if hnext : k + 1 < strip.length then c.deref strip[k + 1] else empty := by
  induction strips generalizing c with
  | nil => exact absurd hstrip List.not_mem_nil
  | cons other strips ih =>
      rw [List.flatten_cons, List.nodup_append] at h
      obtain ⟨hother, hrest, hdisjoint⟩ := h
      rw [recycleAll_cons]
      rcases List.mem_cons.mp hstrip with rfl | hstrip
      · have hnot : strip[k] ∉ strips.flatten := fun hmem =>
          hdisjoint _ (List.getElem_mem hk) _ hmem rfl
        rw [deref_recycleAll_of_notMem hrest (recycle_injective hother hinj) hnot,
          deref_recycle_getElem hother hinj hk]
      · have hnot : ∀ j (hj : j < strip.length), strip[j] ∉ other := by
          intro j hj hmem
          exact hdisjoint _ hmem _ (List.mem_flatten_of_mem hstrip (List.getElem_mem hj)) rfl
        rw [ih hrest (recycle_injective hother hinj) hstrip]
        split
        · next hnext => rw [deref_recycle_of_notMem hother hinj (hnot _ hnext)]
        · rfl

/-! ## Loops -/

section Loops

variable {σ α : Type*} (Inv : σ → Prop) (read : σ → ι → β)

/-- **A loop over places** that changes only what is at the place of the pass changes what is at
each of its places once. -/
theorem foldl_places {step : σ → ι → σ} (f : β → β)
    (hstep : ∀ s i, Inv s →
      Inv (step s i) ∧ read (step s i) = Function.update (read s) i (f (read s i))) :
    ∀ (places : List ι) (s : σ), places.Nodup → Inv s → Inv (places.foldl step s) ∧
      ∀ i, read (places.foldl step s) i = if i ∈ places then f (read s i) else read s i := by
  intro places
  induction places with
  | nil => exact fun s _ hs => ⟨hs, fun i => by simp⟩
  | cons j places ih =>
      intro s hnodup hs
      obtain ⟨hj, hnodup⟩ := List.nodup_cons.mp hnodup
      obtain ⟨hkeep, hread⟩ := hstep s j hs
      obtain ⟨hend, hvalue⟩ := ih (step s j) hnodup hkeep
      refine ⟨hend, fun i => ?_⟩
      rw [List.foldl_cons, hvalue, hread]
      by_cases hij : i = j
      · subst hij
        simp [hj]
      · simp [hij]

/-- **A loop over things that go to places**: a place gets those that go there, in their order. -/
theorem foldl_targets {step : σ → α → σ} (target : α → Option ι) (f : β → α → β)
    (hstep : ∀ s a, Inv s → Inv (step s a) ∧
      ∀ i, read (step s a) i = if target a = some i then f (read s i) a else read s i) :
    ∀ (things : List α) (s : σ), Inv s → Inv (things.foldl step s) ∧ ∀ i,
      read (things.foldl step s) i
        = (things.filter fun a => decide (target a = some i)).foldl f (read s i) := by
  intro things
  induction things with
  | nil => exact fun s hs => ⟨hs, fun i => rfl⟩
  | cons a things ih =>
      intro s hs
      obtain ⟨hkeep, hread⟩ := hstep s a hs
      obtain ⟨hend, hvalue⟩ := ih (step s a) hkeep
      refine ⟨hend, fun i => ?_⟩
      rw [List.foldl_cons, hvalue, hread]
      by_cases hi : target a = some i
      · simp [hi]
      · simp [hi]

end Loops

end PointerArray
