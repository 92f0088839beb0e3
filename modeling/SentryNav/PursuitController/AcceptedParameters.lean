import SentryNav.Core.Register
import SentryNav.PursuitController.Reconfigure

/-!
# What the accepted parameters satisfy

Some parameters make sense together only: `std::clamp` asks that its lower bound is not above its
upper one.  `dynamicParametersCallback` stores each value for itself and accepts all of them, so
whether the bounds are in order is up to those who set them.

* `ordered_after` says what it takes: of every parameter the value that was given last counts,
  whichever update it came with and whatever cycles ran in between.
* `clampCalls_ordered`: while the parameters are in order, so are the bounds in every call of
  `std::clamp`.
* `disordered_bounds_accepted`: one accepted update is enough to call it with bounds that are not.
-/

namespace SentryNav.PursuitController

open Limiter Machine

variable {K : Type*} [Field K] [LinearOrder K]

/-! ## Parameters in order -/

/-- Lower bounds are not above upper bounds, and the rate of change is not negative. -/
structure Params.Ordered (p : Params K) : Prop where
  lookahead : p.minLookaheadDist ≤ p.maxLookaheadDist
  linear : p.vLinearMin ≤ p.vLinearMax
  angular : p.vAngularMin ≤ p.vAngularMax
  rate : 0 ≤ p.maxVelocityScalingFactorRate

lemma Params.ordered_iff {p : Params K} :
    p.Ordered ↔ p.minLookaheadDist ≤ p.maxLookaheadDist ∧ p.vLinearMin ≤ p.vLinearMax ∧
      p.vAngularMin ≤ p.vAngularMax ∧ 0 ≤ p.maxVelocityScalingFactorRate :=
  ⟨fun h => ⟨h.lookahead, h.linear, h.angular, h.rate⟩, fun ⟨h₁, h₂, h₃, h₄⟩ => ⟨h₁, h₂, h₃, h₄⟩⟩

instance (p : Params K) : Decidable p.Ordered := decidable_of_iff' _ Params.ordered_iff

/-! ## The calls of `std::clamp` -/

/-- The arguments of `std::clamp`. -/
structure ClampCall (K : Type*) where
  v : K
  lo : K
  hi : K

/-- The result. -/
def ClampCall.result (x : ClampCall K) : K := clamp x.v x.lo x.hi

/-- The call in `getLookAheadDistance`, if it is reached. -/
def lookAheadClamp? (m : Libm K) (p : Params K) (speed : Twist K) : Option (ClampCall K) :=
  if p.useVelocityScaledLookaheadDist then
    some
      { v := m.hypot speed.linear.x speed.linear.y * p.lookaheadTime
        lo := p.minLookaheadDist
        hi := p.maxLookaheadDist }
  else none

/-- The call in `applyCurvatureLimitation`, if it is reached. -/
def curvatureClamp? (p : Params K) (last curvature linearVel : K) : Option (ClampCall K) :=
  if p.curvatureMin < curvature then
    some
      { v := linearVel * reductionRatio p curvature - last
        lo := -p.maxVelocityScalingFactorRate * p.controlDuration
        hi := p.maxVelocityScalingFactorRate * p.controlDuration }
  else none

/-- The calls that a cycle makes, from the parameters and the last speed before it. -/
def Cycle.clampCalls (m : Libm K) (p : Params K) (velocity : Twist K) (last : K) :
    Cycle K → List (ClampCall K)
  | .unplanned _ => []
  | .driven _ drive _ =>
      (lookAheadClamp? m p velocity).toList
        ++ (curvatureClamp? p last drive.curvature drive.pidVel).toList

/-- The calls of `std::clamp` that `computeVelocityCommands` reaches. -/
def clampCalls (m : Libm K) (nav2 : Nav2 K) (i : CycleInput K) (c : Controller K) :
    List (ClampCall K) :=
  (runCycle m nav2 i c).1.clampCalls m c.params i.velocity c.lastVelocityScalingFactor

lemma getLookAheadDistance_eq (m : Libm K) (p : Params K) (speed : Twist K) :
    getLookAheadDistance m p speed
      = ((lookAheadClamp? m p speed).map ClampCall.result).getD p.lookaheadDist := by
  rw [getLookAheadDistance, lookAheadClamp?]
  split <;> rfl

lemma applyCurvatureLimitation_clamp (p : Params K) (last curvature linearVel : K) :
    applyCurvatureLimitation p last curvature linearVel
      = min linearVel
          (max (((curvatureClamp? p last curvature linearVel).map fun x => last + x.result).getD
            linearVel) (2.0 * p.minApproachLinearVelocity)) := by
  rw [applyCurvatureLimitation, curvatureClamp?]
  split <;> rfl

variable {m : Libm K} {nav2 : Nav2 K}

/-- **While the parameters are in order**, and time does not run backwards, so are the bounds in
every call. -/
lemma clampCalls_ordered [IsStrictOrderedRing K] {c : Controller K} (h : c.params.Ordered)
    (hduration : 0 ≤ c.params.controlDuration) {i : CycleInput K} {x : ClampCall K}
    (hx : x ∈ clampCalls m nav2 i c) : x.lo ≤ x.hi := by
  rw [clampCalls] at hx
  cases hcycle : (runCycle m nav2 i c).1 with
  | unplanned reason =>
      rw [hcycle] at hx
      exact absurd hx List.not_mem_nil
  | driven plan drive result =>
      rw [hcycle, Cycle.clampCalls, List.mem_append, Option.mem_toList, Option.mem_toList,
        lookAheadClamp?, curvatureClamp?, Option.ite_none_right_eq_some,
        Option.ite_none_right_eq_some] at hx
      rcases hx with ⟨-, hx⟩ | ⟨-, hx⟩
      · obtain rfl := Option.some_inj.mp hx
        exact h.lookahead
      · obtain rfl := Option.some_inj.mp hx
        have hstep := mul_nonneg h.rate hduration
        rw [neg_mul]
        exact (neg_nonpos.mpr hstep).trans hstep

/-! ## The value given last -/

/-- The value that an update gives for a double. -/
def givenDouble? (name : String) (parameter : Parameter K) : Option K :=
  match parameter.value with
  | .double v => if parameter.name = name then some v else none
  | .bool _ => none
  | .other => none

/-- The value that some updates gave last for a double of the plugin; `start` if they gave none. -/
def lastGiven (pluginName name : String) (start : K) (updates : List (Parameter K)) : K :=
  Register.last (givenDouble? (pluginName ++ name)) start updates

/-- A member that holds the double of a name: this is stored in it, and nothing else is. -/
structure Holds (name : String) (get : Params K → K) : Prop where
  handled : ∃ member ∈ doubleMembers (K := K), member.1 = name
  double : ∀ member ∈ doubleMembers (K := K), ∀ v p,
    get (member.2 v p) = if member.1 = name then v else get p
  bool : ∀ member ∈ boolMembers (K := K), ∀ b p, get (member.2 b p) = get p

/-- The members whose order matters. -/
def orderedMembers : List (String × (Params K → K)) :=
  [(".min_lookahead_dist", Params.minLookaheadDist),
    (".max_lookahead_dist", Params.maxLookaheadDist),
    (".v_linear_min", Params.vLinearMin),
    (".v_linear_max", Params.vLinearMax),
    (".v_angular_min", Params.vAngularMin),
    (".v_angular_max", Params.vAngularMax),
    (".max_velocity_scaling_factor_rate", Params.maxVelocityScalingFactorRate)]

omit [Field K] [LinearOrder K] in
lemma holds_orderedMembers : ∀ x ∈ orderedMembers (K := K), Holds x.1 x.2 := by
  have hhandled : ∀ x ∈ orderedMembers (K := K), x.1 ∈ (doubleMembers (K := K)).map Prod.fst := by
    simp only [orderedMembers, doubleMembers, List.forall_mem_cons, List.map_cons, List.map_nil,
      List.not_mem_nil, false_implies, implies_true, and_true]
    decide
  have hdouble : ∀ x ∈ orderedMembers (K := K), ∀ member ∈ doubleMembers (K := K), ∀ v p,
      x.2 (member.2 v p) = if member.1 = x.1 then v else x.2 p := by
    simp only [orderedMembers, doubleMembers, List.forall_mem_cons, List.not_mem_nil,
      String.reduceEq, if_true, if_false, implies_true, and_self, false_implies]
  have hbool : ∀ x ∈ orderedMembers (K := K), ∀ member ∈ boolMembers (K := K), ∀ b p,
      x.2 (member.2 b p) = x.2 p := by
    simp only [orderedMembers, boolMembers, List.forall_mem_cons, List.not_mem_nil, implies_true,
      and_self, false_implies]
  exact fun x hx => ⟨List.mem_map.mp (hhandled x hx), hdouble x hx, hbool x hx⟩

omit [Field K] [LinearOrder K] in
/-- An assignment that no fitting member of the table makes to what is read. -/
lemma assign_frame {α β : Type*} {members : List (String × (α → Params K → Params K))}
    {get : Params K → β} {pluginName name : String} {v : α} {p : Params K}
    (h : ∀ member ∈ members, name = pluginName ++ member.1 → get (member.2 v p) = get p) :
    get (assign members pluginName name v p) = get p := by
  rw [assign]
  split
  · next member hfind =>
      have hfits := List.find?_some hfind
      exact h member (List.mem_of_find?_eq_some hfind) (of_decide_eq_true hfits)
  · rfl

omit [Field K] [LinearOrder K] in
/-- One pass of the loop gives the member a new value, or leaves it. -/
lemma Holds.store {name : String} {get : Params K → K} (h : Holds name get) (pluginName : String)
    (p : Params K) (parameter : Parameter K) :
    get (storeParameter pluginName p parameter)
      = (givenDouble? (pluginName ++ name) parameter).getD (get p) := by
  rcases parameter with ⟨given, v | b | _⟩
  · obtain ⟨member, hmem, rfl⟩ := h.handled
    simp only [storeParameter, givenDouble?]
    split
    · next heq =>
        obtain rfl := heq
        rw [assign_of_mem doubleMembers_nodup hmem, h.double member hmem, if_pos rfl,
          Option.getD_some]
    · next hne =>
        refine assign_frame fun other hother hgiven => ?_
        have hother' : other.1 ≠ member.1 := fun heq => hne (heq ▸ hgiven)
        rw [h.double other hother, if_neg hother']
  · exact assign_frame fun other hother _ => h.bool other hother b p
  · rfl

/-! ## Updates and calls, in any order -/

/-- What happens to an active controller.  Updates and cycles take the same lock. -/
inductive Event (K : Type*)
  | update (parameters : List (Parameter K))
  | call (x : Call K)

/-- The controller after an event. -/
def handle (m : Libm K) (nav2 : Nav2 K) (pluginName : String) (c : Controller K) :
    Event K → Controller K
  | .update parameters => (dynamicParametersCallback pluginName parameters c).2
  | .call x => (call m nav2 c x).1

/-- The updates of a run, one parameter after the other. -/
def updates (events : List (Event K)) : List (Parameter K) :=
  events.flatMap fun
    | .update parameters => parameters
    | .call _ => []

/-- The inequalities hold of the values that were given last. -/
structure LastValuesOrdered (pluginName : String) (p : Params K) (updates : List (Parameter K)) :
    Prop where
  lookahead : lastGiven pluginName ".min_lookahead_dist" p.minLookaheadDist updates
    ≤ lastGiven pluginName ".max_lookahead_dist" p.maxLookaheadDist updates
  linear : lastGiven pluginName ".v_linear_min" p.vLinearMin updates
    ≤ lastGiven pluginName ".v_linear_max" p.vLinearMax updates
  angular : lastGiven pluginName ".v_angular_min" p.vAngularMin updates
    ≤ lastGiven pluginName ".v_angular_max" p.vAngularMax updates
  rate : 0 ≤ lastGiven pluginName ".max_velocity_scaling_factor_rate"
    p.maxVelocityScalingFactorRate updates

variable (m nav2) in
/-- A call does not change the parameters. -/
lemma call_params (c : Controller K) (x : Call K) : (call m nav2 c x).1.params = c.params := by
  cases x with
  | setPlan path => rfl
  | computeVelocityCommands i =>
      rw [call]
      obtain ⟨globalPlan, ⟨reason, hcycle⟩ | ⟨plan, hcycle⟩⟩ := runCycle_cases m nav2 i c
      · rw [hcycle]
      · rw [hcycle]
        rfl

variable (m nav2) in
/-- **The parameters after a run** are those before it, with all updates stored one after the
other. -/
lemma run_params (pluginName : String) (c : Controller K) (events : List (Event K)) :
    (run (handle m nav2 pluginName) c events).params
      = (updates events).foldl (storeParameter pluginName) c.params := by
  induction events generalizing c with
  | nil => rfl
  | cons e events ih =>
      rw [run, ih]
      cases e with
      | update parameters =>
          rw [handle, updates, updates, List.flatMap_cons, List.foldl_append]
          rfl
      | call x => rw [handle, call_params, updates, updates, List.flatMap_cons, List.nil_append]

variable (m nav2) in
/-- A member that holds a double has the value that was given last. -/
lemma Holds.run {name : String} {get : Params K → K} (h : Holds name get) (pluginName : String)
    (c : Controller K) (events : List (Event K)) :
    get (run (handle m nav2 pluginName) c events).params
      = lastGiven pluginName name (get c.params) (updates events) := by
  rw [run_params, lastGiven, Register.foldl_eq_last (h.store pluginName)]

omit [Field K] [LinearOrder K] in
/-- The control period is not a parameter that can be updated. -/
lemma foldl_store_controlDuration (pluginName : String) (p : Params K)
    (parameters : List (Parameter K)) :
    (parameters.foldl (storeParameter pluginName) p).controlDuration = p.controlDuration := by
  have hdouble : ∀ member ∈ doubleMembers (K := K), ∀ v p,
      (member.2 v p).controlDuration = p.controlDuration := by
    simp only [doubleMembers, List.forall_mem_cons, List.not_mem_nil, implies_true, and_self,
      false_implies]
  have hbool : ∀ member ∈ boolMembers (K := K), ∀ b p,
      (member.2 b p).controlDuration = p.controlDuration := by
    simp only [boolMembers, List.forall_mem_cons, List.not_mem_nil, implies_true, and_self,
      false_implies]
  induction parameters generalizing p with
  | nil => rfl
  | cons parameter parameters ih =>
      rw [List.foldl_cons, ih]
      rcases parameter with ⟨given, v | b | _⟩
      · exact assign_frame fun member hmem _ => hdouble member hmem v p
      · exact assign_frame fun member hmem _ => hbool member hmem b p
      · rfl

/-- **What the accepted parameters satisfy.**  Every vector of parameters is accepted.  After every
run of updates and calls the parameters are in order exactly if the values that were given last are,
with the value from before the run where none was given; and then, if the control period is not
negative, every call of `std::clamp` that the next cycle reaches has its bounds in order. -/
theorem ordered_after [IsStrictOrderedRing K] (m : Libm K) (nav2 : Nav2 K) (pluginName : String)
    (c : Controller K) (events : List (Event K)) :
    (∀ (parameters : List (Parameter K)) (c' : Controller K),
        (dynamicParametersCallback pluginName parameters c').1 = true) ∧
      ((run (handle m nav2 pluginName) c events).params.Ordered ↔
        LastValuesOrdered pluginName c.params (updates events)) ∧
      (LastValuesOrdered pluginName c.params (updates events) → 0 ≤ c.params.controlDuration →
        ∀ i, ∀ x ∈ clampCalls m nav2 i (run (handle m nav2 pluginName) c events), x.lo ≤ x.hi) := by
  have hread : ∀ (k : ℕ) (name : String) (get : Params K → K),
      orderedMembers[k]? = some (name, get) →
      get (run (handle m nav2 pluginName) c events).params
        = lastGiven pluginName name (get c.params) (updates events) := by
    intro k name get hk
    exact (holds_orderedMembers _ (List.mem_of_getElem? hk)).run m nav2 pluginName c events
  have hordered : (run (handle m nav2 pluginName) c events).params.Ordered ↔
      LastValuesOrdered pluginName c.params (updates events) := by
    rw [Params.ordered_iff, hread 0 _ _ rfl, hread 1 _ _ rfl, hread 2 _ _ rfl, hread 3 _ _ rfl,
      hread 4 _ _ rfl, hread 5 _ _ rfl, hread 6 _ _ rfl]
    exact ⟨fun ⟨h₁, h₂, h₃, h₄⟩ => ⟨h₁, h₂, h₃, h₄⟩,
      fun h => ⟨h.lookahead, h.linear, h.angular, h.rate⟩⟩
  refine ⟨fun _ _ => rfl, hordered, fun hlast hduration i x hx => ?_⟩
  refine clampCalls_ordered (hordered.mpr hlast) ?_ hx
  rwa [run_params, foldl_store_controlDuration]

/-! ### Raising the look-ahead distance -/

/-- A larger lower bound of the look-ahead distance, above the declared upper one. -/
def raiseMin : List (Parameter ℚ) := [⟨"FollowPath.min_lookahead_dist", .double 2.0⟩]

/-- A larger upper bound. -/
def raiseMax : List (Parameter ℚ) := [⟨"FollowPath.max_lookahead_dist", .double 3.0⟩]

/-- With both updates the bounds are in order again, and so are those of the clamps. -/
theorem ordered_after_both :
    (run (handle exactLibm shortPlan "FollowPath") declaredController
        [.update raiseMin, .call (.setPlan ahead), .update raiseMax]).params.Ordered ∧
      ∀ x ∈ clampCalls exactLibm shortPlan onFreeMap
        (run (handle exactLibm shortPlan "FollowPath") declaredController
          [.update raiseMin, .call (.setPlan ahead), .update raiseMax]), x.lo ≤ x.hi := by
  have hlast : LastValuesOrdered "FollowPath" declaredController.params
      (updates [.update raiseMin, .call (.setPlan ahead), .update raiseMax]) :=
    ⟨by decide +kernel, by decide +kernel, by decide +kernel, by decide +kernel⟩
  obtain ⟨-, hordered, hclamps⟩ := ordered_after exactLibm shortPlan "FollowPath"
    declaredController [.update raiseMin, .call (.setPlan ahead), .update raiseMax]
  exact ⟨hordered.mpr hlast, hclamps hlast (by decide +kernel) onFreeMap⟩

/-- **With the first one alone they are not**: the declared parameters are in order, the update is
accepted, and the next cycle calls `std::clamp` with a lower bound above the upper one. -/
theorem disordered_bounds_accepted :
    declaredController.params.Ordered ∧
      (dynamicParametersCallback "FollowPath" raiseMin declaredController).1 = true ∧
      ¬ (dynamicParametersCallback "FollowPath" raiseMin declaredController).2.params.Ordered ∧
      ∃ x ∈ clampCalls exactLibm shortPlan onFreeMap
        (run (handle exactLibm shortPlan "FollowPath") declaredController
          [.update raiseMin, .call (.setPlan ahead)]), x.hi < x.lo := by
  decide +kernel

end SentryNav.PursuitController
