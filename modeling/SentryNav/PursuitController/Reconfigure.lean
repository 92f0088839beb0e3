import SentryNav.PursuitController.DynamicParameters
import SentryNav.PursuitController.FreshStart

/-!
# Updating parameters while the controller runs

Every parameter that `dynamicParametersCallback` handles reaches the member that `configure` would
have read it into: `foldl_storeParameter` says that the members are what the node's parameters are.
But `move_pid_` and `heading_pid_` hold copies of their gains and bounds, which only `configure`
makes.

* **Where the copies are those of the updated parameters**, the updated controller cannot be told
  apart from one that was configured with them (`reconfigure_commands`).
* **Where they are not**, it goes on with the old ones (`old_bound_kept`).
-/

namespace SentryNav.PursuitController

variable {K : Type*}

/-! ## Names -/

/-- No parameter of the plugin is that of the controller server. -/
lemma append_ne_controllerFrequency {name : String} (h : '.' ∈ name.toList) (pluginName : String) :
    pluginName ++ name ≠ "controller_frequency" := by
  intro heq
  have hdot : '.' ∈ (pluginName ++ name).toList := by
    rw [String.toList_append]
    exact List.mem_append_right _ h
  rw [heq] at hdot
  exact absurd hdot (by decide)

/-- Assigning by a name from a table does what the table says there. -/
lemma assign_of_mem {α : Type*} {members : List (String × (α → Params K → Params K))}
    (hnodup : (members.map Prod.fst).Nodup) {member : String × (α → Params K → Params K)}
    (hmem : member ∈ members) (pluginName : String) (v : α) (p : Params K) :
    assign members pluginName (pluginName ++ member.1) v p = member.2 v p := by
  have hfind : (members.find? fun other => pluginName ++ member.1 = pluginName ++ other.1)
      = some member := by
    simp only [String.append_right_inj]
    induction members with
    | nil => exact absurd hmem List.not_mem_nil
    | cons other members ih =>
        rw [List.map_cons, List.nodup_cons] at hnodup
        rw [List.find?_cons]
        rcases List.mem_cons.mp hmem with rfl | hmem
        · simp
        · have hne : member.1 ≠ other.1 := by
            rintro heq
            exact hnodup.1 (heq ▸ List.mem_map_of_mem hmem)
          simp only [hne, decide_false]
          exact ih hnodup.2 hmem
  rw [assign, hfind]

lemma doubleMembers_nodup : ((doubleMembers (K := K)).map Prod.fst).Nodup := by
  simp only [doubleMembers, List.map_cons, List.map_nil]
  decide

lemma boolMembers_nodup : ((boolMembers (K := K)).map Prod.fst).Nodup := by
  simp only [boolMembers, List.map_cons, List.map_nil]
  decide

lemma dot_mem_of_mem_doubleMembers :
    ∀ member ∈ doubleMembers (K := K), '.' ∈ member.1.toList := by
  simp [doubleMembers]

/-- A table by the names without that of the plugin, after an update by the whole name. -/
lemma update_append {α : Type*} (values : String → α) (pluginName name : String) (v : α) :
    (fun other => Function.update values (pluginName ++ name) v (pluginName ++ other))
      = Function.update (fun other => values (pluginName ++ other)) name v := by
  have hinj : Function.Injective (pluginName ++ ·) := fun _ _ h =>
    (String.append_right_inj pluginName).mp h
  exact Function.update_comp_eq_of_injective values hinj name v

/-! ## Members -/

section Members

variable [Field K]

/-- What `configure` reads are parameters of the plugin. -/
lemma ofValues_congr {double double' : String → K}
    (h : ∀ name, '.' ∈ name.toList → double name = double' name) (controlFrequency : K)
    (bool : String → Bool) :
    Params.ofValues controlFrequency double bool
      = Params.ofValues controlFrequency double' bool := by
  unfold Params.ofValues
  congr 1 <;> exact h _ (by decide)

/-- On a node with its declarations only, `configure` reads the declared defaults. -/
theorem get_declared (pluginName : String) (controlFrequency costmapMaxExtent : K) :
    Params.get pluginName (.declared pluginName controlFrequency costmapMaxExtent)
      = Params.declared controlFrequency costmapMaxExtent := by
  have hdouble : ∀ name : String, '.' ∈ name.toList →
      (ParameterServer.declared pluginName controlFrequency costmapMaxExtent).double
          (pluginName ++ name)
        = (((declaredDoubles costmapMaxExtent).find? fun parameter => name = parameter.1).map
          Prod.snd).getD 0 := by
    intro name hdot
    simp only [ParameterServer.declared, String.append_right_inj,
      if_neg (append_ne_controllerFrequency hdot pluginName)]
  rw [Params.get, ofValues_congr hdouble]
  simp only [ParameterServer.declared, if_true, String.append_right_inj, Params.ofValues,
    Params.declared, declaredDoubles, declaredBools, List.find?, String.reduceEq, decide_false,
    decide_true, Option.map_some, Option.getD_some]

lemma ofValues_update_double (controlFrequency : K) (double : String → K) (bool : String → Bool)
    (v : K) : ∀ member ∈ doubleMembers (K := K),
      Params.ofValues controlFrequency (Function.update double member.1 v) bool
        = member.2 v (Params.ofValues controlFrequency double bool) := by
  simp [doubleMembers, Params.ofValues, Function.update_apply]

lemma ofValues_update_bool (controlFrequency : K) (double : String → K) (bool : String → Bool)
    (b : Bool) : ∀ member ∈ boolMembers (K := K),
      Params.ofValues controlFrequency double (Function.update bool member.1 b)
        = member.2 b (Params.ofValues controlFrequency double bool) := by
  simp [boolMembers, Params.ofValues, Function.update_apply]

omit [Field K] in
/-- The control frequency is not a parameter that the callback handles. -/
lemma set_controllerFrequency {pluginName : String} {parameter : Parameter K}
    (h : Handled pluginName parameter) (server : ParameterServer K) :
    (server.set parameter).double "controller_frequency"
      = server.double "controller_frequency" := by
  rcases parameter with ⟨name, v | b | _⟩
  · obtain ⟨member, hmem, rfl⟩ := h
    have hdot := dot_mem_of_mem_doubleMembers member hmem
    exact Function.update_of_ne (append_ne_controllerFrequency hdot pluginName).symm _ _
  · rfl
  · rfl

/-- A parameter that the callback handles reaches the member that `configure` would read it
into. -/
lemma get_set {pluginName : String} {parameter : Parameter K} (h : Handled pluginName parameter)
    (server : ParameterServer K) :
    Params.get pluginName (server.set parameter)
      = storeParameter pluginName (Params.get pluginName server) parameter := by
  rw [Params.get, set_controllerFrequency h]
  rcases parameter with ⟨name, v | b | _⟩
  · obtain ⟨member, hmem, rfl⟩ := h
    simp only [storeParameter, assign_of_mem doubleMembers_nodup hmem, Params.get,
      ← ofValues_update_double _ _ _ _ member hmem, ParameterServer.set, update_append]
  · obtain ⟨member, hmem, rfl⟩ := h
    simp only [storeParameter, assign_of_mem boolMembers_nodup hmem, Params.get,
      ← ofValues_update_bool _ _ _ _ member hmem, ParameterServer.set, update_append]
  · exact h.elim

/-- The control period stays. -/
lemma foldl_set_controlDuration {pluginName : String} {parameters : List (Parameter K)}
    (h : ∀ x ∈ parameters, Handled pluginName x) (server : ParameterServer K) :
    (Params.get pluginName (parameters.foldl ParameterServer.set server)).controlDuration
      = (Params.get pluginName server).controlDuration := by
  induction parameters generalizing server with
  | nil => rfl
  | cons x parameters ih =>
      obtain ⟨hx, hrest⟩ := List.forall_mem_cons.mp h
      rw [List.foldl_cons, ih hrest]
      simp only [Params.get, Params.ofValues, set_controllerFrequency hx]

/-- **Every handled parameter reaches its member**, whatever else is updated before and after. -/
lemma foldl_storeParameter {pluginName : String} {parameters : List (Parameter K)}
    (h : ∀ x ∈ parameters, Handled pluginName x) (server : ParameterServer K) :
    parameters.foldl (storeParameter pluginName) (Params.get pluginName server)
      = Params.get pluginName (parameters.foldl ParameterServer.set server) := by
  induction parameters generalizing server with
  | nil => rfl
  | cons x parameters ih =>
      obtain ⟨hx, hrest⟩ := List.forall_mem_cons.mp h
      rw [List.foldl_cons, List.foldl_cons, ← get_set hx, ih hrest]

end Members

/-! ## The controller -/

section Controller

variable [Field K] [LinearOrder K]

/-- A controller as `configure` and later updates leave it: the members are what the parameters of
the node are, and the PIDs go by the control period. -/
structure Configured (pluginName : String) (server : ParameterServer K) (c : Controller K) :
    Prop where
  params : c.params = Params.get pluginName server
  moveDt : c.movePid.dt = c.params.controlDuration
  headingDt : c.headingPid.dt = c.params.controlDuration

/-- The copies that the PIDs hold are those of the parameters; that for the heading counts only if
there is to be a rotation. -/
structure CopiesOf (p : Params K) (c : Controller K) : Prop where
  translation : c.movePid.kp = p.translationKp ∧ c.movePid.ki = p.translationKi ∧
    c.movePid.kd = p.translationKd
  linear : c.movePid.min = p.vLinearMin ∧ c.movePid.max = p.vLinearMax
  rotation : p.enableRotation = true → c.headingPid.kp = p.rotationKp ∧
    c.headingPid.ki = p.rotationKi ∧ c.headingPid.kd = p.rotationKd
  angular : p.enableRotation = true → c.headingPid.min = p.vAngularMin ∧
    c.headingPid.max = p.vAngularMax

/-- A controller configured with some parameters, with the run-time state of another. -/
def configureHolding (p : Params K) (c : Controller K) : Controller K :=
  let fresh := configure p c
  { fresh with
    movePid :=
      { fresh.movePid with preError := c.movePid.preError, integral := c.movePid.integral }
    headingPid :=
      { fresh.headingPid with
        preError := c.headingPid.preError, integral := c.headingPid.integral } }

variable {pluginName : String} {server : ParameterServer K} {updates : List (Parameter K)}
  {p : Params K} {c : Controller K} {m : Libm K} {nav2 : Nav2 K}

omit [LinearOrder K] in
/-- `configure` leaves a configured controller. -/
lemma configured_configure (pluginName : String) (server : ParameterServer K) (c : Controller K) :
    Configured pluginName server (configure (Params.get pluginName server) c) := ⟨rfl, rfl, rfl⟩

/-- Every call leaves one. -/
lemma Configured.call (h : Configured pluginName server c) (x : Call K) :
    Configured pluginName server (call m nav2 c x).1 := by
  cases x with
  | setPlan path => exact ⟨h.params, h.moveDt, h.headingDt⟩
  | computeVelocityCommands i =>
      rw [PursuitController.call]
      obtain ⟨globalPlan, ⟨reason, hcycle⟩ | ⟨plan, hcycle⟩⟩ := runCycle_cases m nav2 i c
      · rw [hcycle]
        exact ⟨h.params, h.moveDt, h.headingDt⟩
      · rw [hcycle]
        refine ⟨h.params, h.moveDt, ?_⟩
        simp only [computeDrive]
        split <;> exact h.headingDt

omit [LinearOrder K] in
/-- Every update of parameters that the callback handles leaves one. -/
lemma Configured.update (h : Configured pluginName server c)
    (hhandled : ∀ x ∈ updates, Handled pluginName x) :
    Configured pluginName (updates.foldl ParameterServer.set server)
      (dynamicParametersCallback pluginName updates c).2 := by
  have hparams : (dynamicParametersCallback pluginName updates c).2.params
      = Params.get pluginName (updates.foldl ParameterServer.set server) := by
    rw [← foldl_storeParameter hhandled, ← h.params]
    rfl
  have hduration : (dynamicParametersCallback pluginName updates c).2.params.controlDuration
      = c.params.controlDuration := by
    rw [hparams, foldl_set_controlDuration hhandled, h.params]
  exact ⟨hparams, h.moveDt.trans hduration.symm, h.headingDt.trans hduration.symm⟩

omit [LinearOrder K] in
/-- A PID is what it was made from, and its run-time state. -/
lemma PID.eq_make {pid : PID K} {dt max min kp kd ki : K} (hdt : pid.dt = dt) (hmax : pid.max = max)
    (hmin : pid.min = min) (hkp : pid.kp = kp) (hkd : pid.kd = kd) (hki : pid.ki = ki) :
    pid = { PID.make dt max min kp kd ki with
      preError := pid.preError, integral := pid.integral } := by
  subst hdt hmax hmin hkp hkd hki
  rfl

omit [LinearOrder K] in
/-- Updating gives the same as configuring, if the PIDs hold what they would then be made with. -/
lemma callback_same (hstate : Configured pluginName server c)
    (hhandled : ∀ x ∈ updates, Handled pluginName x)
    (hcopies : CopiesOf (Params.get pluginName (updates.foldl ParameterServer.set server)) c) :
    Same (dynamicParametersCallback pluginName updates c).2
      (configureHolding (Params.get pluginName (updates.foldl ParameterServer.set server)) c) := by
  obtain ⟨hparams, hmoveDt, hheadingDt⟩ := hstate.update hhandled
  rw [hparams] at hmoveDt hheadingDt
  refine ⟨⟨hparams, ?_, fun hrotation => ?_⟩, rfl, rfl⟩
  · obtain ⟨hkp, hki, hkd⟩ := hcopies.translation
    obtain ⟨hmin, hmax⟩ := hcopies.linear
    exact PID.eq_make hmoveDt hmax hmin hkp hkd hki
  · rw [hparams] at hrotation
    obtain ⟨hkp, hki, hkd⟩ := hcopies.rotation hrotation
    obtain ⟨hmin, hmax⟩ := hcopies.angular hrotation
    exact PID.eq_make hheadingDt hmax hmin hkp hkd hki

/-- **Updating is configuring, where the PIDs are not concerned**: for every state of a configured
controller and every vector of parameters that the callback handles, all of which it accepts, later
calls give the commands of a controller that was configured with the updated values and holds the
same run-time state, if the gains and bounds in the PIDs are those of the updated values. -/
theorem reconfigure_commands (m : Libm K) (nav2 : Nav2 K) (pluginName : String)
    (server : ParameterServer K) (updates : List (Parameter K)) (c : Controller K)
    (hstate : Configured pluginName server c) (hhandled : ∀ x ∈ updates, Handled pluginName x)
    (hcopies : CopiesOf (Params.get pluginName (updates.foldl ParameterServer.set server)) c)
    (calls : List (Call K)) :
    (dynamicParametersCallback pluginName updates c).1 = true ∧
      commands m nav2 (dynamicParametersCallback pluginName updates c).2 calls
        = commands m nav2
          (configureHolding (Params.get pluginName (updates.foldl ParameterServer.set server)) c)
          calls :=
  ⟨rfl, (callback_same hstate hhandled hcopies).commands m nav2 calls⟩

end Controller

/-! ## Slowing down -/

/-- A node with the declared parameters. -/
def declaredServer : ParameterServer ℚ := .declared "FollowPath" 20 2.5

/-- The controller configured from it. -/
def declaredController : Controller ℚ :=
  configure (Params.get "FollowPath" declaredServer) (remembering 0)

/-- A shorter look-ahead distance. -/
def lookCloser : List (Parameter ℚ) := [⟨"FollowPath.lookahead_dist", .double 0.2⟩]

/-- A lower bound for the speed. -/
def slowDown : List (Parameter ℚ) := [⟨"FollowPath.v_linear_max", .double 1.0⟩]

/-- The look-ahead distance can be updated. -/
theorem reconfigure_commands_lookCloser :
    (dynamicParametersCallback "FollowPath" lookCloser declaredController).1 = true ∧
      commands exactLibm shortPlan
          (dynamicParametersCallback "FollowPath" lookCloser declaredController).2
          [.setPlan ahead, .computeVelocityCommands onFreeMap]
        = commands exactLibm shortPlan
          (configureHolding
            (Params.get "FollowPath" (lookCloser.foldl ParameterServer.set declaredServer))
            declaredController)
          [.setPlan ahead, .computeVelocityCommands onFreeMap] := by
  have hhandled : ∀ x ∈ lookCloser, Handled "FollowPath" x := by
    simp only [lookCloser, List.forall_mem_singleton]
    exact ⟨_, List.mem_of_getElem? (i := 8) rfl, rfl⟩
  have hcopies : CopiesOf
      (Params.get "FollowPath" (lookCloser.foldl ParameterServer.set declaredServer))
      declaredController :=
    ⟨by decide +kernel, by decide +kernel, fun _ => by decide +kernel, fun _ => by decide +kernel⟩
  exact reconfigure_commands exactLibm shortPlan "FollowPath" declaredServer lookCloser
    declaredController (configured_configure _ _ _) hhandled hcopies
    [.setPlan ahead, .computeVelocityCommands onFreeMap]

/-- The bound of the speed cannot: the update is accepted, and the old bound is kept. -/
theorem old_bound_kept :
    (dynamicParametersCallback "FollowPath" slowDown declaredController).1 = true ∧
      Handled "FollowPath" (⟨"FollowPath.v_linear_max", .double 1.0⟩ : Parameter ℚ) ∧
      Configured "FollowPath" declaredServer declaredController ∧
      commands exactLibm shortPlan
          (dynamicParametersCallback "FollowPath" slowDown declaredController).2
          [.setPlan ahead, .computeVelocityCommands onFreeMap]
        ≠ commands exactLibm shortPlan
          (configureHolding
            (Params.get "FollowPath" (slowDown.foldl ParameterServer.set declaredServer))
            declaredController)
          [.setPlan ahead, .computeVelocityCommands onFreeMap] := by
  refine ⟨rfl, ⟨_, List.mem_of_getElem? (i := 15) rfl, rfl⟩, configured_configure _ _ _, ?_⟩
  decide +kernel

end SentryNav.PursuitController
