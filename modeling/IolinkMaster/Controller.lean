import IolinkMaster.Library.Family
import IolinkMaster.NextTick

/-!
# The controller

The controller initializes a group of ports, gives each of them its tick, and answers when the
next tick of any of them is useful.  Its ports do not see each other: in every run each port is
where the calls made on it alone take it, and the time the controller announces is the first at
which a tick changes anything in one of them.
-/

namespace IolinkMaster

/-! ### State -/

/-- A group of ports, of which the first `portCount` are driven. -/
structure Controller where
  ports : List World
  portCount : Nat
  bounded : portCount ≤ ports.length

/-- Initialize the ports from port `i` on, up to the first one that fails; the number of ports
initialized and the result. -/
def initPorts (envs : Nat → Env) : Nat → List (World × PhyApi × Config) →
    List World × Nat × Int
  | i, [] => ([], i, STATUS_OK)
  | i, (w, phy, config) :: rest =>
    let (w, ret) := initPort (envs i) w phy config
    if ret ≠ STATUS_OK then (w :: rest.map Prod.fst, i, ret)
    else
      let (ws, count, ret) := initPorts envs (i + 1) rest
      (w :: ws, count, ret)

theorem initPorts_failed {envs : Nat → Env} {i : Nat} {w : World} {phy : PhyApi} {config : Config}
    (h : (initPort (envs i) w phy config).2 ≠ STATUS_OK) (rest : List (World × PhyApi × Config)) :
  initPorts envs i ((w, phy, config) :: rest)
    = ((initPort (envs i) w phy config).1 :: rest.map Prod.fst, i,
        (initPort (envs i) w phy config).2)
  := by
  rw [initPorts]
  apply if_pos h

theorem initPorts_up {envs : Nat → Env} {i : Nat} {w : World} {phy : PhyApi} {config : Config}
    (h : (initPort (envs i) w phy config).2 = STATUS_OK) (rest : List (World × PhyApi × Config)) :
  initPorts envs i ((w, phy, config) :: rest)
    = ((initPort (envs i) w phy config).1 :: (initPorts envs (i + 1) rest).1,
        (initPorts envs (i + 1) rest).2.1, (initPorts envs (i + 1) rest).2.2)
  := by
  rw [initPorts]
  apply if_neg (not_not.mpr h)

theorem initPorts_bounded (envs : Nat → Env) (i : Nat) (slots : List (World × PhyApi × Config)) :
  i ≤ (initPorts envs i slots).2.1 ∧
    (initPorts envs i slots).2.1 ≤ i + (initPorts envs i slots).1.length
  := by
  induction slots generalizing i with
  | nil => exact ⟨Nat.le_refl i, Nat.le_refl i⟩
  | cons slot rest ih =>
      obtain ⟨w, phy, config⟩ := slot
      by_cases hup : (initPort (envs i) w phy config).2 = STATUS_OK
      · have hrest := ih (i + 1)
        rw [initPorts_up hup]
        dsimp only
        rw [List.length_cons]
        omega
      · rw [initPorts_failed hup]
        exact ⟨Nat.le_refl i, Nat.le_add_right i _⟩

/-- Initialize a controller; a group without ports is refused. -/
def controllerInit (envs : Nat → Env) (c : Controller)
    (slots : List (World × PhyApi × Config)) : Controller × Int :=
  if slots = [] then (c, ERR_INVALID_ARG)
  else
    (⟨(initPorts envs 0 slots).1, (initPorts envs 0 slots).2.1,
      by simpa using (initPorts_bounded envs 0 slots).2⟩,
      (initPorts envs 0 slots).2.2)

/-- The error the controller reports: the first negative result. -/
def firstError : Int → Int → Int := Family.keepFirst (fun ret => decide (ret < 0)) STATUS_OK

theorem length_sweep (tick : Nat → World → World × Int) (c : Controller) :
  ((Family.sweep tick firstError 0 STATUS_OK (c.ports.take c.portCount)).1
      ++ c.ports.drop c.portCount).length = c.ports.length
  := by
  rw [Family.sweep_fst, List.length_append, List.length_mapIdx, List.length_take,
    List.length_drop]
  omega

/-- Give each driven port a tick, in the order of the ports. -/
def Controller.tickPorts (tick : Nat → World → World × Int) (c : Controller) :
    Controller × Int :=
  let swept := Family.sweep tick firstError 0 STATUS_OK (c.ports.take c.portCount)
  (⟨swept.1 ++ c.ports.drop c.portCount, c.portCount, by
      rw [length_sweep]
      apply c.bounded⟩, swept.2)

/-! ### Operations -/

section

variable (K : Iolinki)

/-- Tick every port; a port whose response timeout is reported processes it. -/
def controllerTick (envs : Nat → Env) (c : Controller) (responseTimeouts : Option (Nat → Bool)) :
    Controller × Int :=
  c.tickPorts fun i w =>
    tickEvent K (envs i) w
      (if responseTimeouts.any fun timeouts => timeouts i then .responseTimeout else .cycleDue)

/-- Tick every port with its own event. -/
def controllerTickEvents (envs : Nat → Env) (c : Controller)
    (events : Option (Nat → TickEvent)) : Controller × Int :=
  c.tickPorts fun i w =>
    tickEvent K (envs i) w (events.elim .cycleDue fun events => events i)

/-- Tick every port at the time `now`. -/
def controllerTickPortsAt (envs : Nat → Env) (c : Controller) (now : UInt32) :
    Controller × Int :=
  c.tickPorts fun i w => controllerTickAt K (envs i) w now

/-- The port at an index. -/
def getPort (c : Controller) (index : Nat) : Option World :=
  if index ≥ c.portCount then none else c.ports[index]?

def getPortCount (c : Controller) : Nat := c.portCount

/-- The earlier of the time announced so far and the next useful tick of a port. -/
def earlierTick (now next : UInt32) (w : World) : UInt32 :=
  if getNextTickTime w.port now < next then getNextTickTime w.port now else next

/-- The time of the next useful tick of any port. -/
def controllerGetNextTickTime (c : Controller) (now : UInt32) : UInt32 :=
  if c.portCount = 0 then now
  else (c.ports.take c.portCount).foldl (earlierTick now) 0xFFFFFFFF

/-! ### Runs -/

/-- The calls an application makes through a controller. -/
inductive ControllerCall where
  | tick (responseTimeouts : Option (Nat → Bool))
  | tickEvents (events : Option (Nat → TickEvent))
  | tickAt (now : UInt32)
  /-- A call on the port that `iolink_master_controller_get_port` gives out. -/
  | port (index : Nat) (call : Call)

/-- A call on the port at an index. -/
def Controller.callPort (env : Env) (c : Controller) (index : Nat) (call : Call) : Controller :=
  match getPort c index with
  | none => c
  | some w =>
    ⟨c.ports.set index (runCall K env w call), c.portCount, by
      rw [List.length_set]
      apply c.bounded⟩

/-- The effect of a call. -/
def runControllerCall (envs : Nat → Env) (c : Controller) : ControllerCall → Controller
  | .tick responseTimeouts => (controllerTick K envs c responseTimeouts).1
  | .tickEvents events => (controllerTickEvents K envs c events).1
  | .tickAt now => (controllerTickPortsAt K envs c now).1
  | .port index call => c.callPort K (envs index) index call

/-- Make calls one after the other. -/
def runController (c : Controller) (calls : List ((Nat → Env) × ControllerCall)) : Controller :=
  calls.foldl (fun c call => runControllerCall K call.1 c call.2) c

/-- What a call through the controller is for the driven port at index `i`. -/
def ControllerCall.onPort (i : Nat) : ControllerCall → Option Call
  | .tick responseTimeouts =>
    some (.tickEvent
      (if responseTimeouts.any fun timeouts => timeouts i then .responseTimeout else .cycleDue))
  | .tickEvents events => some (.tickEvent (events.elim .cycleDue fun events => events i))
  | .tickAt now => some (.controllerTickAt now)
  | .port index call => if index = i then some call else none

/-- The calls made on the driven port at index `i` alone. -/
def portCalls (i : Nat) (calls : List ((Nat → Env) × ControllerCall)) : List (Env × Call) :=
  calls.filterMap fun call => (call.2.onPort i).map fun c => (call.1 i, c)

/-! ### Isolation -/

/-- A tick takes each driven port where its own tick takes it. -/
theorem tickPorts_ports (tick : Nat → World → World × Int) (c : Controller) :
  (c.tickPorts tick).1.ports = Family.advance (fun i w => (tick i w).1) c.portCount c.ports
  := by
  rw [Controller.tickPorts, Family.advance]
  simp only [Family.sweep_fst, Nat.zero_add]

/-- A tick reports the first negative result of the ticks of the driven ports. -/
theorem tickPorts_result (tick : Nat → World → World × Int) (c : Controller) :
  (c.tickPorts tick).2
    = (((c.ports.take c.portCount).mapIdx fun i w => (tick i w).2).find?
        fun ret => decide (ret < 0)).getD STATUS_OK
  := by
  rw [Controller.tickPorts]
  simp only [Family.sweep_snd, Nat.zero_add]
  apply Family.foldl_keepFirst
  decide

/-- The effect of a call on the driven port at index `i`. -/
def actOnPort (call : (Nat → Env) × ControllerCall) (i : Nat) (w : World) : World :=
  match call.2.onPort i with
  | none => w
  | some c => runCall K (call.1 i) w c

/-- A call on one port leaves the others as they are. -/
theorem actOnPort_other (envs : Nat → Env) (call : Call) {index i : Nat} (h : index ≠ i) :
  actOnPort K (envs, .port index call) i = id
  := by
  funext w
  rw [actOnPort, ControllerCall.onPort, if_neg h]
  rfl

/-- The controller drives as many ports as before. -/
theorem runControllerCall_portCount (envs : Nat → Env) (c : Controller) (call : ControllerCall) :
  (runControllerCall K envs c call).portCount = c.portCount
  := by
  cases call with
  | tick | tickEvents | tickAt => rfl
  | port index call =>
      rw [runControllerCall, Controller.callPort]
      split
      · rfl
      · rfl

/-- A call through the controller takes each driven port where its own call takes it. -/
theorem runControllerCall_ports (call : (Nat → Env) × ControllerCall) (c : Controller) :
  (runControllerCall K call.1 c call.2).ports
    = Family.advance (actOnPort K call) c.portCount c.ports
  := by
  obtain ⟨envs, call⟩ := call
  cases call with
  | tick | tickEvents | tickAt => apply tickPorts_ports
  | port index call =>
      apply List.ext_getElem?
      intro i
      rw [Family.getElem?_advance]
      simp only [runControllerCall, Controller.callPort, getPort]
      split
      · next hport =>
        -- No port is given out: the index is beyond the driven ports.
        by_cases hindex : index ≥ c.portCount
        · split
          · next hdriven =>
            have hother : index ≠ i := by omega
            rw [actOnPort_other K envs call hother, Option.map_id_fun, id]
          · rfl
        · rw [if_neg hindex, List.getElem?_eq_none_iff] at hport
          have := c.bounded
          omega
      · next w hport =>
        by_cases hindex : index ≥ c.portCount
        · rw [if_pos hindex] at hport
          contradiction
        · rw [if_neg hindex] at hport
          by_cases heq : index = i
          · subst heq
            have hinside : index < c.ports.length := by
              have := c.bounded
              omega
            rw [List.getElem?_set_self hinside, if_pos (by omega), hport]
            simp [actOnPort, ControllerCall.onPort]
          · rw [List.getElem?_set_ne heq]
            rw [actOnPort_other K envs call heq, Option.map_id_fun, id, ite_self]

theorem runController_cons (c : Controller) (call : (Nat → Env) × ControllerCall)
    (calls : List ((Nat → Env) × ControllerCall)) :
  runController K c (call :: calls) = runController K (runControllerCall K call.1 c call.2) calls
  := rfl

theorem runController_portCount (c : Controller) (calls : List ((Nat → Env) × ControllerCall)) :
  (runController K c calls).portCount = c.portCount
  := by
  induction calls generalizing c with
  | nil => rfl
  | cons call calls ih => rw [runController_cons, ih, runControllerCall_portCount]

theorem runController_ports (c : Controller) (calls : List ((Nat → Env) × ControllerCall)) :
  (runController K c calls).ports
    = calls.foldl (fun ports call => Family.advance (actOnPort K call) c.portCount ports) c.ports
  := by
  induction calls generalizing c with
  | nil => rfl
  | cons call calls ih =>
      rw [runController_cons, ih, runControllerCall_portCount, runControllerCall_ports,
        List.foldl_cons]

/-- The calls made on a port alone take it where all calls take it. -/
theorem run_portCalls (i : Nat) (w : World) (calls : List ((Nat → Env) × ControllerCall)) :
  calls.foldl (fun w call => actOnPort K call i w) w = run K w (portCalls i calls)
  := by
  induction calls generalizing w with
  | nil => simp [portCalls]
  | cons call calls ih =>
      rw [List.foldl_cons, ih, actOnPort]
      cases honport : call.2.onPort i with
      | none => simp [portCalls, honport]
      | some c => simp [portCalls, honport]

/-- After any calls through the controller each driven port is where its own calls take it, and
the other ports are where they were. -/
theorem getElem?_runController (c : Controller) (calls : List ((Nat → Env) × ControllerCall))
    (i : Nat) :
  (runController K c calls).ports[i]?
    = if i < c.portCount then c.ports[i]?.map fun w => run K w (portCalls i calls)
      else c.ports[i]?
  := by
  rw [runController_ports, Family.getElem?_foldl_advance]
  simp only [run_portCalls]

/-! ### Initialization -/

/-- The initialization of the port at index `i`. -/
def initAt (envs : Nat → Env) (i : Nat) (slot : World × PhyApi × Config) : World × Int :=
  initPort (envs i) slot.1 slot.2.1 slot.2.2

/-- The ports `ports` are left by an initialization that started with port `i` and has come up to
port `count` with the result `ret`. -/
structure Initialized (envs : Nat → Env) (i : Nat) (slots : List (World × PhyApi × Config))
    (ports : List World) (count : Nat) (ret : Int) : Prop where
  up : ∀ j, i + j < count → ∃ slot, slots[j]? = some slot ∧
    (initAt envs (i + j) slot).2 = STATUS_OK ∧ ports[j]? = some (initAt envs (i + j) slot).1
  complete : ret = STATUS_OK → count = i + slots.length
  failed : ret ≠ STATUS_OK → ∃ j slot, count = i + j ∧ slots[j]? = some slot ∧
    (initAt envs count slot).2 = ret ∧ ports[j]? = some (initAt envs count slot).1
  later : ∀ j, count < i + j → ports[j]? = slots[j]?.map Prod.fst

theorem initPorts_initialized (envs : Nat → Env) (i : Nat)
    (slots : List (World × PhyApi × Config)) :
  Initialized envs i slots (initPorts envs i slots).1 (initPorts envs i slots).2.1
    (initPorts envs i slots).2.2
  := by
  induction slots generalizing i with
  | nil =>
      refine ⟨?_, fun _ => rfl, fun h => absurd rfl h, fun _ _ => rfl⟩
      intro j hj
      have : i + j < i := hj
      omega
  | cons slot rest ih =>
      obtain ⟨w, phy, config⟩ := slot
      by_cases hup : (initPort (envs i) w phy config).2 = STATUS_OK
      · rw [initPorts_up hup]
        dsimp only
        obtain ⟨hup', hcomplete, hfailed, hlater⟩ := ih (i + 1)
        refine ⟨?_, ?_, ?_, ?_⟩
        · intro j hj
          cases j with
          | zero => exact ⟨(w, phy, config), rfl, hup, rfl⟩
          | succ k =>
              have hk := hup' k (by omega)
              rw [Nat.add_right_comm] at hk
              apply hk
        · intro hret
          rw [hcomplete hret, List.length_cons]
          omega
        · intro hret
          obtain ⟨k, slot, hcount, hslot⟩ := hfailed hret
          exact ⟨k + 1, slot, by omega, hslot⟩
        · intro j hj
          have := (initPorts_bounded envs (i + 1) rest).1
          obtain ⟨k, rfl⟩ : ∃ k, j = k + 1 := ⟨j - 1, by omega⟩
          apply hlater
          omega
      · rw [initPorts_failed hup]
        dsimp only
        refine ⟨?_, fun h => absurd h hup, ?_, ?_⟩
        · intro j hj
          omega
        · intro _
          exact ⟨0, (w, phy, config), rfl, rfl, rfl, rfl⟩
        · intro j hj
          obtain ⟨k, rfl⟩ : ∃ k, j = k + 1 := ⟨j - 1, by omega⟩
          simp

theorem controllerInit_initialized (envs : Nat → Env) (c : Controller)
    {slots : List (World × PhyApi × Config)} (hslots : slots ≠ []) :
  Initialized envs 0 slots (controllerInit envs c slots).1.ports
    (controllerInit envs c slots).1.portCount (controllerInit envs c slots).2
  := by
  rw [controllerInit, if_neg hslots]
  apply initPorts_initialized

end

/-- Three ports that have not been used. -/
def threePorts : List (World × PhyApi × Config) :=
  [Config.bare .type2_1 1 1, Config.bare .type1_1 0 0,
    Config.bare .type0 0 0].map fun config => (powerOn .full config, .full, config)

section

variable {K : Iolinki} {now : UInt32}

/-- The time announced is no later than the one it starts from. -/
theorem foldl_earlierTick_le (ws : List World) (next : UInt32) :
  ws.foldl (earlierTick now) next ≤ next
  := by
  induction ws generalizing next with
  | nil => apply UInt32.le_refl
  | cons w ws ih =>
      rw [List.foldl_cons]
      apply UInt32.le_trans (ih _)
      rw [earlierTick]
      split
      · next hearlier => exact UInt32.le_of_lt hearlier
      · apply UInt32.le_refl

/-- The time announced is no later than the next useful tick of any of the ports. -/
theorem foldl_earlierTick_le_of_mem {ws : List World} {w : World} (h : w ∈ ws) (next : UInt32) :
  ws.foldl (earlierTick now) next ≤ getNextTickTime w.port now
  := by
  induction ws generalizing next with
  | nil => contradiction
  | cons v ws ih =>
      rw [List.foldl_cons]
      rcases List.mem_cons.mp h with rfl | hlater
      · apply UInt32.le_trans (foldl_earlierTick_le ws _)
        rw [earlierTick]
        split
        · apply UInt32.le_refl
        · next hlate => exact UInt32.not_lt.mp hlate
      · apply ih hlater

/-- The time announced is the next useful tick of one of the ports, unless it is the one it starts
from. -/
theorem foldl_earlierTick_mem (ws : List World) (next : UInt32) :
  ws.foldl (earlierTick now) next = next ∨
    ∃ w ∈ ws, ws.foldl (earlierTick now) next = getNextTickTime w.port now
  := by
  induction ws generalizing next with
  | nil => exact .inl rfl
  | cons v ws ih =>
      rw [List.foldl_cons]
      rcases ih (earlierTick now next v) with hstart | ⟨w, hw, hattained⟩
      · rw [hstart, earlierTick]
        split
        · exact .inr ⟨v, List.mem_cons_self, rfl⟩
        · exact .inl rfl
      · exact .inr ⟨w, List.mem_cons_of_mem _ hw, hattained⟩

/-- The driven ports are the ones given out. -/
theorem mem_take_iff {c : Controller} {w : World} :
  w ∈ c.ports.take c.portCount ↔ ∃ i, getPort c i = some w
  := by
  rw [List.mem_iff_getElem?]
  apply exists_congr
  intro i
  rw [getPort]
  by_cases hdriven : i < c.portCount
  · rw [if_neg (Nat.not_le.mpr hdriven), List.getElem?_take_of_lt hdriven]
  · rw [if_pos (Nat.not_lt.mp hdriven), List.getElem?_eq_none]
    rw [List.length_take]
    omega

/-- The time the controller announces is the next useful tick of a driven port, and no later than
that of any. -/
theorem controllerGetNextTickTime_least {c : Controller} (hcount : 0 < c.portCount) :
  (∀ i w, getPort c i = some w → controllerGetNextTickTime c now ≤ getNextTickTime w.port now) ∧
    ∃ i w, getPort c i = some w ∧
      controllerGetNextTickTime c now = getNextTickTime w.port now
  := by
  have hfold : controllerGetNextTickTime c now
      = (c.ports.take c.portCount).foldl (earlierTick now) 0xFFFFFFFF := by
    rw [controllerGetNextTickTime, if_neg (by omega)]
  have hleast : ∀ i w, getPort c i = some w →
      controllerGetNextTickTime c now ≤ getNextTickTime w.port now := by
    intro i w hw
    rw [hfold]
    apply foldl_earlierTick_le_of_mem
    apply mem_take_iff.mpr ⟨i, hw⟩
  refine ⟨hleast, ?_⟩
  rcases @foldl_earlierTick_mem now (c.ports.take c.portCount) 0xFFFFFFFF
    with hmax | ⟨w, hw, hattained⟩
  · -- No port announces a time: the first one cannot be later.
    obtain ⟨w, hw⟩ : ∃ w, getPort c 0 = some w := by
      have := c.bounded
      refine ⟨c.ports[0], ?_⟩
      rw [getPort, if_neg (by omega), List.getElem?_eq_getElem]
    refine ⟨0, w, hw, ?_⟩
    apply UInt32.le_antisymm (hleast 0 w hw)
    rw [hfold, hmax, UInt32.le_iff_toNat_le]
    have := (getNextTickTime w.port now).toNat_lt
    have hrange : (0xFFFFFFFF : UInt32).toNat = 4294967295 := by decide
    omega
  · obtain ⟨i, hi⟩ := mem_take_iff.mp hw
    exact ⟨i, w, hi, by rw [hfold, hattained]⟩

/-- A call through the controller takes the port given out where its own call takes it. -/
theorem getPort_runControllerCall (envs : Nat → Env) (c : Controller) (call : ControllerCall)
    (i : Nat) :
  getPort (runControllerCall K envs c call) i = (getPort c i).map (actOnPort K (envs, call) i)
  := by
  rw [getPort, getPort, runControllerCall_portCount, runControllerCall_ports K (envs, call),
    Family.getElem?_advance]
  by_cases hdriven : i < c.portCount
  · rw [if_neg (Nat.not_le.mpr hdriven), if_neg (Nat.not_le.mpr hdriven), if_pos hdriven]
  · rw [if_pos (Nat.not_lt.mp hdriven), if_pos (Nat.not_lt.mp hdriven)]
    rfl

/-- Ticks at times that do not go back, and services of the application. -/
def TimedCall (c : Controller) : ControllerCall → Prop
  | .tickAt now => ∀ i w, getPort c i = some w → tickTime w.log ≤ now.toNat
  | .port _ (.service _) => True
  | _ => False

/-- The controllers that ticks and services reach from their initialization. -/
inductive ReachController (K : Iolinki) : Controller → Prop where
  | start (envs : Nat → Env) (c : Controller) {slots : List (World × PhyApi × Config)}
      (hslots : slots ≠ []) (hfresh : ∀ slot ∈ slots, slot.1 = powerOn slot.2.1 slot.2.2) :
      ReachController K (controllerInit envs c slots).1
  | call {c : Controller} (envs : Nat → Env) (call : ControllerCall)
      (hc : ReachController K c) (hcall : TimedCall c call) :
      ReachController K (runControllerCall K envs c call)

/-- A port that comes up is accepted. -/
theorem initPort_accepted {env : Env} {w : World} {phy : PhyApi} {config : Config}
    (h : (initPort env w phy config).2 = STATUS_OK) :
  configRefused config = false
  := by
  rw [initPort] at h
  split at h
  · contradiction
  · next haccepted => simpa using haccepted

/-- Every port that a controller gives out is reached by ticks and services of its own. -/
theorem ReachController.port {c : Controller} (hc : ReachController K c) {i : Nat} {w : World}
    (hw : getPort c i = some w) :
  ∃ phy config, Reach K timedTicks phy config w
  := by
  induction hc generalizing w with
  | @start envs c slots hslots hfresh =>
      have hinit := controllerInit_initialized envs c hslots
      rw [getPort] at hw
      split at hw
      · contradiction
      · next hdriven =>
        obtain ⟨slot, hslot, hup, hport⟩ := hinit.up i (by omega)
        rw [Nat.zero_add] at hup hport
        rw [hport, Option.some.injEq] at hw
        have hstart := hfresh slot (List.mem_of_getElem? hslot)
        rw [← hw, initAt, hstart]
        refine ⟨slot.2.1, slot.2.2, Reach.start (envs i) ?_⟩
        apply initPort_accepted hup
  | @call c envs call hc hcall ih =>
      rw [getPort_runControllerCall, Option.map_eq_some_iff] at hw
      obtain ⟨v, hv, rfl⟩ := hw
      obtain ⟨phy, config, hreach⟩ := ih hv
      refine ⟨phy, config, ?_⟩
      cases call with
      | tick | tickEvents => contradiction
      | tickAt now => exact Reach.call (envs i) (.tickAt _ now) hreach (hcall i v hv)
      | port index call =>
          by_cases hindex : index = i
          · rw [actOnPort, ControllerCall.onPort, if_pos hindex]
            cases call with
            | service call => exact Reach.call (envs i) (.service call) hreach trivial
            | _ => contradiction
          · rw [actOnPort_other K envs call hindex]
            apply hreach

/-- The time `next` is the time of the next useful tick of a controller at the time `now`. -/
structure ControllerNextTick (K : Iolinki) (c : Controller) (now next : UInt32) : Prop where
  /-- The time is not in the past. -/
  later : now ≤ next
  /-- Before it a tick without received octets does nothing, on any port. -/
  idle : ∀ (envs : Nat → Env) (t : UInt32),
    (∀ i, (envs i).recv = [] ∧ (envs i).recvFails = false) → now ≤ t → t < next →
    ∀ i, getPort (controllerTickPortsAt K envs c t).1 i
      = (getPort c i).map fun w => w.emit (.tick t)
  /-- At it every tick advances some port. -/
  due : ∀ envs : Nat → Env, ∃ i w v, getPort c i = some w ∧
    getPort (controllerTickPortsAt K envs c next).1 i = some v ∧ Advances w v

/-- In every run of ticks and services the time the controller returns is the time of the next
useful tick of its ports. -/
theorem controller_next_tick_time (hK : K.Lawful) {c : Controller} (hc : ReachController K c)
    (hcount : 0 < c.portCount)
    (hports : ∀ i w, getPort c i = some w → w.port.phy.send = true ∧ Communicates w.port ∧
      CycleFits w.port ∧ tickTime w.log ≤ now.toNat) :
  ControllerNextTick K c now (controllerGetNextTickTime c now)
  := by
  obtain ⟨hleast, i, w, hw, hattained⟩ := @controllerGetNextTickTime_least now c hcount
  constructor
  · rw [hattained]
    apply le_getNextTickTime
  · intro envs t hsilent hle hlt j
    have htick := getPort_runControllerCall (K := K) envs c (.tickAt t) j
    rw [runControllerCall] at htick
    rw [htick]
    cases hv : getPort c j with
    | none => rfl
    | some v =>
        obtain ⟨hsend, hstate, hfits, hnow⟩ := hports j v hv
        obtain ⟨phy, config, hreach⟩ := hc.port hv
        rw [Option.map_some, Option.map_some, Option.some.injEq]
        apply (reachable_timely hK hreach).idles hstate hfits (hsilent j).1 (hsilent j).2 hnow hle
        apply UInt32.lt_of_lt_of_le hlt (hleast j v hv)
  · intro envs
    obtain ⟨hsend, hstate, hfits, hnow⟩ := hports i w hw
    obtain ⟨phy, config, hreach⟩ := hc.port hw
    have htick := getPort_runControllerCall (K := K) envs c
      (.tickAt (controllerGetNextTickTime c now)) i
    rw [runControllerCall, hw] at htick
    refine ⟨i, w, _, hw, htick, ?_⟩
    rw [hattained]
    exact (reachable_timely hK hreach).advances hK hreach.accepted (reachable_port hK hreach).1
      hsend hstate hfits hnow (envs i)

end

/-- Two ports with different delays after the wake-up, after their first tick. -/
def wokenPorts : Controller :=
  (controllerTickPortsAt .reference (fun _ => .quiet [])
    (controllerInit (fun _ => .quiet []) ⟨[], 0, Nat.le_refl 0⟩
      ([200, 50].map fun delay =>
        (powerOn .full { Config.bare .type2_1 1 1 with tDmtTbit := delay }, .full,
          { Config.bare .type2_1 1 1 with tDmtTbit := delay }))).1 0).1

/-- The controller is due again when the shorter delay is over. -/
theorem controller_next_tick_time_woken :
  controllerGetNextTickTime wokenPorts 0 = 8 ∧
    ControllerNextTick .reference wokenPorts 0 (controllerGetNextTickTime wokenPorts 0)
  := by
  have hreach : ReachController .reference wokenPorts := by
    apply ReachController.call (fun _ => .quiet []) (.tickAt 0)
    · apply ReachController.start (fun _ => .quiet [])
      · decide
      · decide
    · intro i w hw
      have hall : ∀ w ∈ (controllerInit (fun _ => .quiet []) ⟨[], 0, Nat.le_refl 0⟩
          ([200, 50].map fun delay =>
            (powerOn .full { Config.bare .type2_1 1 1 with tDmtTbit := delay }, PhyApi.full,
              { Config.bare .type2_1 1 1 with tDmtTbit := delay }))).1.ports,
          tickTime w.log = 0 := by decide +kernel
      rw [hall w (List.mem_of_mem_take (mem_take_iff.mpr ⟨i, hw⟩))]
      apply Nat.zero_le
  have hall : ∀ w ∈ wokenPorts.ports, w.port.phy.send = true ∧ w.port.state = .startup ∧
      tickTime w.log = 0 := by decide +kernel
  refine ⟨by decide +kernel, ?_⟩
  apply controller_next_tick_time Iolinki.lawful_reference hreach (by decide +kernel)
  intro i w hw
  obtain ⟨hsend, hstate, htime⟩ := hall w (List.mem_of_mem_take (mem_take_iff.mpr ⟨i, hw⟩))
  refine ⟨hsend, .inl hstate, ?_, by rw [htime]; apply Nat.zero_le⟩
  intro hpaced
  rw [unpaced_of_startup hstate] at hpaced
  contradiction

end IolinkMaster
