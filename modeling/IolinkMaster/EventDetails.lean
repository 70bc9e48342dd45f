import IolinkMaster.EventMemory

/-!
# The caller's array of `read_event_details`

The loop of `read_event_details` over the slots of the event memory, with the array it
stores into: an event is stored before the capacity of the array is looked at.
-/

namespace IolinkMaster

/-! ### The loop over the slots -/

/-- The array of the caller and the number of events stored in it. -/
structure EventStore where
  events : Nat → Event
  count : Nat

/-- One round of the loop.  The flag says that the loop is left. -/
def storeSlot (memory : List UInt8) (maxEvents : Nat) (s : EventStore) (slot : Nat) :
    EventStore × Bool :=
  if !eventSlotActive (memory.getD 0 0) slot then (s, false)
  else
    let s := ⟨Function.update s.events s.count (eventAt memory slot), s.count + 1⟩
    (s, decide (s.count ≥ maxEvents))

/-- The loop of `read_event_details`. -/
def storeEvents (memory : List UInt8) (maxEvents : Nat) (events : Nat → Event) : EventStore :=
  Scan.scan (storeSlot memory maxEvents) ⟨events, 0⟩ (List.range EVENT_SLOT_MAX)

theorem storeSlot_inactive {memory : List UInt8} {slot : Nat} (maxEvents : Nat) (s : EventStore)
    (h : ¬ eventSlotActive (memory.getD 0 0) slot = true) :
  storeSlot memory maxEvents s slot = (s, false)
  := by
  rw [storeSlot, if_pos (by rw [Bool.eq_false_iff.mpr h, Bool.not_false])]

theorem storeSlot_active {memory : List UInt8} {slot : Nat} (maxEvents : Nat) (s : EventStore)
    (h : eventSlotActive (memory.getD 0 0) slot = true) :
  storeSlot memory maxEvents s slot
    = (⟨Function.update s.events s.count (eventAt memory slot), s.count + 1⟩,
        decide (s.count + 1 ≥ maxEvents))
  := by
  rw [storeSlot, if_neg (by rw [h, Bool.not_true, Bool.false_eq_true]; exact not_false)]

/-- An array in which the values `xs` stand from `base` on. -/
def placed {α : Type} (array : Nat → α) (base : Nat) (xs : List α) : Nat → α :=
  fun i => if i < base then array i else (xs[i - base]?).getD (array i)

theorem placed_nil {α : Type} (array : Nat → α) (base : Nat) :
  placed array base [] = array
  := by
  funext i
  simp [placed]

theorem placed_cons {α : Type} (array : Nat → α) (base : Nat) (x : α) (xs : List α) :
  placed (Function.update array base x) (base + 1) xs = placed array base (x :: xs)
  := by
  funext i
  simp only [placed]
  obtain hlt | heq | hgt := Nat.lt_trichotomy i base
  · rw [if_pos (by omega), if_pos hlt, Function.update_of_ne (by omega)]
  · rw [if_pos (by omega), if_neg (by omega), heq, Function.update_self, Nat.sub_self]
    rfl
  · have hsub : i - base = i - (base + 1) + 1 := by omega
    rw [if_neg (by omega), if_neg (by omega), Function.update_of_ne (by omega), hsub,
      List.getElem?_cons_succ]

/-- The loop stores the active events in order, up to the one that fills the array, and at
least one. -/
theorem scan_storeSlot (memory : List UInt8) (maxEvents : Nat) (slots : List Nat)
    (s : EventStore) :
  Scan.scan (storeSlot memory maxEvents) s slots
    = let taken := (((slots.filter (eventSlotActive (memory.getD 0 0))).map (eventAt memory)).take
        (max 1 (maxEvents - s.count)))
      ⟨placed s.events s.count taken, s.count + taken.length⟩
  := by
  induction slots generalizing s with
  | nil =>
      rw [Scan.scan_nil]
      simp only [List.filter_nil, List.map_nil, List.take_nil, placed_nil, List.length_nil,
        Nat.add_zero]
  | cons slot slots ih =>
      by_cases hactive : eventSlotActive (memory.getD 0 0) slot = true
      · rw [List.filter_cons_of_pos hactive, List.map_cons]
        have hstep := storeSlot_active maxEvents s hactive
        by_cases hfull : s.count + 1 ≥ maxEvents
        · rw [decide_eq_true hfull] at hstep
          have hmax : max 1 (maxEvents - s.count) = 1 := by omega
          rw [Scan.scan_cons_stop _ _ hstep, hmax]
          simp only [List.take_succ_cons, List.take_zero, List.length_singleton]
          rw [← placed_cons, placed_nil]
        · rw [decide_eq_false hfull] at hstep
          have hmax : max 1 (maxEvents - s.count) = max 1 (maxEvents - (s.count + 1)) + 1 := by
            omega
          rw [Scan.scan_cons_next _ _ hstep, ih, hmax]
          simp only [List.take_succ_cons, List.length_cons, placed_cons, EventStore.mk.injEq,
            true_and]
          omega
      · rw [Scan.scan_cons_next _ _ (storeSlot_inactive maxEvents s hactive), ih,
          List.filter_cons_of_neg hactive]

/-- The events of the readout stand at the beginning of the array. -/
theorem storeEvents_eq (memory : List UInt8) (maxEvents : Nat) (events : Nat → Event) :
  storeEvents memory maxEvents events
    = ⟨placed events 0 (eventDetails memory maxEvents), (eventDetails memory maxEvents).length⟩
  := by
  rw [storeEvents, scan_storeSlot]
  simp only [Nat.sub_zero, Nat.zero_add]
  rfl

/-! ### The call -/

/-- What `read_event_details` leaves to its caller: result code, array, and `*out_count` if
it is written. -/
structure DetailsResult where
  ret : Int
  events : Nat → Event
  outCount : Option Nat

/-- Read the active events into the array `events` of capacity `maxEvents`, and deliver
them. -/
def readEventDetailsInto (w : World) (events : Nat → Event) (maxEvents : Nat) :
    World × DetailsResult :=
  let s := storeEvents w.port.event.memory maxEvents events
  let (v, ret) := eventService w .details fun w =>
    let w := w.put { w.port with
      diagnostics :=
        { w.port.diagnostics with
          lastEventCount := s.count
          lastEventCode := if s.count > 0 then (s.events (s.count - 1)).code else 0 } }
    if w.port.config.eventHandler then
      (List.range s.count).foldl (fun w i => w.emit (.event (s.events i))) w
    else w
  (v, if ret = STATUS_OK then ⟨ret, s.events, some s.count⟩ else ⟨ret, events, none⟩)

theorem placed_lt {α : Type} {array : Nat → α} {xs : List α} {i : Nat} (h : i < xs.length) :
  placed array 0 xs i = xs[i]
  := by
  simp [placed, h]

theorem placed_ge {α : Type} {array : Nat → α} {xs : List α} {i : Nat} (h : xs.length ≤ i) :
  placed array 0 xs i = array i
  := by
  simp [placed, h]

/-- The code reported last is that of the last event stored. -/
theorem placed_last (events : Nat → Event) (xs : List Event) :
  (if xs.length > 0 then (placed events 0 xs (xs.length - 1)).code else 0)
    = (xs.getLast?.map Event.code).getD 0
  := by
  cases xs with
  | nil => rfl
  | cons x xs =>
      have hlt : (x :: xs).length - 1 < (x :: xs).length := by simp
      rw [if_pos (by simp), placed_lt hlt, List.getLast?_eq_getElem?,
        List.getElem?_eq_getElem hlt]
      rfl

/-- The handler is called for the events of the array in order. -/
theorem foldl_placed (events : Nat → Event) (xs : List Event) (w : World) :
  (List.range xs.length).foldl (fun w i => w.emit (.event (placed events 0 xs i))) w
    = xs.foldl (fun w e => w.emit (.event e)) w
  := by
  have hmap : (List.range xs.length).map (placed events 0 xs) = xs := by
    apply List.ext_getElem
    · simp
    · intro i _ hi
      rw [List.getElem_map, List.getElem_range, placed_lt hi]
  rw [← List.foldl_map (f := placed events 0 xs) (g := fun (w : World) e => w.emit (.event e)),
    hmap]

/-- The array and the count follow the events delivered; the world is the one of the calls
made without an array in sight. -/
theorem readEventDetailsInto_eq (w : World) (events : Nat → Event) (maxEvents : Nat) :
  readEventDetailsInto w events maxEvents
    = ((readEventDetails w maxEvents).1,
        if (readEventDetails w maxEvents).2 = STATUS_OK then
          ⟨STATUS_OK, placed events 0 (eventDetails w.port.event.memory maxEvents),
            some (eventDetails w.port.event.memory maxEvents).length⟩
        else ⟨(readEventDetails w maxEvents).2, events, none⟩)
  := by
  simp only [readEventDetailsInto, readEventDetails, eventService, storeEvents_eq]
  by_cases havail : acyclicAvailable w.port.state = true
  · by_cases hphase : w.port.event.phase = .none
    · by_cases hcomplete : eventComplete w.port.event = true
      · simp only [havail, hphase, hcomplete, Bool.not_true, Bool.false_eq_true, if_false,
          ne_eq, not_true_eq_false, if_true, placed_last, foldl_placed]
      · have hpending : ¬ STATUS_PENDING = STATUS_OK := by decide
        simp only [havail, hphase, hcomplete, hpending, Bool.not_true, Bool.false_eq_true,
          Bool.not_false, if_false, ne_eq, not_true_eq_false, if_true]
    · have hpending : ¬ STATUS_PENDING = STATUS_OK := by decide
      simp only [havail, hphase, hpending, Bool.not_true, Bool.false_eq_true, if_false, ne_eq,
        not_false_eq_true, if_true]
  · have hinvalid : ¬ ISDU_ERR_INVALID_STATE = STATUS_OK := by decide
    simp only [havail, hinvalid, Bool.not_false, if_false, if_true]

/-! ### The capacity of the array -/

/-- The events of a readout, one for each active slot. -/
def activeEvents (memory : List UInt8) : List Event :=
  (eventActiveSlots memory).map (eventAt memory)

/-- All events of the readout `memory` are returned. -/
structure ReturnsEvents (memory : List UInt8) (r : DetailsResult) : Prop where
  ok : r.ret = STATUS_OK
  count : r.outCount = some (activeEvents memory).length
  events : ∀ i, ∀ h : i < (activeEvents memory).length, r.events i = (activeEvents memory)[i]

/-- A call with room for `maxEvents` events that finds a completed readout keeps to the
capacity of the array and loses no event. -/
structure RespectsCapacity (w : World) (maxEvents : Nat) : Prop where
  /-- Entries beyond the capacity, or beyond the events, are not written. -/
  written : ∀ events i, min maxEvents (activeEvents w.port.event.memory).length ≤ i →
    (readEventDetailsInto w events maxEvents).2.events i = events i
  count : ∀ events, (readEventDetailsInto w events maxEvents).2.outCount
    = some (min maxEvents (activeEvents w.port.event.memory).length)
  /-- An array that is too small is reported, and the readout stays for a larger one. -/
  overflows : maxEvents < (activeEvents w.port.event.memory).length → ∀ events,
    (readEventDetailsInto w events maxEvents).2.ret = ERR_BUFFER_TOO_SMALL ∧
      ∀ events' maxEvents', (activeEvents w.port.event.memory).length ≤ maxEvents' →
        ReturnsEvents w.port.event.memory
          (readEventDetailsInto (readEventDetailsInto w events maxEvents).1 events' maxEvents').2
  fits : (activeEvents w.port.event.memory).length ≤ maxEvents → ∀ events,
    ReturnsEvents w.port.event.memory (readEventDetailsInto w events maxEvents).2

/-- What a call leaves to its caller that consumes the readout. -/
theorem readEventDetailsInto_takes {w : World} (havail : acyclicAvailable w.port.state = true)
    (hcomplete : eventComplete w.port.event = true) (events : Nat → Event) (maxEvents : Nat) :
  (readEventDetailsInto w events maxEvents).2
    = ⟨STATUS_OK, placed events 0 (eventDetails w.port.event.memory maxEvents),
        some (eventDetails w.port.event.memory maxEvents).length⟩
  := by
  have hret : (readEventDetails w maxEvents).2 = STATUS_OK := by
    rw [readEventDetails, eventService_takes havail hcomplete]
  rw [readEventDetailsInto_eq, hret, if_pos rfl]

/-- An array with room for all events gets all events. -/
theorem eventDetails_all {memory : List UInt8} {maxEvents : Nat}
    (h : (activeEvents memory).length ≤ maxEvents) :
  eventDetails memory maxEvents = activeEvents memory
  := by
  apply List.take_of_length_le
  apply h.trans
  apply Nat.le_max_right

/-- The capacity of the array is respected exactly when the array has room for all events: a
smaller one is overrun by the first event or cuts the events short, and the readout is used up
as if nothing was missing. -/
theorem capacity_respected {w : World} (havail : acyclicAvailable w.port.state = true)
    (hcomplete : eventComplete w.port.event = true) (maxEvents : Nat) :
  RespectsCapacity w maxEvents ↔ (activeEvents w.port.event.memory).length ≤ maxEvents
  := by
  have htakes := fun events => readEventDetailsInto_takes havail hcomplete events maxEvents
  constructor
  · intro h
    rw [← Nat.not_lt]
    intro hlt
    have hret := (h.overflows hlt fun _ => eventAt [] 0).1
    rw [htakes] at hret
    contradiction
  · intro hle
    have hmin : min maxEvents (activeEvents w.port.event.memory).length
        = (activeEvents w.port.event.memory).length := Nat.min_eq_right hle
    rw [eventDetails_all hle] at htakes
    constructor
    · intro events i hi
      rw [hmin] at hi
      rw [htakes]
      apply placed_ge hi
    · intro events
      rw [htakes, hmin]
    · intro hlt
      omega
    · intro _ events
      rw [htakes]
      constructor
      · rfl
      · rfl
      · intro i hi
        apply placed_lt hi

/-- The port after reading the events of a device with two of them. -/
def eventsRead : World :=
  run .reference (started (.quiet []) .full (.bare .type1_2 0 0)) readingEvents

/-- A call with room for six events gets both events of the readout. -/
theorem capacity_respected_six :
  RespectsCapacity eventsRead 6
  := by
  apply (capacity_respected (by decide +kernel) (by decide +kernel) 6).mpr
  decide +kernel

/-- After a readout of two events, a call without room for any writes the first entry, and a
call with room for one loses the second event. -/
theorem capacity_overrun :
  Reach .reference ticksAndServices .full (.bare .type1_2 0 0) eventsRead ∧
  acyclicAvailable eventsRead.port.state = true ∧ eventComplete eventsRead.port.event = true ∧
  (activeEvents eventsRead.port.event.memory).length = 2 ∧
  ¬ RespectsCapacity eventsRead 0 ∧ ¬ RespectsCapacity eventsRead 1
  := by
  refine ⟨?_, by decide +kernel, by decide +kernel, by decide +kernel, ?_, ?_⟩
  · apply (Reach.start _ (by decide)).run
    decide +kernel
  · intro h
    have hkept := h.written (fun _ => eventAt [] 0) 0 (by decide +kernel)
    revert hkept
    decide +kernel
  · intro h
    have hret := (h.overflows (by decide +kernel) fun _ => eventAt [] 0).1
    revert hret
    decide +kernel

end IolinkMaster
