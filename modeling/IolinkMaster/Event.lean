import IolinkMaster.Isdu

/-!
# The event readout

The readout of the event memory over the diagnosis channel and the services that
report, acknowledge and deliver the decoded events.
-/

namespace IolinkMaster

def EVENT_ENTRY_LEN : Nat := 3
def EVENT_SLOT_MAX : Nat := 6

/-! ### Transport -/

/-- Latch the final result and stop the readout. -/
def eventFinish (e : EventState) (result : Int) : EventState :=
  { e with result := result, phase := .none, odExpected := false }

/-- A readout just started for `request`. -/
def eventStart (request : EventReq) : EventState :=
  { EventState.zero with
    request := request
    phase := .read
    addr := 0
    needed := 1
    result := STATUS_PENDING }

/-- Direction and address of the next diagnosis M-sequence, if a readout is active. -/
def eventChannelAccess (e : EventState) : Option (Bool × Nat) :=
  match e.phase with
  | .none => none
  | .read => some (true, e.addr)
  | .write => some (false, e.addr)

/-- Slot `slot` is active in the StatusCode `status`. -/
def eventSlotActive (status : UInt8) (slot : Nat) : Bool :=
  (status &&& 0x3F) &&& ((1 : UInt8) <<< UInt8.ofNat slot) != 0

/-- The highest active slot, counted from 1; 0 when none is active. -/
def eventLastSlot (status : UInt8) : Nat :=
  (List.range EVENT_SLOT_MAX).foldl
    (fun last slot => if eventSlotActive status slot then slot + 1 else last) 0

/-- Consume one octet of a diagnosis read. -/
def eventOnOctet (e : EventState) (byte : UInt8) : EventState :=
  let e :=
    if e.addr < EVENT_MEMORY_LEN ∧ e.len < EVENT_MEMORY_LEN then
      { e with memory := e.memory.set e.addr byte, addr := e.addr + 1, len := e.len + 1 }
    else e
  if !e.statusSeen ∧ e.len ≥ 1 then
    let last := eventLastSlot (e.memory.getD 0 0)
    { e with
      statusSeen := true
      lastSlot := last
      needed := if last = 0 then 1 else EVENT_ENTRY_LEN * last + 1 }
  else e

/-- Consume the on-request data of a diagnosis read reply. -/
def eventOnOd (e : EventState) (od : List UInt8) : EventState :=
  if e.phase ≠ .read then e
  else
    let e := od.foldl eventOnOctet e
    if e.statusSeen ∧ e.len ≥ e.needed ∧ e.len ≥ 1 then
      if e.request = .ack then { e with phase := .write, addr := 0 }
      else eventFinish e STATUS_OK
    else e

/-- Collecting an octet leaves it open whether octets are expected. -/
theorem foldl_eventOnOctet_odExpected (od : List UInt8) (e : EventState) :
  (od.foldl eventOnOctet e).odExpected = e.odExpected
  := by
  induction od generalizing e with
  | nil => rfl
  | cons octet od ih =>
      rw [List.foldl_cons, ih]
      simp only [eventOnOctet]
      split <;> split <;> rfl

/-- The answer to a diagnosis read makes a readout expect no further octets. -/
theorem eventOnOd_odExpected {e : EventState} (h : e.odExpected = false) (od : List UInt8) :
  (eventOnOd e od).odExpected = false
  := by
  have hkept := foldl_eventOnOctet_odExpected od e
  rw [h] at hkept
  simp only [eventOnOd]
  split
  · apply h
  · split
    · split
      · apply hkept
      · rfl
    · apply hkept

/-- Complete the readout once the StatusCode confirmation is written. -/
def eventOnWritten (e : EventState) : EventState :=
  if e.phase = .write then eventFinish e STATUS_OK else e

/-- A readout that has no confirmation to write goes on. -/
theorem eventOnWritten_of_ne {e : EventState} (h : e.phase ≠ .write) :
  eventOnWritten e = e
  := by
  rw [eventOnWritten, if_neg h]

/-! ### Services -/

/-- A completed readout may be consumed. -/
def eventComplete (e : EventState) : Bool := e.phase == .none && e.request != .none

/-- The event code stored for a slot. -/
def eventCodeAt (memory : List UInt8) (slot : Nat) : UInt16 :=
  let base := 1 + EVENT_ENTRY_LEN * slot
  ((memory.getD (base + 1) 0).toUInt16 <<< 8) ||| (memory.getD (base + 2) 0).toUInt16

/-- The slots active in an event memory, in ascending order. -/
def eventActiveSlots (memory : List UInt8) : List Nat :=
  (List.range EVENT_SLOT_MAX).filter (eventSlotActive (memory.getD 0 0))

/-- The event code of the lowest active slot, 0 when none is active. -/
def eventFirstCode (memory : List UInt8) : UInt16 :=
  match eventActiveSlots memory with
  | [] => 0
  | slot :: _ => eventCodeAt memory slot

/-- Map the mode field of a qualifier to the event type. -/
def eventTypeFromQualifier (qualifier : UInt8) : EventType :=
  match (qualifier >>> 4) &&& 0x03 with
  | 1 => .notification
  | 2 => .warning
  | 3 => .error
  | _ => .unknown

/-- The event stored for a slot. -/
def eventAt (memory : List UInt8) (slot : Nat) : Event :=
  let qualifier := memory.getD (1 + EVENT_ENTRY_LEN * slot) 0
  ⟨qualifier, eventTypeFromQualifier qualifier, eventCodeAt memory slot⟩

/-- Start a readout for `request`, wait for it, or consume it with `consume`. -/
def eventService (w : World) (request : EventReq) (consume : World → World) : World × Int :=
  if !acyclicAvailable w.port.state then (w, ISDU_ERR_INVALID_STATE)
  else if w.port.event.phase ≠ .none then (w, STATUS_PENDING)
  else if !eventComplete w.port.event then
    (((w.put { w.port with event := eventStart request }).emit .eventStart).emit
      (.eventFor request), STATUS_PENDING)
  else
    let w := (consume w).emit (.eventTaken w.port.event.request)
    (w.put { w.port with event := { w.port.event with request := .none } }, STATUS_OK)

/-- Report the first active event. -/
def readEventCode (w : World) : World × Int :=
  eventService w .code fun w =>
    let d := { w.port.diagnostics with lastEventCode := eventFirstCode w.port.event.memory }
    let d := if w.port.event.lastSlot ≥ 1 then { d with lastEventCount := 1 } else d
    w.put { w.port with diagnostics := d }

/-- Read the active events and confirm them. -/
def ackEvent (w : World) : World × Int :=
  eventService w .ack fun w =>
    w.put { w.port with
      diagnostics :=
        { w.port.diagnostics with lastEventCode := eventFirstCode w.port.event.memory } }

/-- The events `read_event_details` delivers.  The buffer limit is tested after a slot
has been stored, so one event is stored even for a limit of zero. -/
def eventDetails (memory : List UInt8) (maxEvents : Nat) : List Event :=
  ((eventActiveSlots memory).map (eventAt memory)).take (max 1 maxEvents)

/-- Read and deliver the active events. -/
def readEventDetails (w : World) (maxEvents : Nat) : World × Int :=
  eventService w .details fun w =>
    let events := eventDetails w.port.event.memory maxEvents
    let w := w.put { w.port with
      diagnostics :=
        { w.port.diagnostics with
          lastEventCount := events.length
          lastEventCode := (events.getLast?.map Event.code).getD 0 } }
    if w.port.config.eventHandler then
      events.foldl (fun w e => w.emit (.event e)) w
    else w

end IolinkMaster
