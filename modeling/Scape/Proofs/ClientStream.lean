import Scape.Wayland.Client

/-!
# The stream of a client

However a client's bytes are cut into chunks, and however the reads are spread
over calls, the source says of every read what it was, once and in order. So the
data of its events is the data of the stream.

It is as faithful about the end. A read at the end of the stream succeeds with no
bytes, every time, and the source tells the loop to go on after the first. The
socket stays readable from then on, and each further call says again that the
client has disconnected.
-/

namespace Scape.Wayland

/-! ## One event for each read -/

def eventOf (clientId : ClientId) : ReadResult → Option ClientEvent
  | .ok chunk =>
      some (if chunk.bytes = [] then .disconnected clientId
        else .messageReceived clientId chunk.bytes)
  | .error _ => none

/-- Events that report on the reads that were made, and the answers that are
left. -/
def Reports (clientId : ClientId) (results : List ReadResult)
    (events : List ClientEvent) (unread : List ReadResult) : Prop :=
  ∃ read, results = read ++ unread ∧ events = read.filterMap (eventOf clientId)

variable {clientId : ClientId}

theorem Reports.refl {results : List ReadResult} : Reports clientId results [] results :=
  ⟨[], rfl, rfl⟩

theorem Reports.trans {results unread rest : List ReadResult}
    {events more : List ClientEvent} (h : Reports clientId results events unread)
    (hrest : Reports clientId unread more rest) :
    Reports clientId results (events ++ more) rest := by
  obtain ⟨read, rfl, rfl⟩ := h
  obtain ⟨next, rfl, rfl⟩ := hrest
  exact ⟨read ++ next, (List.append_assoc _ _ _).symm, (List.filterMap_append).symm⟩

theorem Reports.read (clientId : ClientId) (result : ReadResult) (rest : List ReadResult) :
    Reports clientId (result :: rest) (eventOf clientId result).toList rest := by
  refine ⟨[result], rfl, ?_⟩
  cases result <;> rfl

theorem Chunk.take_fill (chunk : Chunk) (buffer : Buffer) :
    (chunk.fill buffer).take chunk.bytes.length = chunk.bytes :=
  List.take_left

theorem readLoop_reports (buffer : Buffer) (results : List ReadResult) :
    Reports clientId results (readLoop clientId buffer results).events
      (readLoop clientId buffer results).unread := by
  induction results generalizing buffer with
  | nil => exact .refl
  | cons result rest ih =>
      cases result with
      | ok chunk =>
          by_cases hbytes : chunk.bytes.length = 0
          · rw [readLoop, if_pos hbytes]
            have h := Reports.read clientId (.ok chunk) rest
            rwa [eventOf, if_pos (List.length_eq_zero_iff.mp hbytes)] at h
          · rw [readLoop, if_neg hbytes, Chunk.take_fill]
            have h := (Reports.read clientId (.ok chunk) rest).trans
              (ih (chunk.fill buffer))
            rwa [eventOf, if_neg (mt List.length_eq_zero_iff.mpr hbytes)] at h
      | error e =>
          cases e <;> exact Reports.read clientId _ rest

theorem processEvents_reports (clientId : ClientId) (readable : Bool) (results : List ReadResult) :
    Reports clientId results (processEvents clientId readable results).events
      (processEvents clientId readable results).unread := by
  cases readable with
  | true => exact readLoop_reports emptyBuffer results
  | false => exact .refl

theorem poll_reports (clientId : ClientId) (polls : List Bool) (results : List ReadResult) :
    Reports clientId results (poll clientId polls results).1
      (poll clientId polls results).2 := by
  induction polls generalizing results with
  | nil => exact .refl
  | cons readable polls ih =>
      have hcall := processEvents_reports clientId readable results
      rw [poll]
      split
      · exact hcall.trans (ih _)
      · exact hcall

/-! ## What the events should say -/

namespace ClientEvent

def IsDisconnected : ClientEvent → Prop
  | messageReceived _ _ => False
  | disconnected _ => True

instance : DecidablePred IsDisconnected
  | messageReceived _ _ => .isFalse id
  | disconnected _ => .isTrue trivial

def data : ClientEvent → List UInt8
  | messageReceived _ data => data
  | disconnected _ => []

end ClientEvent

def bytes : ReadResult → List UInt8
  | .ok chunk => chunk.bytes
  | .error _ => []

/-- The events give the bytes that were read, and end with the first
disconnect. -/
structure Faithful (read : List ReadResult) (events : List ClientEvent) : Prop where
  data : events.flatMap ClientEvent.data = read.flatMap bytes
  once : events.countP ClientEvent.IsDisconnected ≤ 1
  last : events.Pairwise fun earlier _ => ¬ earlier.IsDisconnected

/-- After the end of the stream no read succeeds, whether with bytes or, at the
end again, without. -/
def EndsOnce (read : List ReadResult) : Prop :=
  read.Pairwise fun earlier later => earlier = endOfStream → ∀ chunk, later ≠ .ok chunk

theorem data_eventOf (result : ReadResult) :
    (eventOf clientId result).toList.flatMap ClientEvent.data = bytes result := by
  cases result with
  | ok chunk =>
      rw [eventOf]
      split
      next h => exact h.symm
      next => exact List.append_nil _
  | error e => rfl

theorem isDisconnected_eventOf {result : ReadResult} {event : ClientEvent}
    (h : eventOf clientId result = some event) :
    event.IsDisconnected ↔ result = endOfStream := by
  cases result with
  | ok chunk =>
      obtain ⟨bytes, fits⟩ := chunk
      rw [eventOf, Option.some.injEq] at h
      split at h
      next hbytes =>
        subst h hbytes
        exact iff_of_true trivial rfl
      next hbytes =>
        subst h
        refine iff_of_false id fun hend => hbytes ?_
        rw [endOfStream, Except.ok.injEq, Chunk.mk.injEq] at hend
        exact hend
  | error e => cases h

theorem data_events (read : List ReadResult) :
    (read.filterMap (eventOf clientId)).flatMap ClientEvent.data = read.flatMap bytes := by
  rw [List.filterMap_eq_flatMap_toList, List.flatMap_assoc]
  simp only [data_eventOf]

theorem countP_le_one {α : Type*} {P : α → Prop} [DecidablePred P] {l : List α}
    (h : l.Pairwise fun earlier _ => ¬ P earlier) : l.countP P ≤ 1 := by
  induction h with
  | nil => exact Nat.zero_le _
  | @cons a l hlater _ ih =>
      by_cases ha : P a
      · have hnil : l = [] := List.eq_nil_iff_forall_not_mem.mpr fun b hb => hlater b hb ha
        rw [hnil]
        exact List.countP_le_length
      · rwa [List.countP_cons_of_neg (by simpa using ha)]

/-- The events of the reads are faithful if and only if the stream ends once. -/
theorem faithful_iff {read : List ReadResult} :
    Faithful read (read.filterMap (eventOf clientId)) ↔ EndsOnce read := by
  have hlast : (read.filterMap (eventOf clientId)).Pairwise
      (fun earlier _ => ¬ earlier.IsDisconnected) ↔ EndsOnce read := by
    rw [List.pairwise_filterMap]
    refine List.Pairwise.iff fun earlier later => ?_
    constructor
    · rintro h rfl chunk rfl
      exact h _ rfl _ rfl trivial
    · intro h event hevent event' hevent' hdisconnected
      have hend := (isDisconnected_eventOf hevent).mp hdisconnected
      cases later with
      | ok chunk => exact h hend chunk rfl
      | error e => cases hevent'
  exact ⟨fun h => hlast.mp h.last,
    fun h => ⟨data_events read, countP_le_one (hlast.mpr h), hlast.mpr h⟩⟩

/-! ## Main results -/

/-- Whatever the loop polls and the kernel answers, the events are faithful to the
reads that were made if and only if none of these succeeds after the end of the
stream. -/
theorem poll_faithful_iff (clientId : ClientId) (polls : List Bool)
    (results : List ReadResult) :
    ∃ read, results = read ++ (poll clientId polls results).2 ∧
      (Faithful read (poll clientId polls results).1 ↔ EndsOnce read) := by
  obtain ⟨read, hread, hevents⟩ := poll_reports clientId polls results
  exact ⟨read, hread, hevents ▸ faithful_iff⟩

/-- Polled twice after it has hung up, the client disconnects twice. -/
theorem poll_disconnects_twice :
    poll 1 [true, true] [endOfStream, endOfStream] =
      ([.disconnected 1, .disconnected 1], []) ∧
    ¬ Faithful [endOfStream, endOfStream] [.disconnected 1, .disconnected 1] :=
  ⟨rfl, fun h => absurd h.once (by decide)⟩

end Scape.Wayland
