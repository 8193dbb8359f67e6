import Scape.Wayland.Listener

/-!
# Whose failure it is

A source is called only when it is ready, and it goes on until an answer of the
kernel stops it. Which answer that is, is all that matters to the other sources: a
would-block stops the call and the loop goes on to the next source, and any other
error is handed to the loop, which then calls nobody any more.

So what one client can do to the others can be read off the answers, call by call.
The condition below is about the answers alone; the one number in it is the client
counter, which a build with overflow checks must have room in.
-/

namespace Scape.Wayland

/-! ## The answer that stops a call -/

/-- The answers after which a client's source reads on. -/
def isData : ReadResult → Bool
  | .ok chunk => chunk.bytes.length != 0
  | .error _ => false

/-- The answers after which the listening source accepts on. -/
def isClient : AcceptResult → Bool
  | .ok (.ok _) => true
  | _ => false

def lastRead (results : List ReadResult) : Option ReadResult :=
  results.find? fun r => !isData r

def lastAccept (results : List AcceptResult) : Option AcceptResult :=
  results.find? fun r => !isClient r

namespace SourceCall

/-- The kernel answers until the call is stopped. -/
def Answered (listening : Bool) : SourceCall → Prop
  | .client _ readable results => readable = true → (lastRead results).isSome
  | .listener readable results =>
      readable = true ∧ listening = true → (lastAccept results).isSome

/-- A client's call is stopped by a would-block or the end of the stream. The
listening source is stopped by a would-block, no stream it accepts refuses to be
made non-blocking, and with overflow checks the counter has room for them all. -/
def Harmless (overflowChecks : Bool) (s : Wayland) : SourceCall → Prop
  | .client _ readable results =>
      readable = true → ∀ e, lastRead results = some (.error e) → e = .wouldBlock
  | .listener readable results =>
      readable = true ∧ s.listening = true →
        (∀ e, lastAccept results = some (.error e) → e = .wouldBlock) ∧
        (∀ e, lastAccept results ≠ some (.ok (.error e))) ∧
        (overflowChecks = true →
          s.nextClientId + (results.takeWhile isClient).length ≤ u32Max)

end SourceCall

/-- Every call the loop gets to is harmless. It gets past a call once that has
been answered. -/
def AllHarmless (overflowChecks : Bool) (s : Wayland) : List SourceCall → Prop
  | [] => True
  | call :: calls =>
      call.Harmless overflowChecks s ∧
      (call.Answered s.listening → AllHarmless overflowChecks (call.run overflowChecks s).1 calls)

/-- No source stops the loop, and once all have been answered all have been
served. -/
def Isolated (overflowChecks : Bool) (s : Wayland) (calls : List SourceCall) : Prop :=
  (dispatch overflowChecks s calls).2 = none ∧
  ((∀ call ∈ calls, call.Answered s.listening) →
    (dispatch overflowChecks s calls).1 = calls.length)

/-! ## One call -/

/-- How a call comes back after the answer that stops it. -/
def stop : ReadResult → Except ErrorKind Unit
  | .ok _ => .ok ()
  | .error .wouldBlock => .ok ()
  | .error e => .error e

theorem readLoop_result (clientId : ClientId) (buffer : Buffer) (results : List ReadResult) :
    (readLoop clientId buffer results).result =
      (lastRead results).map stop := by
  induction results generalizing buffer with
  | nil => rfl
  | cons result rest ih =>
      cases result with
      | ok chunk =>
          by_cases hbytes : chunk.bytes.length = 0
          · have hstop : lastRead (.ok chunk :: rest) = some (.ok chunk) := by
              rw [lastRead, List.find?_cons_of_pos]
              simp [isData, hbytes]
            rw [readLoop, if_pos hbytes, hstop]
            rfl
          · have hgo : lastRead (.ok chunk :: rest) = lastRead rest := by
              rw [lastRead, List.find?_cons_of_neg]
              · rfl
              · simp [isData, hbytes]
            rw [readLoop, if_neg hbytes, hgo]
            exact ih _
      | error e => cases e <;> rfl

theorem processEvents_result (clientId : ClientId) (results : List ReadResult) :
    (processEvents clientId true results).result =
      (lastRead results).map fun r => (stop r).map fun _ => .continue := by
  rw [processEvents, if_pos rfl]
  show (readLoop clientId emptyBuffer results).result.map _ = _
  rw [readLoop_result, Option.map_map]
  rfl

/-- How a call came back: with an error or a panic, which end the loop. -/
def fails : Option Returned → Bool
  | some (.error _) => true
  | some .overflow => true
  | _ => false

theorem handleNewClients_listening (overflowChecks : Bool) (s : Wayland)
    (results : List AcceptResult) :
    (s.handleNewClients overflowChecks results).state.listening = s.listening := by
  induction results generalizing s with
  | nil => rfl
  | cons result rest ih =>
      cases result with
      | error e => cases e <;> rfl
      | ok nonblocking =>
          rw [Wayland.handleNewClients]
          split
          · rfl
          · cases nonblocking with
            | error e => rfl
            | ok u => exact ih _

theorem lastAccept_cons_client (rest : List AcceptResult) :
    lastAccept (.ok (.ok ()) :: rest) = lastAccept rest := rfl

theorem handleNewClients_answered (overflowChecks : Bool) (s : Wayland)
    (results : List AcceptResult)
    (hfails : fails (s.handleNewClients overflowChecks results).returned = false) :
    (s.handleNewClients overflowChecks results).returned =
      (lastAccept results).map fun _ => .ok .continue := by
  induction results generalizing s with
  | nil => rfl
  | cons result rest ih =>
      cases result with
      | error e =>
          cases e with
          | wouldBlock => rfl
          | interrupted | other => cases hfails
      | ok nonblocking =>
          rw [Wayland.handleNewClients] at hfails ⊢
          split at hfails
          · cases hfails
          · cases nonblocking with
            | error e => cases hfails
            | ok u => exact ih _ hfails

/-- With overflow checks an addition either is exact or panics. -/
theorem u32Add_checked {overflowChecks : Bool} {a b n : Nat}
    (h : u32Add overflowChecks a b = some n) (hchecks : overflowChecks = true) : n = a + b := by
  unfold u32Add at h
  split at h
  · exact (Option.some.inj h).symm
  · cases h

theorem u32Add_eq_none {overflowChecks : Bool} {a b : Nat}
    (h : u32Add overflowChecks a b = none) : overflowChecks = true ∧ u32Max < a + b := by
  unfold u32Add at h
  split at h
  · cases h
  next hle =>
    split at h
    next hchecks => exact ⟨hchecks, by omega⟩
    next => cases h

theorem handleNewClients_fails_iff (overflowChecks : Bool) (s : Wayland)
    (results : List AcceptResult) :
    fails (s.handleNewClients overflowChecks results).returned = false ↔
      (∀ e, lastAccept results = some (.error e) → e = .wouldBlock) ∧
      (∀ e, lastAccept results ≠ some (.ok (.error e))) ∧
      (overflowChecks = true →
        s.nextClientId + (results.takeWhile isClient).length ≤ u32Max) := by
  induction results generalizing s with
  | nil =>
      exact iff_of_true rfl ⟨fun e h => (nomatch h), fun e h => (nomatch h), fun _ => s.inRange⟩
  | cons result rest ih =>
      cases result with
      | error e =>
          have hlast : lastAccept (.error e :: rest) = some (.error e) := rfl
          rw [hlast]
          cases e with
          | wouldBlock =>
              refine iff_of_true rfl ⟨fun e h => ?_, fun e h => (nomatch h), fun _ => s.inRange⟩
              cases h
              rfl
          | interrupted | other =>
              exact iff_of_false (fun h => Bool.noConfusion h) fun h => (nomatch h.1 _ rfl)
      | ok nonblocking =>
          cases nonblocking with
          | error e =>
              have hfails : fails (s.handleNewClients overflowChecks
                  (.ok (.error e) :: rest)).returned = true := by
                rw [Wayland.handleNewClients]
                split <;> rfl
              rw [hfails]
              exact iff_of_false (by decide) fun h => h.2.1 e rfl
          | ok u =>
              rw [Wayland.handleNewClients, lastAccept_cons_client]
              have htake : (List.takeWhile isClient (.ok (.ok u) :: rest)).length =
                  (List.takeWhile isClient rest).length + 1 := rfl
              rw [htake]
              split
              next hnone =>
                -- The count went over: only a checked build can panic, and it has no room.
                obtain ⟨hchecks, hmax⟩ := u32Add_eq_none hnone
                refine iff_of_false (by simp [fails]) fun h => ?_
                have hroom := h.2.2 hchecks
                rw [Nat.add_comm (List.length _), ← Nat.add_assoc] at hroom
                exact absurd hmax (Nat.not_lt_of_le (Nat.le_trans (Nat.le_add_right _ _) hroom))
              next n hsome =>
                refine (ih ⟨s.listening, n, u32Add_le hsome⟩).trans ?_
                refine and_congr_right fun _ => and_congr_right fun _ =>
                  forall_congr' fun hchecks => ?_
                have hn := u32Add_checked hsome hchecks
                show n + _ ≤ u32Max ↔ _
                rw [hn, Nat.add_assoc, Nat.add_comm 1]

namespace SourceCall

variable {overflowChecks : Bool} {s : Wayland}

theorem run_listening (call : SourceCall) :
    (call.run overflowChecks s).1.listening = s.listening := by
  cases call with
  | client clientId readable results => rfl
  | listener readable results =>
      show (s.processEvents overflowChecks readable results).state.listening = s.listening
      rw [Wayland.processEvents]
      split
      · exact handleNewClients_listening _ _ _
      · rfl

/-- A call fails if and only if it is not harmless. -/
theorem run_fails_iff (call : SourceCall) :
    fails (call.run overflowChecks s).2 = false ↔ call.Harmless overflowChecks s := by
  cases call with
  | client clientId readable results =>
      cases readable with
      | false => exact iff_of_true rfl fun h => by cases h
      | true =>
          rw [run, processEvents_result]
          simp only [Harmless, forall_true_left]
          cases lastRead results with
          | none => exact iff_of_true rfl fun e h => by cases h
          | some r =>
              cases r with
              | ok chunk => exact iff_of_true rfl fun e h => by cases h
              | error e =>
                  cases e with
                  | wouldBlock =>
                      refine iff_of_true rfl fun e h => ?_
                      cases h
                      rfl
                  | interrupted | other =>
                      exact iff_of_false (by decide) fun h => by cases h _ rfl
  | listener readable results =>
      simp only [run, Wayland.processEvents, Harmless]
      split
      next h =>
        rw [forall_prop_of_true h]
        exact handleNewClients_fails_iff _ _ _
      next h => exact iff_of_true rfl fun h' => absurd h' h

/-- A call that does not fail comes back once it has been answered. -/
theorem run_eq (call : SourceCall) (hfails : fails (call.run overflowChecks s).2 = false) :
    (∃ action, (call.run overflowChecks s).2 = some (.ok action)) ∧ call.Answered s.listening ∨
    (call.run overflowChecks s).2 = none ∧ ¬ call.Answered s.listening := by
  cases call with
  | client clientId readable results =>
      cases readable with
      | false => exact .inl ⟨⟨.continue, rfl⟩, fun h => by cases h⟩
      | true =>
          rw [run, processEvents_result] at hfails ⊢
          simp only [Answered, true_implies]
          cases hlast : lastRead results with
          | none => exact .inr ⟨rfl, by simp⟩
          | some r =>
              refine .inl ⟨⟨.continue, ?_⟩, rfl⟩
              rw [hlast] at hfails
              cases r with
              | ok chunk => rfl
              | error e =>
                  cases e with
                  | wouldBlock => rfl
                  | interrupted | other => cases hfails
  | listener readable results =>
      simp only [run, Wayland.processEvents, Answered] at hfails ⊢
      split at hfails
      next h =>
        rw [if_pos h, handleNewClients_answered _ _ _ hfails]
        cases hlast : lastAccept results with
        | none => exact .inr ⟨rfl, fun h' => by cases h' h⟩
        | some r => exact .inl ⟨⟨.continue, rfl⟩, fun _ => rfl⟩
      next h =>
        rw [if_neg h]
        exact .inl ⟨⟨.continue, rfl⟩, fun h' => absurd h' h⟩

end SourceCall

/-! ## Main results -/

theorem dispatch_none_iff (overflowChecks : Bool) (s : Wayland) (calls : List SourceCall) :
    (dispatch overflowChecks s calls).2 = none ↔ AllHarmless overflowChecks s calls := by
  induction calls generalizing s with
  | nil => exact iff_of_true rfl trivial
  | cons call calls ih =>
      rw [dispatch, AllHarmless, ← call.run_fails_iff]
      cases hfails : fails (call.run overflowChecks s).2 with
      | true =>
          refine iff_of_false ?_ fun h => (nomatch h.1)
          split
          next h => rw [h] at hfails; cases hfails
          next => exact fun h => (nomatch h)
          next h => rw [h] at hfails; cases hfails
      | false =>
          rcases call.run_eq hfails with ⟨⟨action, hrun⟩, hanswered⟩ | ⟨hrun, hanswered⟩
          · have hstate : call.run overflowChecks s =
                ((call.run overflowChecks s).1, some (.ok action)) := by rw [← hrun]
            rw [hstate]
            exact (ih _).trans ⟨fun h => ⟨rfl, fun _ => h⟩, fun h => h.2 hanswered⟩
          · have hstate : call.run overflowChecks s =
                ((call.run overflowChecks s).1, none) := by rw [← hrun]
            rw [hstate]
            exact iff_of_true rfl ⟨rfl, fun h => absurd h hanswered⟩

theorem dispatch_served {overflowChecks : Bool} {s : Wayland} {calls : List SourceCall}
    (hnone : (dispatch overflowChecks s calls).2 = none)
    (hanswered : ∀ call ∈ calls, call.Answered s.listening) :
    (dispatch overflowChecks s calls).1 = calls.length := by
  induction calls generalizing s with
  | nil => rfl
  | cons call calls ih =>
      have hharmless := (dispatch_none_iff overflowChecks s (call :: calls)).mp hnone
      have hfails := call.run_fails_iff.mpr hharmless.1
      obtain ⟨hcall, hcalls⟩ := List.forall_mem_cons.mp hanswered
      rcases call.run_eq hfails with ⟨⟨action, hrun⟩, -⟩ | ⟨-, hnot⟩
      · have hstate : call.run overflowChecks s =
            ((call.run overflowChecks s).1, some (.ok action)) := by rw [← hrun]
        rw [dispatch, hstate] at hnone ⊢
        rw [List.length_cons, ← ih hnone (by rwa [call.run_listening])]
      · exact absurd hcall hnot

/-- Whatever the sources are answered, none of them stops the loop, and all are
served, if and only if every call the loop gets to is harmless. -/
theorem isolated_iff (overflowChecks : Bool) (s : Wayland) (calls : List SourceCall) :
    Isolated overflowChecks s calls ↔ AllHarmless overflowChecks s calls :=
  ⟨fun h => (dispatch_none_iff _ _ _).mp h.1,
    fun h => ⟨(dispatch_none_iff _ _ _).mpr h, dispatch_served ((dispatch_none_iff _ _ _).mpr h)⟩⟩

/-- The first client's connection is reset. The second one has hung up, and the
loop never gets to hear of it. -/
theorem reset_stops_all :
    dispatch false ⟨true, 3, by decide⟩
        [.client 1 true [.error .other], .client 2 true [endOfStream]] =
      (0, some (.error .other)) ∧
    ¬ Isolated false ⟨true, 3, by decide⟩
        [.client 1 true [.error .other], .client 2 true [endOfStream]] :=
  ⟨rfl, fun h => (nomatch h.1)⟩

end Scape.Wayland
