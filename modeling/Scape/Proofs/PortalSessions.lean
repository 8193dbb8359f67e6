import Scape.Display.Portals

/-!
# Sessions that are created and never found

A session is open from its creation until it is closed, and while it is open the bus serves
an object at its path (`served_iff_opened`). The portal has a table of its own, which the
selection of sources goes by, and nothing is ever put into it. So no selection succeeds, and
`selectSources` is right exactly where the handle is not that of an open session.
-/

namespace Scape.Display.Portal

open Scape Machine

/-- A session has been created under the handle and not closed since. -/
def Opened (handle : ObjectPath) (calls : List PortalCall) : Prop :=
  calls.foldl (fun opened call =>
    match call with
    | .createSession _ sessionHandle _ => opened ∨ sessionHandle = handle
    | .selectSources _ _ _ _ => opened
    | .close sessionHandle => opened ∧ sessionHandle ≠ handle) False

/-- A call that comes after some others does what it should. For a selection that is to
succeed exactly if the session is open, and to leave the options with its object. -/
def Right (before : List PortalCall) (call : PortalCall) : Prop :=
  let s := new.run before
  match call with
  | .selectSources _ sessionHandle _ options =>
      ((s.step call).2 = .selected ↔ Opened sessionHandle before) ∧
        ((s.step call).2 = .selected →
          (s.step call).1.optionsAt sessionHandle = some (.ofSelect options))
  | _ => True

variable {s : Portal} {calls before after : List PortalCall} {call : PortalCall}
  {handle path : ObjectPath}

theorem run_concat : s.run (calls ++ [call]) = ((s.run calls).step call).1 := by
  rw [run, run]
  induction calls generalizing s with
  | nil => rfl
  | cons first calls ih => exact ih

theorem opened_concat : Opened handle (calls ++ [call]) ↔
    match call with
    | .createSession _ sessionHandle _ => Opened handle calls ∨ sessionHandle = handle
    | .selectSources _ _ _ _ => Opened handle calls
    | .close sessionHandle => Opened handle calls ∧ sessionHandle ≠ handle := by
  rw [Opened, List.foldl_concat]
  cases call <;> rfl

/-! ## The object server -/

/-- Each session is served at its own path. -/
def ServedAtPath (s : Portal) : Prop :=
  ∀ path session, s.sessionObjects.lookup path = some session → session.handlePath = path

theorem lookup_serveAt {ν : Type} {objects : HashMap ObjectPath ν} {object : ν} :
    (serveAt objects path object).lookup handle =
      if handle = path then some ((objects.lookup path).getD object)
      else objects.lookup handle := by
  rw [serveAt]
  cases hold : objects.lookup path with
  | some old =>
      by_cases he : handle = path
      · rw [if_pos he, he]
        exact hold
      · rw [if_neg he]
  | none =>
      by_cases he : handle = path
      · rw [if_pos he, he]
        exact AList.lookup_insert objects
      · rw [if_neg he]
        exact AList.lookup_insert_ne he

theorem close_of_served (hs : s.ServedAtPath) {session : Session}
    (h : s.sessionObjects.lookup path = some session) :
    s.close path = ({ s with sessionObjects := s.sessionObjects.erase path }, .closed) := by
  rw [close, h]
  dsimp only
  rw [hs path session h, h]

theorem close_of_unserved (h : s.sessionObjects.lookup path = none) :
    s.close path = (s, .failed) := by
  rw [close, h]

/-- No handler writes to the table. -/
theorem step_sessions : (s.step call).1.sessions = s.sessions := by
  cases call with
  | createSession => rfl
  | selectSources requestHandle sessionHandle appId options =>
      rw [step, selectSources]
      split <;> rfl
  | close sessionHandle =>
      rw [step, close]
      split
      · rfl
      · split <;> rfl

theorem run_sessions : (new.run calls).sessions = ∅ := by
  induction calls using List.reverseRecOn with
  | nil => rfl
  | append_singleton calls call ih =>
      rw [run_concat, step_sessions]
      exact ih

theorem step_servedAtPath (hs : s.ServedAtPath) : (s.step call).1.ServedAtPath := by
  cases call with
  | createSession requestHandle sessionHandle appId =>
      intro path session h
      have hlookup : (serveAt s.sessionObjects sessionHandle
          ⟨.screenCast, sessionHandle, s.nextCell⟩).lookup path = some session := h
      rw [lookup_serveAt] at hlookup
      split at hlookup
      next he =>
        obtain rfl := Option.some.inj hlookup
        cases hold : s.sessionObjects.lookup sessionHandle with
        | some old => exact (hs sessionHandle old hold).trans he.symm
        | none => exact he.symm
      next => exact hs path session hlookup
  | selectSources requestHandle sessionHandle appId options =>
      rw [step, selectSources]
      split
      · exact hs
      · exact hs
  | close sessionHandle =>
      cases hserved : s.sessionObjects.lookup sessionHandle with
      | none =>
          rw [step, close_of_unserved hserved]
          exact hs
      | some session =>
          rw [step, close_of_served hs hserved]
          intro path other h
          have hne : path ≠ sessionHandle := by
            rintro rfl
            rw [AList.lookup_erase] at h
            cases h
          rw [AList.lookup_erase_ne hne] at h
          exact hs path other h

theorem run_servedAtPath : (new.run calls).ServedAtPath := by
  induction calls using List.reverseRecOn with
  | nil => exact fun path session h => by cases h
  | append_singleton calls call ih =>
      rw [run_concat]
      exact step_servedAtPath ih

theorem step_served_iff (hs : s.ServedAtPath) :
    ((s.step call).1.sessionObjects.lookup handle).isSome ↔
      match call with
      | .createSession _ sessionHandle _ =>
          (s.sessionObjects.lookup handle).isSome ∨ sessionHandle = handle
      | .selectSources _ _ _ _ => (s.sessionObjects.lookup handle).isSome
      | .close sessionHandle =>
          (s.sessionObjects.lookup handle).isSome ∧ sessionHandle ≠ handle := by
  cases call with
  | createSession requestHandle sessionHandle appId =>
      show ((serveAt s.sessionObjects sessionHandle
        ⟨.screenCast, sessionHandle, s.nextCell⟩).lookup handle).isSome ↔ _
      rw [lookup_serveAt]
      split
      next he => simp [he]
      next hne => exact (or_iff_left (Ne.symm hne)).symm
  | selectSources requestHandle sessionHandle appId options =>
      rw [step, selectSources]
      split <;> rfl
  | close sessionHandle =>
      cases hserved : s.sessionObjects.lookup sessionHandle with
      | none =>
          rw [step, close_of_unserved hserved]
          refine (and_iff_left_of_imp fun hsome => ?_).symm
          rintro rfl
          rw [hserved] at hsome
          cases hsome
      | some session =>
          rw [step, close_of_served hs hserved]
          dsimp only
          by_cases he : handle = sessionHandle
          · subst he
            simp
          · rw [AList.lookup_erase_ne he]
            exact (and_iff_left (Ne.symm he)).symm

/-- The bus serves an object at a path exactly while a session is open there. -/
theorem served_iff_opened (calls : List PortalCall) (handle : ObjectPath) :
    ((new.run calls).sessionObjects.lookup handle).isSome ↔ Opened handle calls := by
  induction calls using List.reverseRecOn with
  | nil => exact iff_of_false Bool.false_ne_true id
  | append_singleton calls call ih =>
      rw [run_concat, step_served_iff run_servedAtPath, opened_concat]
      cases call with
      | createSession => exact or_congr_left ih
      | selectSources => exact ih
      | close => exact and_congr_left' ih

/-! ## Selections -/

/-- No session is found. -/
theorem step_selectSources (calls : List PortalCall) (requestHandle sessionHandle : ObjectPath)
    (appId : String) (options : SelectSourcesOptions) :
    (new.run calls).step (.selectSources requestHandle sessionHandle appId options) =
      (new.run calls, .other) := by
  rw [step, selectSources, run_sessions]
  rfl

/-- A call of a sequence, with the calls before it. -/
def CallOf (calls before : List PortalCall) (call : PortalCall) : Prop :=
  ∃ after, calls = before ++ call :: after

/-- Every call of a sequence is right exactly if no selection of it is made for a session
that is open. -/
theorem selectSources_right_iff (calls : List PortalCall) :
    (∀ before call, CallOf calls before call → Right before call) ↔
      ∀ before requestHandle sessionHandle appId options,
        CallOf calls before (.selectSources requestHandle sessionHandle appId options) →
        ¬ Opened sessionHandle before := by
  constructor
  · intro h before requestHandle sessionHandle appId options hcall hopened
    have hright := (h before _ hcall).1.mpr hopened
    rw [step_selectSources] at hright
    cases hright
  · intro h before call hcall
    cases call with
    | selectSources requestHandle sessionHandle appId options =>
        rw [Right, step_selectSources]
        refine ⟨iff_of_false ?_ (h before _ _ _ _ hcall), ?_⟩
        · exact fun hsame => by cases hsame
        · exact fun hsame => by cases hsame
    | _ => trivial

/-- A session is created, and the selection of its sources fails. -/
theorem selectSources_opened :
    Opened ⟨"/s"⟩ [.createSession ⟨"/r"⟩ ⟨"/s"⟩ "app"] ∧
      ((new.run [.createSession ⟨"/r"⟩ ⟨"/s"⟩ "app"]).step
        (.selectSources ⟨"/r"⟩ ⟨"/s"⟩ "app" ⟨none, none, none, none, none⟩)).2 = .other ∧
      ¬ ∀ before call, CallOf [.createSession ⟨"/r"⟩ ⟨"/s"⟩ "app",
          .selectSources ⟨"/r"⟩ ⟨"/s"⟩ "app" ⟨none, none, none, none, none⟩] before call →
        Right before call := by
  have hopened : Opened ⟨"/s"⟩ [.createSession ⟨"/r"⟩ ⟨"/s"⟩ "app"] := Or.inr rfl
  have hother := step_selectSources [.createSession ⟨"/r"⟩ ⟨"/s"⟩ "app"] ⟨"/r"⟩ ⟨"/s"⟩ "app"
    ⟨none, none, none, none, none⟩
  refine ⟨hopened, congrArg Prod.snd hother, ?_⟩
  intro h
  have hright := (h _ _ ⟨[], rfl⟩ :
    Right [.createSession ⟨"/r"⟩ ⟨"/s"⟩ "app"] (.selectSources ..)).1.mpr hopened
  rw [hother] at hright
  cases hright

end Scape.Display.Portal
