import Scape.Display.InitialRender

/-!
# Which surface a retry renders

A first render that fails for the time being is to be tried again on the same surface,
until it does not fail that way or the surface is gone. `Retrying` is that: what waits is
the surface of the first attempt.

The code goes by the render node after the first failure. On a GPU whose render node is
not the node the device is known by, the retry looks up another device. Mostly there is
none, and the output never gets its first frame; if there is one it is rendered instead.
A run makes the attempts it should exactly if, whenever a retry is due, the surface that
failed had its device node for a render node, or there is nothing left to confuse.
-/

namespace Scape.Display

open Machine

/-! ## What retries are for -/

/-- The surfaces, and those to be tried again, oldest first, with the render node each
had when it failed. -/
structure Retrying where
  surfaces : SurfaceKey → Option UInt64
  waiting : List (SurfaceKey × UInt64)
  panicked : Bool

namespace Retrying

/-- An attempt on a surface, which waits for the next if it fails for the time being. -/
def attempt (t : Retrying) (key : SurfaceKey) (result : Except SwapBuffersError Unit) :
    Retrying × Option SurfaceKey :=
  match t.surfaces key with
  | none => (t, none)
  | some renderNode =>
      match result with
      | .ok () => (t, some key)
      | .error .alreadySwapped => (t, some key)
      | .error (.temporaryFailure _) =>
          ({ t with waiting := t.waiting ++ [(key, renderNode)] }, some key)
      | .error .contextLost => ({ t with panicked := true }, some key)

def setSurface (t : Retrying) (key : SurfaceKey) (renderNode : Option UInt64) : Retrying :=
  { t with surfaces := Function.update t.surfaces key renderNode }

/-- A surface is known by its device and its CRTC. One that goes while it waits is not taken
off the list: its retry finds nothing when it is due, or the surface that has come in its
place. -/
def step (t : Retrying) (e : InitialRenderEvent) : Retrying × Option SurfaceKey :=
  if t.panicked then (t, none)
  else
    match e with
    | .startOutput key result => t.attempt key result
    | .idle result =>
        match t.waiting with
        | [] => (t, none)
        | (key, _) :: rest => { t with waiting := rest }.attempt key result
    | .connected key renderNode => (t.setSurface key (some renderNode), none)
    | .disconnected key => (t.setSurface key none, none)

/-- The retry that is due is of a surface that had its device node for a render node, or
there is no surface at either node any more. -/
def OwnNode (t : Retrying) (e : InitialRenderEvent) : Prop :=
  ∀ result, e = .idle result → t.panicked = false → ∀ key renderNode,
    t.waiting.head? = some (key, renderNode) →
    renderNode = key.node ∨
      (t.surfaces ⟨renderNode, key.crtc⟩ = none ∧ t.surfaces key = none)

/-- What the idle actions of the code know of the surfaces that wait. -/
def captured (entry : SurfaceKey × UInt64) : SurfaceKey := ⟨entry.2, entry.1.crtc⟩

/-- The state of the code. -/
def code (t : Retrying) : InitialRender :=
  ⟨t.surfaces, t.waiting.map captured, t.panicked⟩

variable {t : Retrying} {key : SurfaceKey} {renderNode : UInt64}
  {result : Except SwapBuffersError Unit}

/-! ## One attempt -/

theorem scheduleInitialRender_snd {s : InitialRender} :
    (s.scheduleInitialRender key result).2 = (s.surfaces key).map fun _ => key := by
  rw [InitialRender.scheduleInitialRender]
  cases s.surfaces key with
  | none => rfl
  | some renderNode => rcases result with (_ | _ | _) | _ <;> rfl

theorem attempt_snd : (t.attempt key result).2 = (t.surfaces key).map fun _ => key := by
  rw [attempt]
  cases t.surfaces key with
  | none => rfl
  | some renderNode => rcases result with (_ | _ | _) | _ <;> rfl

/-- On one surface the code does what is intended. -/
theorem attempt_code :
    (t.code.scheduleInitialRender key result).1 = (t.attempt key result).1.code := by
  have hsurfaces : t.code.surfaces key = t.surfaces key := rfl
  rw [InitialRender.scheduleInitialRender, attempt, hsurfaces]
  cases t.surfaces key with
  | none => rfl
  | some renderNode =>
      rcases result with (_ | _ | _) | _
      · rfl
      · have hwaits : t.waiting.map captured ++ [captured (key, renderNode)] =
            (t.waiting ++ [(key, renderNode)]).map captured := by
          rw [List.map_append, List.map_singleton]
        exact congrArg (fun idles => InitialRender.mk t.surfaces idles t.panicked) hwaits
      · rfl
      · rfl

/-- On two surfaces it does only if neither is there. -/
theorem attempts_same_iff {s : InitialRender} {other : SurfaceKey}
    (h : s.surfaces = t.surfaces) :
    (s.scheduleInitialRender other result).2 = (t.attempt key result).2 ↔
      other = key ∨ (t.surfaces other = none ∧ t.surfaces key = none) := by
  rw [scheduleInitialRender_snd, attempt_snd, h]
  cases hother : t.surfaces other with
  | none =>
      cases hkey : t.surfaces key with
      | none => exact iff_of_true rfl (.inr ⟨rfl, rfl⟩)
      | some renderNode =>
          refine iff_of_false (fun heq => by cases heq) fun hor => ?_
          rcases hor with rfl | hnone
          · cases hother.symm.trans hkey
          · cases hnone.2
  | some renderNode =>
      cases hkey : t.surfaces key with
      | none =>
          refine iff_of_false (fun heq => by cases heq) fun hor => ?_
          rcases hor with rfl | hnone
          · cases hother.symm.trans hkey
          · cases hnone.1
      | some renderNode' => simp

theorem attempt_of_missing (h : t.surfaces key = none) : t.attempt key result = (t, none) := by
  rw [attempt, h]

theorem schedule_of_missing {s : InitialRender} (h : s.surfaces key = none) :
    s.scheduleInitialRender key result = (s, none) := by
  rw [InitialRender.scheduleInitialRender, h]

/-! ## One event -/

theorem captured_eq_iff : captured (key, renderNode) = key ↔ renderNode = key.node := by
  constructor
  · intro h
    exact congrArg SurfaceKey.node h
  · intro h
    rw [h]
    rfl

theorem ownNode_of_not_idle {e : InitialRenderEvent} (h : ∀ result, e ≠ .idle result) :
    t.OwnNode e :=
  fun result he => absurd he (h result)

theorem ownNode_idle_iff {rest : List (SurfaceKey × UInt64)} (hp : t.panicked = false)
    (hw : t.waiting = (key, renderNode) :: rest) :
    t.OwnNode (.idle result) ↔ captured (key, renderNode) = key ∨
      (t.surfaces (captured (key, renderNode)) = none ∧ t.surfaces key = none) := by
  rw [captured_eq_iff]
  constructor
  · intro h
    exact h result rfl hp key renderNode (by rw [hw]; rfl)
  · intro h result' _ _ key' renderNode' hhead
    rw [hw] at hhead
    cases hhead
    exact h

/-- The code renders what is intended exactly if a retry is of a surface with its own
node. -/
theorem step_same_iff {e : InitialRenderEvent} :
    (t.code.step e).2 = (t.step e).2 ↔ t.OwnNode e := by
  unfold InitialRender.step step
  by_cases hp : t.panicked = true
  · have hcode : t.code.panicked = true := hp
    rw [if_pos hcode, if_pos hp]
    exact iff_of_true rfl fun result _ hrunning => absurd (hp.symm.trans hrunning) (by simp)
  · have hcode : ¬t.code.panicked = true := hp
    rw [if_neg hcode, if_neg hp]
    cases e with
    | startOutput key result =>
        refine iff_of_true ?_ (ownNode_of_not_idle fun _ he => by cases he)
        exact (attempts_same_iff rfl).mpr (.inl rfl)
    | idle result =>
        cases hw : t.waiting with
        | nil =>
            simp only [code, hw, List.map_nil]
            refine iff_of_true trivial fun _ _ _ key renderNode hhead => ?_
            rw [hw] at hhead
            cases hhead
        | cons entry rest =>
            obtain ⟨key, renderNode⟩ := entry
            rw [ownNode_idle_iff (Bool.not_eq_true _ ▸ hp) hw]
            simp only [code, hw, List.map_cons]
            exact attempts_same_iff rfl
    | connected key renderNode =>
        exact iff_of_true rfl (ownNode_of_not_idle fun _ he => by cases he)
    | disconnected key =>
        exact iff_of_true rfl (ownNode_of_not_idle fun _ he => by cases he)

theorem step_code {e : InitialRenderEvent} (h : t.OwnNode e) :
    (t.code.step e).1 = (t.step e).1.code := by
  unfold InitialRender.step step
  by_cases hp : t.panicked = true
  · have hcode : t.code.panicked = true := hp
    rw [if_pos hcode, if_pos hp]
  · have hcode : ¬t.code.panicked = true := hp
    rw [if_neg hcode, if_neg hp]
    cases e with
    | startOutput key result => exact attempt_code
    | idle result =>
        cases hw : t.waiting with
        | nil => simp only [code, hw, List.map_nil]
        | cons entry rest =>
            obtain ⟨key, renderNode⟩ := entry
            rw [ownNode_idle_iff (Bool.not_eq_true _ ▸ hp) hw] at h
            simp only [code, hw, List.map_cons]
            rcases h with hown | ⟨hother, hkey⟩
            · rw [hown]
              exact attempt_code (t := { t with waiting := rest })
            · have hskips : ({ t with waiting := rest } : Retrying).attempt key result =
                  ({ t with waiting := rest }, none) := attempt_of_missing hkey
              rw [schedule_of_missing hother, hskips]
    | connected key renderNode => rfl
    | disconnected key => rfl

/-! ## Runs -/

/-- Over any events the code makes the attempts that are intended exactly if all retries
that come due are of surfaces with their own node, or of none. -/
theorem attempts_eq_iff (t : Retrying) (events : List InitialRenderEvent) :
    (runFrom InitialRender.step t.code events).2 = (runFrom step t events).2 ↔
      ∀ p ∈ steps step t events, p.1.OwnNode p.2 := by
  refine outputs_eq_iff (R := fun s t => s = t.code) (fun s t e hs => ?_)
    (fun s t e hs he => ?_) rfl
  · rw [hs]
    exact step_same_iff
  · rw [hs]
    exact step_code he

/-- A card with a render node of its own: the first render fails, and the retry finds no
surface. -/
theorem separateNode_gives_up :
    (runFrom InitialRender.step ⟨fun _ => none, [], false⟩
        [.connected ⟨57856, 41⟩ 57984,
          .startOutput ⟨57856, 41⟩ (.error (.temporaryFailure .deviceInactive)),
          .idle (.ok ())]).2 = [none, some ⟨57856, 41⟩, none] ∧
    (runFrom step ⟨fun _ => none, [], false⟩
        [.connected ⟨57856, 41⟩ 57984,
          .startOutput ⟨57856, 41⟩ (.error (.temporaryFailure .deviceInactive)),
          .idle (.ok ())]).2 = [none, some ⟨57856, 41⟩, some ⟨57856, 41⟩] := by
  decide

end Retrying

end Scape.Display
