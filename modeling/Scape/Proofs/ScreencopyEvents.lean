import Scape.Display.Screencopy
import Scape.Proofs.OutputHotplug

/-!
# How often a frame hears the end

A frame is told the end of a copy, ready or failed, when a render takes the queue, when a
request is refused, and when one is dropped. Nothing remembers that a frame has been told:
a client may ask for a copy of the same frame again, and each request ends for itself. A
request that is failed ends twice, by `failed` and by its being dropped.

So what counts is how many requests of a frame end, and how each of them does
(`foldl_terminals`). Every step but a few tells nobody an end. Those few keep every frame
to one exactly when they are `Orderly`.
-/

namespace Scape.Display.ScreencopyState

open Scape Fallible Machine

variable {β : Type} {R : Renderer β} {s t : ScreencopyState β} {e : ScreencopyEvent β}
  {screencopy : Screencopy} {frame : Nat} {picture : Picture β}
  {trace : List (ScreencopyState β × ScreencopyEvent β)}

/-- How often a frame has been told the end. -/
def terminals (s : ScreencopyState β) (frame : Nat) : Nat :=
  s.sent.countP fun entry => entry.1 = frame && entry.2.terminal

/-- The requests of a frame that wait. -/
def waiting (s : ScreencopyState β) (frame : Nat) : Nat :=
  s.screencopyFrames.countP fun screencopy => screencopy.frame = frame

/-- No frame is told the end twice. -/
def EndsOnce (s : ScreencopyState β) : Prop := ∀ frame, s.terminals frame ≤ 1

/-- Every frame that is still there and waits does so once, and has not been told the end
before. -/
def WaitsOnce (s : ScreencopyState β) : Prop :=
  ∀ screencopy ∈ s.screencopyFrames, screencopy.frame ∉ s.destroyed →
    s.terminals screencopy.frame = 0 ∧ s.waiting screencopy.frame = 1

/-- No frame that waits is still there. -/
def NoneWaits (s : ScreencopyState β) : Prop :=
  ∀ screencopy ∈ s.screencopyFrames, screencopy.frame ∈ s.destroyed

/-- A copy is not asked for on winit, and for an output without a surface only if the
frame has not been told the end before. When the queue is taken, no frame is in it twice
or has been told the end before, and none is in it at all when the render fails. -/
def Orderly (s : ScreencopyState β) : ScreencopyEvent β → Prop
  | .copy frame _ _ =>
      s.backendData ≠ .winit ∧ ∀ data ∈ s.frames.lookup frame,
        s.hasSurface data.output ∨ s.terminals frame = 0
  | .render node crtc (some _) => (s.rendered node crtc).isSome → s.WaitsOnce
  | .render node crtc none => (s.rendered node crtc).isSome → s.NoneWaits
  | .stop => s.WaitsOnce
  | _ => True

/-! ## What each function tells -/

/-- The frames that are there are told so many ends. -/
structure Tells (ends : Nat → Nat) (s t : ScreencopyState β) : Prop where
  destroyed : t.destroyed = s.destroyed
  terminals : ∀ frame,
    t.terminals frame = s.terminals frame + if frame ∈ s.destroyed then 0 else ends frame

theorem Tells.refl (s : ScreencopyState β) : Tells (fun _ => 0) s s :=
  ⟨rfl, fun frame => by rw [ite_self, Nat.add_zero]⟩

theorem Tells.trans {ends ends' : Nat → Nat} {u : ScreencopyState β} (h : Tells ends s t)
    (h' : Tells ends' t u) : Tells (fun frame => ends frame + ends' frame) s u where
  destroyed := h'.destroyed.trans h.destroyed
  terminals frame := by
    rw [h'.terminals, h.terminals, h.destroyed]
    split <;> omega

theorem Tells.congr {ends ends' : Nat → Nat} (h : Tells ends s t)
    (heq : ∀ frame, ends frame = ends' frame) : Tells ends' s t := by
  rw [← funext heq]
  exact h

/-- So many ends for one frame. -/
def endsOf (k frame other : Nat) : Nat := if frame = other then k else 0

theorem endsOf_add (j k frame other : Nat) :
    endsOf j frame other + endsOf k frame other = endsOf (j + k) frame other := by
  unfold endsOf
  split <;> rfl

theorem endsOf_zero (other : Nat) : endsOf 0 frame other = 0 := ite_self _

theorem send_tells (event : FrameEvent β) :
    Tells (endsOf event.terminal.toNat frame) s (s.send frame event) := by
  rw [send]
  split
  next hgone =>
    refine ⟨rfl, fun other => ?_⟩
    split
    · rfl
    · next hthere =>
        have hother : frame ≠ other := fun hsame => hthere (hsame ▸ hgone)
        rw [endsOf, if_neg hother]
        rfl
  next hthere =>
    refine ⟨rfl, fun other => ?_⟩
    rw [terminals, List.countP_append, List.countP_singleton, ← terminals, endsOf]
    by_cases hsame : frame = other
    · subst hsame
      rw [if_neg hthere, if_pos rfl]
      cases event.terminal <;> simp
    · simp [hsame]

theorem drop_tells (h : screencopy.submitted = false) :
    Tells (endsOf 1 screencopy.frame) s (s.drop screencopy) := by
  rw [drop, h]
  exact send_tells .failed

theorem submit_tells : Tells (endsOf 1 screencopy.frame) s (s.submit screencopy) := by
  refine ((send_tells .flags).trans (send_tells (.ready _))).congr fun other => ?_
  exact endsOf_add 0 1 _ _

/-- One of the ends is that of the drop. -/
theorem failed_tells (h : screencopy.submitted = false) :
    Tells (endsOf 2 screencopy.frame) s (s.failed screencopy) :=
  ((send_tells .failed).trans (drop_tells h)).congr fun _ => endsOf_add 1 1 _ _

theorem terminals_congr (hsent : t.sent = s.sent) : t.terminals frame = s.terminals frame := by
  unfold terminals
  rw [hsent]

/-- What has no part in it. -/
theorem Tells.of_eq (hsent : t.sent = s.sent) (hdestroyed : t.destroyed = s.destroyed) :
    Tells (fun _ => 0) s t where
  destroyed := hdestroyed
  terminals frame := by rw [terminals_congr hsent, ite_self, Nat.add_zero]

theorem copyContents_tells {data : ShmBuffer} {region : Rectangle} {mapping : Nat → β} :
    Tells (fun _ => 0) s (s.copyContents data region mapping) := by
  rw [copyContents]
  dsimp only
  split <;> exact .of_eq rfl rfl

/-- Whatever its buffer is, a request ends once. -/
theorem copyFrame_tells :
    Tells (endsOf 1 screencopy.frame) s (copyFrame R picture s screencopy) := by
  rw [copyFrame]
  split
  · exact (copyContents_tells.trans submit_tells).congr fun _ => Nat.zero_add _
  · exact submit_tells

/-- When every request of a queue ends so many times, so often is a frame told for each
of its requests. -/
theorem foldl_tells {f : ScreencopyState β → Screencopy → ScreencopyState β} {k : Nat}
    {screencopies : List Screencopy}
    (hf : ∀ s, ∀ screencopy ∈ screencopies, Tells (endsOf k screencopy.frame) s (f s screencopy)) :
    Tells (fun frame => k * screencopies.countP fun screencopy => screencopy.frame = frame) s
      (screencopies.foldl f s) := by
  induction screencopies generalizing s with
  | nil => exact .refl s
  | cons first rest ih =>
      have hfirst := hf s first List.mem_cons_self
      have hrest := ih (s := f s first) fun s screencopy h =>
        hf s screencopy (List.mem_cons_of_mem _ h)
      refine (hfirst.trans hrest).congr fun frame => ?_
      rw [List.countP_cons, endsOf, Nat.mul_add, Nat.add_comm]
      simp

/-! ## Steps -/

/-- A request that waits has not been submitted. -/
def Unsubmitted (s : ScreencopyState β) : Prop :=
  ∀ screencopy ∈ s.screencopyFrames, screencopy.submitted = false

/-- The queue is taken, and every request in it ends so many times. -/
theorem taken_tells {f : ScreencopyState β → Screencopy → ScreencopyState β} {k : Nat}
    (hf : ∀ s' : ScreencopyState β, ∀ screencopy ∈ s.screencopyFrames,
      Tells (endsOf k screencopy.frame) s' (f s' screencopy)) :
    Tells (fun frame => k * s.waiting frame) s
      (s.screencopyFrames.foldl f { s with screencopyFrames := [] }) := by
  have hempty : Tells (fun _ => 0) s { s with screencopyFrames := [] } := .of_eq rfl rfl
  exact (hempty.trans (foldl_tells hf)).congr fun _ => Nat.zero_add _

theorem drain_tells (hs : s.Unsubmitted) (result : Option (Picture β)) :
    Tells (fun frame => (if result.isSome then 1 else 2) * s.waiting frame) s
      (s.drain R result) := by
  cases result with
  | some picture => exact taken_tells fun _ _ _ => copyFrame_tells
  | none => exact taken_tells fun _ screencopy h => failed_tells (hs screencopy h)

theorem stop_tells (hs : s.Unsubmitted) : Tells (fun frame => 1 * s.waiting frame) s s.stop :=
  taken_tells fun _ screencopy h => drop_tells (hs screencopy h)

/-- Every frame that is there is told the end once at most, and then only if it has not
been told before. -/
def Spares (ends : Nat → Nat) (s : ScreencopyState β) : Prop :=
  ∀ frame, frame ∉ s.destroyed → ends frame = 0 ∨ (ends frame = 1 ∧ s.terminals frame = 0)

theorem Tells.endsOnce_iff {ends : Nat → Nat} (h : Tells ends s t) (hs : s.EndsOnce) :
    t.EndsOnce ↔ s.Spares ends := by
  refine forall_congr' fun frame => ?_
  have hframe := hs frame
  rw [h.terminals]
  split
  next hgone => exact iff_of_true hframe fun hthere => absurd hgone hthere
  next hthere =>
    rw [forall_prop_of_true hthere]
    omega

theorem waiting_pos (h : screencopy ∈ s.screencopyFrames) : 0 < s.waiting screencopy.frame :=
  List.countP_pos_iff.mpr ⟨screencopy, h, by simp⟩

theorem exists_of_waiting (h : s.waiting frame ≠ 0) :
    ∃ screencopy ∈ s.screencopyFrames, screencopy.frame = frame := by
  obtain ⟨screencopy, hmem, hframe⟩ := List.countP_pos_iff.mp (Nat.pos_of_ne_zero h)
  exact ⟨screencopy, hmem, of_decide_eq_true hframe⟩

theorem spares_waiting_iff : s.Spares (fun frame => 1 * s.waiting frame) ↔ s.WaitsOnce := by
  rw [Spares]
  simp only [Nat.one_mul]
  symm
  constructor
  · intro h frame hthere
    by_cases hnone : s.waiting frame = 0
    · exact .inl hnone
    · obtain ⟨screencopy, hmem, rfl⟩ := exists_of_waiting hnone
      exact .inr (h screencopy hmem hthere).symm
  · intro h screencopy hmem hthere
    have hpos := waiting_pos hmem
    rcases h _ hthere with hnone | hone
    · omega
    · exact hone.symm

theorem spares_twice_iff : s.Spares (fun frame => 2 * s.waiting frame) ↔ s.NoneWaits := by
  unfold Spares
  dsimp only
  symm
  constructor
  · intro h frame hthere
    by_cases hnone : s.waiting frame = 0
    · exact .inl (by rw [hnone])
    · obtain ⟨screencopy, hmem, rfl⟩ := exists_of_waiting hnone
      exact absurd (h screencopy hmem) hthere
  · intro h screencopy hmem
    by_contra hthere
    have hpos := waiting_pos hmem
    have hframe := h _ hthere
    omega

/-! ## Requests -/

theorem Tells.send {event : FrameEvent β} (h : Tells (fun _ => 0) s t)
    (hevent : event.terminal = false) : Tells (fun _ => 0) s (t.send frame event) := by
  refine (h.trans (send_tells event)).congr fun other => ?_
  rw [hevent, Nat.zero_add]
  exact endsOf_zero other

theorem createFrame_tells {data : ScreencopyFrameState} {version : Nat} :
    Tells (fun _ => 0) s (s.createFrame data version) := by
  have hnew : Tells (fun _ => 0) s
      { s with frames := s.frames.insert s.nextFrame data, nextFrame := s.nextFrame + 1 } :=
    .of_eq rfl rfl
  unfold createFrame
  dsimp only
  split
  · exact (hnew.send rfl).send rfl
  · exact hnew.send rfl

theorem spares_zero : s.Spares fun _ => 0 := fun _ _ => .inl rfl

theorem spares_endsOf_iff (hthere : frame ∉ s.destroyed) {k : Nat} :
    s.Spares (endsOf k frame) ↔ k = 0 ∨ (k = 1 ∧ s.terminals frame = 0) := by
  constructor
  · intro h
    have hframe := h frame hthere
    rwa [endsOf, if_pos rfl] at hframe
  · intro h other _
    rw [endsOf]
    split
    next hsame =>
      subst hsame
      exact h
    next => exact .inl rfl

/-- A copy that is asked for is orderly or not by the output of its frame. -/
theorem orderly_copy_iff {sendDamage : Bool} {buffer : WlBuffer} {data : ScreencopyFrameState}
    (hdata : s.frames.lookup frame = some data) :
    s.Orderly (.copy frame sendDamage buffer) ↔
      s.backendData ≠ .winit ∧ (s.hasSurface data.output ∨ s.terminals frame = 0) := by
  show (_ ∧ ∀ data ∈ s.frames.lookup frame, _) ↔ _
  rw [hdata]
  simp

/-- A render that comes to an output is orderly or not by what waits. -/
theorem orderly_render_iff {node crtc : Nat} {output : SmithayOutput}
    {result : Option (Picture β)} (houtput : s.rendered node crtc = some output) :
    s.Orderly (.render node crtc result) ↔
      s.Spares (fun frame => (if result.isSome then 1 else 2) * s.waiting frame) := by
  have hcomes : (s.rendered node crtc).isSome := by
    rw [houtput]
    rfl
  cases result with
  | some picture => exact (Iff.trans ⟨fun h => h hcomes, fun h _ => h⟩ spares_waiting_iff.symm)
  | none => exact (Iff.trans ⟨fun h => h hcomes, fun h _ => h⟩ spares_twice_iff.symm)

theorem orderly_skipped {node crtc : Nat} {result : Option (Picture β)}
    (hnone : s.rendered node crtc = none) : s.Orderly (.render node crtc result) := by
  cases result <;> exact fun h => by simp [hnone] at h

theorem render_tells (hs : s.Unsubmitted) (output : SmithayOutput)
    (result : Option (Picture β)) :
    Tells (fun frame => (if result.isSome then 1 else 2) * s.waiting frame) s
      ((s.present output result).drain R result) := by
  have hpresent : Tells (fun _ => 0) s (s.present output result) := by
    cases result <;> exact .of_eq rfl rfl
  have hwaits : (s.present output result).screencopyFrames = s.screencopyFrames := by
    cases result <;> rfl
  refine (hpresent.trans (drain_tells ?_ result)).congr fun frame => ?_
  · unfold Unsubmitted
    rw [hwaits]
    exact hs
  · unfold waiting
    rw [hwaits, Nat.zero_add]

/-- What a step tells spares the frames exactly when the step is orderly. A destroyed frame
is another matter. -/
theorem step_tells (hs : s.Unsubmitted) (hstep : (system R).step s e t) :
    (∃ frame, e = .destroy frame) ∨ ∃ ends, Tells ends s t ∧ (s.Spares ends ↔ s.Orderly e) := by
  have hsilent {e : ScreencopyEvent β} (h : Tells (fun _ => 0) s t) (he : s.Orderly e) :
      ∃ ends, Tells ends s t ∧ (s.Spares ends ↔ s.Orderly e) :=
    ⟨_, h, iff_of_true spares_zero he⟩
  cases step_effect hstep with
  | hotplug => exact .inr (hsilent (.of_eq rfl rfl) trivial)
  | winitOutput => exact .inr (hsilent (.of_eq rfl rfl) trivial)
  | captureOutput => exact .inr (hsilent createFrame_tells trivial)
  | captureOutputRegion => exact .inr (hsilent createFrame_tells trivial)
  | queued hdata _ _ hudev hsurface =>
      refine .inr (hsilent (.of_eq rfl rfl) ((orderly_copy_iff hdata).mpr ⟨?_, .inl hsurface⟩))
      rw [hudev]
      exact nofun
  | dropped hdata hthere hudev hsurface =>
      refine .inr ⟨_, drop_tells rfl, (spares_endsOf_iff hthere).trans ?_⟩
      rw [orderly_copy_iff hdata]
      simp [hudev, hsurface]
  | failed hdata hthere hwinit =>
      refine .inr ⟨_, failed_tells rfl, (spares_endsOf_iff hthere).trans ?_⟩
      rw [orderly_copy_iff hdata]
      simp [hwinit]
  | destroy => exact .inl ⟨_, rfl⟩
  | write => exact .inr (hsilent (.of_eq rfl rfl) trivial)
  | skipped hnone => exact .inr (hsilent (.refl _) (orderly_skipped hnone))
  | rendered houtput => exact .inr ⟨_, render_tells hs _ _, (orderly_render_iff houtput).symm⟩
  | stop => exact .inr ⟨_, stop_tells hs, spares_waiting_iff⟩

/-! ## Runs -/

theorem reachable_unsubmitted (h : Reachable (system R) s) : s.Unsubmitted := by
  refine h.invariant (I := Unsubmitted) ?_ ?_
  · intro s hinit screencopy hmem
    rw [hinit.screencopyFrames] at hmem
    cases hmem
  · intro s e t hs _ hstep screencopy hmem
    rcases step_waits hstep hmem with hold | ⟨data, frame, sendDamage, buffer, -, -, rfl⟩
    · exact hs screencopy hold
    · rfl

theorem step_endsOnce_iff (hs : s.Unsubmitted) (honce : s.EndsOnce)
    (hstep : (system R).step s e t) : t.EndsOnce ↔ s.Orderly e := by
  rcases step_tells hs hstep with ⟨frame, rfl⟩ | ⟨ends, htells, hspares⟩
  · obtain rfl := Except.ok.inj hstep.2
    exact iff_of_true (fun frame => (terminals_congr rfl).trans_le (honce frame)) trivial
  · exact (htells.endsOnce_iff honce).trans hspares

theorem step_terminals_le (hs : s.Unsubmitted) (hstep : (system R).step s e t) :
    s.terminals frame ≤ t.terminals frame := by
  rcases step_tells hs hstep with ⟨other, rfl⟩ | ⟨ends, htells, -⟩
  · obtain rfl := Except.ok.inj hstep.2
    exact (terminals_congr rfl).ge
  · rw [htells.terminals]
    exact Nat.le_add_right _ _

/-- In a run every frame is told the end once at most exactly when every step of it is
orderly. -/
theorem run_endsOnce_iff (h : Run (system R) trace s) :
    s.EndsOnce ↔ ∀ p ∈ trace, p.1.Orderly p.2 := by
  induction h with
  | @init s hinit =>
      refine iff_of_true (fun frame => ?_) fun p hp => absurd hp List.not_mem_nil
      have hnone : s.terminals frame = 0 := by rw [terminals, hinit.sent, List.countP_nil]
      rw [hnone]
      exact Nat.zero_le 1
  | step hrun hstep ih =>
      have hunsubmitted := reachable_unsubmitted hrun.reachable
      rw [List.forall_mem_append, ← ih, List.forall_mem_singleton]
      constructor
      · intro hend
        have hbefore : EndsOnce _ := fun frame =>
          (step_terminals_le hunsubmitted hstep).trans (hend frame)
        exact ⟨hbefore, (step_endsOnce_iff hunsubmitted hbefore hstep).mp hend⟩
      · intro ⟨hbefore, horderly⟩
        exact (step_endsOnce_iff hunsubmitted hbefore hstep).mpr horderly

/-- Nothing is connected. -/
def idle (backendData : BackendData) : ScreencopyState Nat where
  hotplug := .fresh
  backendData
  frames := ∅
  nextFrame := 0
  destroyed := []
  screencopyFrames := []
  pools := fun _ => ⟨0, fun _ => 0⟩
  shown := fun _ _ _ _ => 0
  sent := []

theorem idle_initial {backendData : BackendData} : (idle backendData).IsInitial :=
  ⟨Hotplug.fresh_initial, rfl, rfl, rfl⟩

/-- A device and the panel on it come, and the panel is mapped. -/
def panelComes : List (ScreencopyEvent Nat) :=
  [.hotplug (.addDevice 0 ⟨true, true, true, true⟩),
    .hotplug (.scanEvent 0 (.connected Hotplug.panelConnector 0 ⟨false, true, true, true⟩)),
    .hotplug (.setLayout World.quiet (State.panelLayout "main" []))]

def panelShown : ScreencopyState Nat := (idle .udev).withHotplug Hotplug.panelStarted

theorem panelComes_run {R : Renderer Nat} :
    run (apply R) (idle .udev) panelComes = .ok panelShown := rfl

theorem panelComes_admitted {R : Renderer Nat} :
    ∀ p ∈ steps (apply R) (idle .udev) panelComes, p.1.Admits p.2 := by
  refine List.forall_mem_cons.mpr ⟨⟨rfl, trivial⟩, List.forall_mem_cons.mpr ⟨⟨rfl, trivial⟩,
    List.forall_mem_cons.mpr ⟨⟨rfl, trivial⟩, ?_⟩⟩⟩
  exact fun p hp => absurd hp List.not_mem_nil

/-- A buffer for all of the panel, alone in its pool. -/
def panelBuffer : WlBuffer := .shm ⟨0, 0, 1920, 1080, 7680, .argb8888⟩

def grey : Picture Nat := fun _ _ _ => 128

/-- A client asks for a copy of the panel. -/
def requested : List (ScreencopyEvent Nat) :=
  panelComes ++ [.write 0 ⟨7680 * 1080, fun _ => 0⟩, .captureOutput false State.panel 3,
    .copy 0 false panelBuffer]

theorem run_of_admitted {events : List (ScreencopyEvent β)} (hs : Run (system R) trace s)
    (hadmits : ∀ p ∈ steps (apply R) s events, p.1.Admits p.2)
    (h : run (apply R) s events = .ok t) : Run (system R) (trace ++ steps (apply R) s events) t :=
  run_steps_of hs (fun p hp _ hok => ⟨hadmits p hp, hok⟩) h

theorem requested_admitted (result : Option (Picture Nat)) :
    ∀ p ∈ steps (apply (.software 0)) (idle .udev) (requested ++ [.render 0 0 result]),
      p.1.Admits p.2 := by
  rw [requested, List.append_assoc, steps_append panelComes_run, List.forall_mem_append]
  refine ⟨panelComes_admitted, List.forall_mem_cons.mpr ⟨Nat.zero_le _,
    List.forall_mem_cons.mpr ⟨trivial, List.forall_mem_cons.mpr ⟨⟨rfl, List.not_mem_nil, ?_⟩,
    List.forall_mem_cons.mpr ⟨rfl, ?_⟩⟩⟩⟩⟩
  · exact le_of_eq rfl
  · cases result <;> exact fun p hp => absurd hp List.not_mem_nil

/-- The picture is taken, and the frame is told once. -/
theorem screenshot_endsOnce :
    ∃ s, run (apply (.software 0)) (idle .udev) (requested ++ [.render 0 0 (some grey)]) = .ok s ∧
      s.EndsOnce := by
  refine ⟨_, rfl, ?_⟩
  refine (run_endsOnce_iff (run_of_admitted (.init idle_initial)
    (requested_admitted (some grey)) rfl)).mpr ?_
  refine List.forall_mem_cons.mpr ⟨trivial, List.forall_mem_cons.mpr ⟨trivial,
    List.forall_mem_cons.mpr ⟨trivial, List.forall_mem_cons.mpr ⟨trivial,
    List.forall_mem_cons.mpr ⟨trivial, List.forall_mem_cons.mpr ⟨⟨nofun, ?_⟩,
    List.forall_mem_cons.mpr ⟨fun _ => ?_, ?_⟩⟩⟩⟩⟩⟩⟩
  · intro data hdata
    exact .inr rfl
  · intro screencopy hmem _
    obtain rfl := List.mem_singleton.mp hmem
    exact ⟨rfl, rfl⟩
  · exact fun p hp => absurd hp List.not_mem_nil

/-- One request, and a render that fails: the frame is told twice that it has failed. -/
theorem failedRender_endsTwice :
    ∃ trace s, Run (system (.software 0)) trace s ∧ s.terminals 0 = 2 :=
  ⟨_, _, run_of_admitted (.init idle_initial) (requested_admitted none) rfl, rfl⟩

end Scape.Display.ScreencopyState
