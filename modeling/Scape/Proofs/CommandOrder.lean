import Scape.Proofs.DarkScreen

/-!
# Commands reach the display thread in order

What Lua asks of the display thread goes through two queues: the actions that the config
thread's loop holds, and the channel between the threads. The channel carries messages of
other threads as well, but these are no commands.

As long as the display thread is there, a command that has been asked for is in one of the
queues or has been handled, and all of them are in the order in which Lua asked
(`commands_in_order`). None is lost, none is handled twice.
-/

namespace Scape.Config

open Fallible (bind_eq_ok_iff)

variable {M : Mlua} {I : Interpreter M} {overflowChecks : Bool} {peers : Peers}
  {st st' : ConfigState M} {effects : List Effect} {result : Except (ConfigError M) Unit}

/-! ## What Lua asks for -/

/-- A message that only Lua asks for. -/
def IsCommand : DisplayMessage → Bool
  | .shutdown | .keyboardInput _ _ _ _ => false
  | _ => true

/-- The message an action sends to the display thread, where no output is known. -/
def Idle.command : Idle M → Option DisplayMessage
  | .setLayout layout => some (.setLayout (ConfigState.layoutSpaces ∅ layout))
  | .display message => some message
  | _ => none

/-- The commands that the calls of a script ask for, in their order. A call that fails asks
for nothing. -/
def Script.commands : Script M → List DisplayMessage
  | .done _ => []
  | .error _ _ => []
  | .call api args k =>
      ((api.idle args).toOption.bind Idle.command).toList ++ (k (api.answer args)).commands

theorem Script.eval_commands {script : Script M} {run : LuaRun M} (h : script.eval = .ok run) :
    run.idles.filterMap Idle.command = script.commands := by
  induction script generalizing run with
  | done | error =>
      cases h
      rfl
  | call api args k ih =>
      obtain ⟨rest, hrest, ⟨idle, hidle, rfl⟩ | ⟨hnone, rfl⟩⟩ := eval_call_eq_ok h
      · rw [Script.commands, hidle, ← ih _ hrest, LuaRun.queue]
        show (idle :: rest.idles).filterMap Idle.command = _
        cases hcommand : idle.command <;> simp [Except.toOption, hcommand]
      · rw [Script.commands, ih _ hrest]
        cases hidle : api.idle args with
        | ok idle => exact absurd hidle (hnone idle)
        | error => rfl

theorem Idle.Plain.isCommand {idle : Idle M} (h : idle.Plain) {message : DisplayMessage}
    (hcommand : idle.command = some message) : IsCommand message = true := by
  cases idle with
  | setLayout => cases hcommand; rfl
  | display message' =>
      cases hcommand
      cases message with
      | shutdown | keyboardInput => exact h.elim
      | _ => rfl
  | _ => cases hcommand

theorem Script.commands_isCommand (script : Script M) :
    ∀ message ∈ script.commands, IsCommand message = true := by
  induction script with
  | done | error => simp [Script.commands]
  | call api args k ih =>
      rw [Script.commands]
      refine List.forall_mem_append.mpr ⟨fun message hmem => ?_, ih _⟩
      rw [Option.mem_toList] at hmem
      obtain ⟨idle, hidle, hcommand⟩ := Option.bind_eq_some_iff.mp hmem
      cases hresult : api.idle args with
      | error =>
          rw [hresult] at hidle
          cases hidle
      | ok idle' =>
          rw [hresult] at hidle
          cases hidle
          exact Idle.Plain.isCommand (Api.idle_plain hresult) hcommand

namespace ConfigState

/-- The Lua code a callback stands for. -/
def entersCallback (I : Interpreter M) (st : ConfigState M) (callbackRef : CallbackRef) :
    Option (Script M) :=
  (st.callbackState.callbacks.lookup callbackRef).map fun callback =>
    I.enter st.lua (.function callback none)

/-- The Lua code that a turn runs. -/
def enters (I : Interpreter M) (st : ConfigState M) : Turn → Option (Script M)
  | .message (.runCallback callbackRef) => st.entersCallback I callbackRef
  | .message .startup => st.onStartup.bind (st.entersCallback I)
  | .fileChanged read =>
      if st.watching then read.map fun content => I.enter st.lua (.chunk content) else none
  | _ => none

/-- The commands that a turn asks for. -/
def asks (I : Interpreter M) (st : ConfigState M) (turn : Turn) : List DisplayMessage :=
  (st.enters I turn).elim [] Script.commands

theorem asks_isCommand {turn : Turn} :
    ∀ message ∈ st.asks I turn, IsCommand message = true := by
  unfold asks
  cases st.enters I turn with
  | none => simp
  | some script => exact script.commands_isCommand

/-- The commands that the loop still holds. -/
def waiting (st : ConfigState M) : List DisplayMessage := st.idles.filterMap Idle.command

theorem waiting_afterLua {script : Script M} {run : LuaRun M} (h : script.eval = .ok run) :
    (st.afterLua run).waiting = st.waiting ++ script.commands := by
  rw [← Script.eval_commands h]
  exact List.filterMap_append

theorem runCallback_waiting {callbackRef : CallbackRef}
    (h : st.runCallback I callbackRef none = .ok (st', result)) :
    st'.waiting = st.waiting ++ (st.entersCallback I callbackRef).elim [] Script.commands := by
  obtain ⟨⟨run, result'⟩, hcall, hok⟩ := bind_eq_ok_iff.mp h
  cases hok
  unfold CallbackState.runCallback at hcall
  unfold entersCallback
  split at hcall
  next hnone =>
    cases hcall
    rw [hnone]
    show List.filterMap Idle.command (st.idles ++ []) = st.waiting ++ []
    rw [List.append_nil, List.append_nil]
    rfl
  next callback hcallback =>
    obtain ⟨run', heval, hrest⟩ := bind_eq_ok_iff.mp hcall
    cases hrest
    rw [hcallback]
    exact waiting_afterLua heval

theorem execConfig_waiting {content : List UInt8}
    (h : st.execConfig I content = .ok (st', result)) :
    st'.waiting = st.waiting ++ (runsAs I st.lua content).commands := by
  obtain ⟨run, hrun, rfl, -⟩ := execConfig_run h
  exact waiting_afterLua hrun

theorem configChanged_waiting {content : List UInt8}
    (h : st.configChanged I (some content) = .ok st') :
    st'.waiting = st.waiting ++ (I.enter st.lua (.chunk content)).commands := by
  obtain ⟨⟨st₁, result⟩, hexec, hrest⟩ := bind_eq_ok_iff.mp h
  cases result with
  | error e => cases hrest
  | ok _ =>
      cases hrest
      exact execConfig_waiting hexec

/-! ## What is asked for at the start -/

/-- The commands that files ask for, up to the first that cannot be read or fails. -/
def fileCommands (I : Interpreter M) (lua : M.State) :
    List (Option (List UInt8)) → List DisplayMessage
  | [] => []
  | none :: _ => []
  | some content :: files =>
      (runsAs I lua content).commands ++
        if (runsAs I lua content).finish.2.isOk then
          fileCommands I (runsAs I lua content).finish.1 files
        else []

/-- The files that are run at the start. -/
def Surroundings.files (env : Surroundings) : List (Option (List UInt8)) :=
  env.config.elim (env.configFiles.getD []) fun read => [read]

theorem execConfigs_waiting {files : List (Option (List UInt8))}
    (h : st.execConfigs I files = .ok (st', result)) :
    st'.waiting = st.waiting ++ fileCommands I st.lua files := by
  induction files generalizing st with
  | nil =>
      cases h
      exact (List.append_nil _).symm
  | cons read files ih =>
      cases read with
      | none =>
          cases h
          exact (List.append_nil _).symm
      | some content =>
          obtain ⟨⟨st₁, result₁⟩, hexec, hrest⟩ := bind_eq_ok_iff.mp h
          obtain ⟨hlua, hresult⟩ := execConfig_finish hexec
          have hwaiting := execConfig_waiting hexec
          rw [fileCommands, ← List.append_assoc, ← hwaiting, ← hlua]
          cases hfinish : (runsAs I st.lua content).finish.2 with
          | ok _ =>
              rw [hfinish] at hresult
              obtain rfl : result₁ = .ok () := hresult
              exact ih hrest
          | error e =>
              rw [hfinish] at hresult
              obtain rfl : result₁ = .error (.runConfig e) := hresult
              cases hrest
              exact (List.append_nil _).symm

theorem runAndWatchUserConfig_waiting {env : Surroundings}
    (h : st.runAndWatchUserConfig I env = .ok (st', result)) :
    st'.waiting = st.waiting ++ fileCommands I st.lua env.files := by
  unfold runAndWatchUserConfig at h
  rw [Surroundings.files]
  split at h
  next read hconfig =>
    rw [hconfig, Option.elim_some]
    exact execConfigs_waiting h
  next hconfig =>
    rw [hconfig]
    split at h
    next => cases h
    next files hfiles =>
      obtain ⟨⟨st₁, result₁⟩, hexec, hrest⟩ := bind_eq_ok_iff.mp h
      rw [hfiles, Option.elim_none, Option.getD_some, ← execConfigs_waiting hexec]
      cases result₁ with
      | error e =>
          cases hrest
          rfl
      | ok _ =>
          dsimp only at hrest
          split at hrest
          · cases hrest
          · split at hrest
            · cases hrest
            · cases hrest
              rfl

/-- What the loop holds when it starts is what the files ask for. -/
theorem new_waiting {env : Surroundings}
    (h : ConfigState.new I overflowChecks peers env = .ok (st, effects)) :
    st.waiting = fileCommands I I.start env.files := by
  obtain ⟨⟨st₁, sent⟩, hmap, hmore⟩ := bind_eq_ok_iff.mp h
  obtain ⟨⟨st₂, result⟩, hrun, hok⟩ := bind_eq_ok_iff.mp hmore
  obtain ⟨hlua, hidles⟩ := mapKeys_eq_ok hmap
  cases hok
  have hnone : st₁.waiting = [] := by
    rw [waiting, hidles]
    rfl
  rw [runAndWatchUserConfig_waiting hrun, hnone, hlua]
  rfl

/-! ## One turn -/

theorem displayMessages_sendOn {message : DisplayMessage} (hp : peers.module .display = true)
    (h : sendOn peers (.display message) = .ok effects) :
    Display.displayMessages effects = [message] := by
  simp only [sendOn, Comms.send, Envelope.module, hp, if_true] at h
  cases h
  rfl

theorem displayMessages_sendOn_other {e : Envelope} (he : e.module ≠ some .display)
    (h : sendOn peers e = .ok effects) : Display.displayMessages effects = [] := by
  refine List.eq_nil_iff_forall_not_mem.mpr fun message hmem => ?_
  rw [mem_displayMessages_sendOn h hmem] at he
  exact he rfl

/-- The loop sends the command of the action that it takes. -/
theorem Unaware.exec_command {idle : Idle M} (h : st.Unaware)
    (hp : peers.module .display = true)
    (hexec : idle.exec overflowChecks peers st = .ok (st', effects)) :
    Display.displayMessages effects = idle.command.toList ∧ st'.waiting = st.waiting := by
  cases idle with
  | keymap keymap =>
      obtain ⟨cs, r, -, rfl, hsent⟩ := mapKey_eq_ok hexec
      exact ⟨displayMessages_sendOn_other (by simp [Envelope.module]) hsent, rfl⟩
  | onStartup callback =>
      obtain ⟨cs, r, -, rfl, rfl⟩ := Idle.exec_onStartup_eq_ok hexec
      exact ⟨rfl, rfl⟩
  | onConnectorChange callback =>
      obtain ⟨cs, r, -, rfl, rfl⟩ := Idle.exec_onConnectorChange_eq_ok hexec
      exact ⟨rfl, rfl⟩
  | spawn configSpawn =>
      cases hexec
      exact ⟨rfl, rfl⟩
  | setLayout layout =>
      obtain ⟨rfl, hsent⟩ := sendOn_bind_eq_ok hexec
      rw [h.outputs] at hsent
      exact ⟨displayMessages_sendOn hp hsent, rfl⟩
  | display message =>
      obtain ⟨rfl, hsent⟩ := sendOn_bind_eq_ok hexec
      exact ⟨displayMessages_sendOn hp hsent, rfl⟩
  | main message =>
      obtain ⟨rfl, hsent⟩ := sendOn_bind_eq_ok hexec
      exact ⟨displayMessages_sendOn_other (by simp [Envelope.module]) hsent, rfl⟩

/-- A turn sends what has waited longest or takes in what is asked for, and loses nothing. -/
theorem Unaware.turn_commands {turn : Turn} (h : st.Unaware)
    (hp : peers.module .display = true) (hsent : Display.Desk.Sent turn)
    (hturn : st.turn I overflowChecks peers turn = .ok (st', effects, result)) :
    Display.displayMessages effects ++ st'.waiting = st.waiting ++ st.asks I turn := by
  cases turn with
  | message message =>
      rw [(h.handleMessage hsent hturn).2, List.nil_append]
      cases message with
      | connectorChange => exact hsent.elim
      | runCallback callbackRef =>
          obtain ⟨p, hrun, hok⟩ := bind_eq_ok_iff.mp hturn
          cases hok
          exact runCallback_waiting hrun
      | startup =>
          simp only [ConfigState.turn, ConfigState.handleMessage] at hturn
          unfold asks enters
          split at hturn
          next hnone =>
            cases hturn
            rw [hnone]
            exact (List.append_nil _).symm
          next callbackRef hsome =>
            obtain ⟨p, hrun, hok⟩ := bind_eq_ok_iff.mp hturn
            cases hok
            rw [hsome]
            exact runCallback_waiting hrun
      | shutdown | forgetCallback | extraEnv | spawn =>
          cases hturn
          exact (List.append_nil _).symm
  | idle =>
      simp only [ConfigState.turn] at hturn
      show _ = st.waiting ++ []
      rw [List.append_nil]
      split at hturn
      next => cases hturn; rfl
      next idle idles hidles =>
        obtain ⟨p, hexec, hok⟩ := bind_eq_ok_iff.mp hturn
        cases hok
        have hall := h.idles
        rw [hidles, List.forall_mem_cons] at hall
        have hrest : ({ st with idles := idles } : ConfigState M).Unaware :=
          ⟨h.outputs, hall.2⟩
        obtain ⟨hmessages, hwaiting⟩ := hrest.exec_command hp hexec
        rw [hmessages, hwaiting, waiting, waiting, hidles]
        cases hcommand : idle.command <;> simp [hcommand]
  | fileChanged read =>
      simp only [ConfigState.turn] at hturn
      simp only [asks, enters]
      split at hturn
      next hwatching =>
        obtain ⟨st₁, hchanged, hok⟩ := bind_eq_ok_iff.mp hturn
        cases hok
        rw [if_pos hwatching]
        cases read with
        | none => cases hchanged
        | some content => exact configChanged_waiting hchanged
      next hwatching =>
        cases hturn
        rw [if_neg hwatching]
        exact (List.append_nil _).symm

end ConfigState

end Scape.Config

namespace Scape.Display

open Scape.Config (ConfigState Interpreter IsCommand Mlua)

namespace Desk

variable {M : Mlua} {I : Interpreter M} {overflowChecks : Bool} {s t start : Desk M}
  {action : DeskAction} {trace : List (Desk M × DeskAction)}

/-! ## The two threads -/

/-- The runs of the two threads from a state on. -/
def systemFrom (I : Interpreter M) (overflowChecks : Bool) (start : Desk M) :
    Machine.System (Desk M) DeskAction := (system I overflowChecks).onwards start

/-- The display thread is there, and other threads send it no commands. -/
def Served (_ : Desk M) : DeskAction → Prop
  | .turn peers _ => peers.module .display = true
  | .toDisplay message => IsCommand message = false
  | _ => True

/-- The commands that Lua asks for in a step. -/
def asks (I : Interpreter M) (s : Desk M) : DeskAction → List DisplayMessage
  | .turn _ turn => s.config.asks I turn
  | _ => []

/-- The command that the display thread handles in a step. -/
def handles (s : Desk M) : DeskAction → List DisplayMessage
  | .message _ => s.toDisplay.head?.toList.filter IsCommand
  | _ => []

/-- The commands that are on their way, those sent first. -/
def underway (s : Desk M) : List DisplayMessage :=
  s.toDisplay.filter IsCommand ++ s.config.waiting

theorem Blank.waiting_isCommand (h : s.Blank) :
    ∀ message ∈ s.config.waiting, IsCommand message = true := by
  intro message hmem
  obtain ⟨idle, hidle, hcommand⟩ := List.mem_filterMap.mp hmem
  exact (h.config.idles idle hidle).isCommand hcommand

/-- A step hands the first command on, or adds those that are asked for at the end. -/
theorem Blank.step_commands (h : s.Blank) (hserved : Served s action)
    (hstep : Step I overflowChecks s action t) :
    s.handles action ++ t.underway = s.underway ++ s.asks I action := by
  cases hstep with
  | @turn peers turn config effects result hsent hturn =>
      have hturned := h.config.turn_commands hserved hsent hturn
      have hfilter : (displayMessages effects).filter IsCommand =
          displayMessages effects := by
        refine List.filter_eq_self.mpr fun message hmem => ?_
        have hall : message ∈ s.config.waiting ++ s.config.asks I turn :=
          hturned ▸ List.mem_append_left _ hmem
        rcases List.mem_append.mp hall with hwaiting | hasks
        · exact h.waiting_isCommand message hwaiting
        · exact ConfigState.asks_isCommand message hasks
      show (s.toDisplay ++ displayMessages effects).filter IsCommand ++ config.waiting =
        s.toDisplay.filter IsCommand ++ s.config.waiting ++ s.config.asks I turn
      rw [List.filter_append, hfilter, List.append_assoc, hturned, List.append_assoc]
  | @toDisplay message hother =>
      have hnone : [message].filter IsCommand = [] :=
        List.filter_cons_of_neg (Bool.eq_false_iff.mp (by exact hserved))
      show (s.toDisplay ++ [message]).filter IsCommand ++ s.config.waiting =
        s.underway ++ []
      rw [List.filter_append, hnone, List.append_nil, List.append_nil]
      rfl
  | @message W message queue display hqueue hdisplay =>
      show s.toDisplay.head?.toList.filter IsCommand ++
        (queue.filter IsCommand ++ s.config.waiting) =
          s.toDisplay.filter IsCommand ++ s.config.waiting ++ []
      rw [hqueue, List.append_nil, ← List.append_assoc, ← List.filter_append]
      rfl
  | event hother hdisplay => exact (List.append_nil _).symm

/-- The commands asked for in a run, and those handled. -/
def asked (I : Interpreter M) (trace : List (Desk M × DeskAction)) : List DisplayMessage :=
  trace.flatMap fun p => p.1.asks I p.2

def handled (trace : List (Desk M × DeskAction)) : List DisplayMessage :=
  trace.flatMap fun p => p.1.handles p.2

/-- In every run, what has been handled and what is underway is what has been asked for: by
the files at the start, and by Lua in the turns since. -/
theorem commands_in_order {peers : Peers} {env : ConfigState.Surroundings}
    {sent : List Config.Effect}
    (hnew : ConfigState.new I overflowChecks peers env = .ok (start.config, sent))
    (hdisplay : start.display = .new) (hqueue : start.toDisplay = [])
    (h : Machine.Run (systemFrom I overflowChecks start) trace s)
    (hserved : ∀ p ∈ trace, Served p.1 p.2) :
    start.config.waiting = ConfigState.fileCommands I I.start env.files ∧
    handled trace ++ s.underway = start.config.waiting ++ asked I trace := by
  have hstart : Starts I overflowChecks start := ⟨peers, env, sent, hnew, hdisplay, hqueue⟩
  have hblank : ∀ u, Machine.ReachableUnder (systemFrom I overflowChecks start) Served u →
      u.Blank := fun u hu => by
    refine hu.invariant (fun v hv => ?_) fun v action w hv _ hstep => hv.step hstep
    rw [show v = start from hv]
    exact reachable_blank (.init hstart)
  refine ⟨ConfigState.new_waiting hnew, h.conserves (fun u hu => ?_)
    (fun u action t hu hok hstep => (hblank u hu).step_commands hok hstep) hserved⟩
  rw [show u = start from hu, underway, hqueue]
  rfl

/-- The layout of the configuration is asked for at the start, sent and handled. -/
theorem commands_in_order_layout :
    ∃ (start : Desk Config.plainLua) (trace : List (Desk Config.plainLua × DeskAction))
      (s : Desk Config.plainLua),
      Machine.Run (systemFrom (Config.plainInterpreter fun _ => layoutScript) true start)
        trace s ∧
      ((handled trace).length, s.underway) = (1, []) ∧
      handled trace = ConfigState.fileCommands (Config.plainInterpreter fun _ => layoutScript) ()
        Config.oneFile.files := by
  obtain ⟨config, sent, hnew⟩ : ∃ config sent, ConfigState.new
      (Config.plainInterpreter fun _ => layoutScript) true .all Config.oneFile =
        .ok (config, sent) := ⟨_, _, rfl⟩
  have h₀ : Machine.Run
      (systemFrom (Config.plainInterpreter fun _ => layoutScript) true ⟨config, .new, []⟩)
      [] ⟨config, .new, []⟩ := .init rfl
  have hnew' := hnew
  cases hnew'
  have h₁ := h₀.step (@Step.turn _ _ _ _ .all .idle _ _ _ trivial rfl)
  have h₂ := h₁.step (.message (W := .quiet) rfl rfl)
  obtain ⟨hfiles, horder⟩ := commands_in_order hnew rfl rfl h₂ (List.forall_mem_append.mpr
    ⟨List.forall_mem_singleton.mpr rfl, List.forall_mem_singleton.mpr trivial⟩)
  refine ⟨_, _, _, h₂, rfl, ?_⟩
  have hall : handled _ ++ [] = _ ++ [] := horder
  rw [List.append_nil, List.append_nil] at hall
  exact hall.trans hfiles

end Desk

end Scape.Display
