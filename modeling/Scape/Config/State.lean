import Scape.Config.Callback

/-!
# The config thread

`ConfigState`, and everything the config thread's loop does to it: messages,
changed files, the idle actions Lua code queued, and the start-up before the
loop. Each of these answers the new state and what it did to the outside, or the
place where it panicked. An error of a message is a third thing: the state it
leaves stays in force, and the loop logs it.

`on_startup` and `on_connector_change` are the two hooks the user can set. The
first gives the old callback back before it takes a new one; the second does
not.
-/

namespace Scape.Config

open Scape
open Fallible (bind_eq_ok_iff)

structure ConfigState (M : Mlua) where
  shuttingDown : Bool
  lua : M.State
  callbackState : CallbackState M
  onStartup : Option CallbackRef
  onConnectorChange : Option CallbackRef
  outputs : HashMap String Output
  extraEnv : HashMap String String
  /-- the idle actions the loop handle holds, oldest first -/
  idles : List (Idle M)
  /-- whether the file watcher is one of the loop's sources -/
  watching : Bool

inductive Effect where
  | send (e : Envelope)
  | spawn (command : String) (args : List String) (env : HashMap String String)

variable {M : Mlua}

/-- A send, which panics only if the main thread is needed and gone. -/
def sendOn (peers : Peers) (e : Envelope) : Except Panic (List Effect) :=
  match Comms.send peers e with
  | some e => .ok [.send e]
  | none => .error .lostMain

/-- `ConfigOutput::from`. -/
def ConfigOutput.ofOutput (output : Output) : Except Panic ConfigOutput :=
  match output.preferredMode with
  | none => .error .preferredMode
  | some mode => .ok ⟨output.name, output.x, output.y, mode.width, mode.height⟩

namespace ConfigState

def fresh (I : Interpreter M) : ConfigState M where
  shuttingDown := false
  lua := I.start
  callbackState := .new
  onStartup := none
  onConnectorChange := none
  outputs := ∅
  extraEnv := ∅
  idles := []
  watching := false

def afterLua (st : ConfigState M) (run : LuaRun M) : ConfigState M :=
  { st with lua := run.lua, idles := st.idles ++ run.idles }

def register (overflowChecks : Bool) (st : ConfigState M) (callback : M.Function) :
    Except Panic (ConfigState M × CallbackRef) :=
  match st.callbackState.registerCallback overflowChecks callback with
  | none => .error .callbackCounter
  | some (callbackState, callbackRef) =>
      .ok ({ st with callbackState := callbackState }, callbackRef)

def forget (st : ConfigState M) (callbackRef : CallbackRef) : ConfigState M :=
  { st with callbackState := st.callbackState.forgetCallback callbackRef }

def runCallback (I : Interpreter M) (st : ConfigState M) (callbackRef : CallbackRef)
    (outputs : Option (List ConfigOutput)) :
    Except Panic (ConfigState M × Except (ConfigError M) Unit) := do
  let (run, result) ← st.callbackState.runCallback I st.lua callbackRef outputs
  return (st.afterLua run, result)

/-! ## Idle actions -/

/-- The action of `map_key`, and one round of the loop in
`set_default_keymaps`: register, then send. -/
def mapKey (overflowChecks : Bool) (peers : Peers) (st : ConfigState M)
    (keymap : ConfigKeymap M) : Except Panic (ConfigState M × List Effect) := do
  let (st, callbackRef) ← st.register overflowChecks keymap.callback
  let sent ← sendOn peers (.input (.keymap keymap.key keymap.mods callbackRef))
  return (st, sent)

/-- The outputs of a layout that exist, each moved to where the layout has it.
The others are logged. -/
def layoutSpaces (outputs : HashMap String Output) (layout : ConfigLayout) :
    HashMap String (List Output) :=
  HashMap.collect (layout.spaces.entries.map fun space =>
    (space.1, space.2.filterMap fun configOutput =>
      (outputs.lookup configOutput.name).map fun output =>
        output.setLocation configOutput.x configOutput.y))

end ConfigState

def Idle.exec (overflowChecks : Bool) (peers : Peers) (st : ConfigState M) :
    Idle M → Except Panic (ConfigState M × List Effect)
  | .keymap configKeymap => st.mapKey overflowChecks peers configKeymap
  | .onStartup callback => do
      let st := st.onStartup.elim st st.forget
      let (st, callbackRef) ← st.register overflowChecks callback
      return ({ st with onStartup := some callbackRef }, [])
  | .onConnectorChange callback => do
      let (st, callbackRef) ← st.register overflowChecks callback
      return ({ st with onConnectorChange := some callbackRef }, [])
  | .setLayout configLayout => do
      let spaces := ConfigState.layoutSpaces st.outputs configLayout
      return (st, ← sendOn peers (.display (.setLayout spaces)))
  | .spawn configSpawn =>
      .ok (st, [.spawn configSpawn.command configSpawn.args st.extraEnv])
  | .display message => do return (st, ← sendOn peers (.display message))
  | .main message => do return (st, ← sendOn peers (.main message))

namespace ConfigState

/-! ## Messages -/

/-- `ConfigState::on_connector_change`. The outputs are converted before the
callback is looked up. -/
def runOnConnectorChange (I : Interpreter M) (st : ConfigState M) :
    Except Panic (ConfigState M × Except (ConfigError M) Unit) :=
  match st.onConnectorChange with
  | none => .ok (st, .ok ())
  | some callbackRef => do
      let outputs ← (HashMap.values st.outputs).mapM ConfigOutput.ofOutput
      st.runCallback I callbackRef (some outputs)

def indexOutputs (outputs : List Output) : HashMap String Output :=
  HashMap.collect (outputs.map fun output => (output.name, output))

/-- `ConfigState::handle_message`, and the program it starts. -/
def handleMessage (I : Interpreter M) (st : ConfigState M) :
    ConfigMessage → Except Panic (ConfigState M × List Effect × Except (ConfigError M) Unit)
  | .shutdown => .ok ({ st with shuttingDown := true }, [], .ok ())
  | .runCallback callbackRef => do
      let (st, result) ← st.runCallback I callbackRef none
      return (st, [], result)
  | .forgetCallback callbackRef => .ok (st.forget callbackRef, [], .ok ())
  | .startup =>
      match st.onStartup with
      | none => .ok (st, [], .ok ())
      | some onStartup => do
          let (st, result) ← st.runCallback I onStartup none
          return (st, [], result)
  | .connectorChange outputs => do
      let (st, result) ← runOnConnectorChange I { st with outputs := indexOutputs outputs }
      return (st, [], result)
  | .extraEnv name value =>
      .ok ({ st with extraEnv := st.extraEnv.insert name value }, [], .ok ())
  | .spawn command args => .ok (st, [.spawn command args st.extraEnv], .ok ())

/-! ## Configuration files -/

/-- `lua.load(..).exec()`. -/
def execConfig (I : Interpreter M) (st : ConfigState M) (content : List UInt8) :
    Except Panic (ConfigState M × Except (ConfigError M) Unit) := do
  let run ← (I.enter st.lua (.chunk content)).eval
  return (st.afterLua run, run.result.mapError .runConfig)

/-- The callback of the file watcher: both results are unwrapped. `read` is what
`fs::read` gives for the path. -/
def configChanged (I : Interpreter M) (st : ConfigState M) (read : Option (List UInt8)) :
    Except Panic (ConfigState M) :=
  match read with
  | none => .error .readConfig
  | some content => do
      match ← st.execConfig I content with
      | (st, .ok ()) => return st
      | (_, .error _) => throw .execConfig

/-! ## Start-up -/

def defaultKeymaps : List (ConfigKeymap M) :=
  let mods : Mods := { ctrl := true, alt := true }
  ⟨"backspace", mods, M.createFunction .shutdown⟩ ::
    ([("f1", 1), ("f2", 2), ("f3", 3), ("f4", 4), ("f5", 5), ("f6", 6), ("f7", 7),
      ("f8", 8), ("f9", 9), ("f10", 10), ("f11", 11), ("f12", 12)].map
        fun keymap => ⟨keymap.1, mods, M.createFunction (.vtSwitch keymap.2)⟩)

/-- What start-up finds: whether Lua created the functions of the default
keymaps, the file named on the command line, the files in the XDG directories if
these can be determined, and whether the watcher comes up. Of a file it finds
what reading it gives. -/
structure Surroundings where
  functionsCreated : Bool
  config : Option (Option (List UInt8))
  configFiles : Option (List (Option (List UInt8)))
  watcherCreated : Bool
  sourceInserted : Bool

/-- The loop of `set_default_keymaps`. -/
def mapKeys (overflowChecks : Bool) (peers : Peers) (st : ConfigState M) :
    List (ConfigKeymap M) → Except Panic (ConfigState M × List Effect)
  | [] => .ok (st, [])
  | keymap :: keymaps => do
      let (st, sent) ← st.mapKey overflowChecks peers keymap
      let (st, sent') ← st.mapKeys overflowChecks peers keymaps
      return (st, sent ++ sent')

/-- Files are run in order up to the first that cannot be read or fails. -/
def execConfigs (I : Interpreter M) (st : ConfigState M) :
    List (Option (List UInt8)) → Except Panic (ConfigState M × Except (ConfigError M) Unit)
  | [] => .ok (st, .ok ())
  | none :: _ => .ok (st, .error .readConfig)
  | some content :: files => do
      match ← st.execConfig I content with
      | (st, .ok ()) => st.execConfigs I files
      | (st, .error e) => return (st, .error e)

def runAndWatchUserConfig (I : Interpreter M) (env : Surroundings) (st : ConfigState M) :
    Except Panic (ConfigState M × Except (ConfigError M) Unit) :=
  match env.config with
  | some read => st.execConfigs I [read]
  | none =>
      match env.configFiles with
      | none => .error .baseDirectories
      | some files => do
          match ← st.execConfigs I files with
          | (st, .error e) => return (st, .error e)
          | (st, .ok ()) =>
              if env.watcherCreated = false then throw .recommendedWatcher
              else if env.sourceInserted = false then throw .insertSource
              else return ({ st with watching := true }, .ok ())

/-- `ConfigState::new`: the default keymaps if their functions could be created,
then the user's configuration, whose error is logged. -/
def new (I : Interpreter M) (overflowChecks : Bool) (peers : Peers) (env : Surroundings) :
    Except Panic (ConfigState M × List Effect) := do
  let (st, sent) ← (fresh I).mapKeys overflowChecks peers
    (if env.functionsCreated then defaultKeymaps else [])
  let (st, _) ← st.runAndWatchUserConfig I env
  return (st, sent)

/-! ## What the loop does -/

inductive Turn where
  | message (message : ConfigMessage)
  | idle
  | fileChanged (read : Option (List UInt8))

/-- One turn of the loop. With no action queued, or no watcher, the turn for it
is not taken. -/
def turn (I : Interpreter M) (overflowChecks : Bool) (peers : Peers) (st : ConfigState M) :
    Turn → Except Panic (ConfigState M × List Effect × Except (ConfigError M) Unit)
  | .message message => st.handleMessage I message
  | .fileChanged read =>
      if st.watching then do return (← st.configChanged I read, [], .ok ())
      else .ok (st, [], .ok ())
  | .idle =>
      match st.idles with
      | [] => .ok (st, [], .ok ())
      | idle :: idles => do
          let (st, effects) ← idle.exec overflowChecks peers { st with idles := idles }
          return (st, effects, .ok ())

/-- The loop over the turns it takes. The error of a message is logged. -/
def serve (I : Interpreter M) (overflowChecks : Bool) (st : ConfigState M) :
    List (Peers × Turn) → Except Panic (ConfigState M)
  | [] => .ok st
  | (peers, turn) :: turns => do
      let (st, _, _) ← st.turn I overflowChecks peers turn
      st.serve I overflowChecks turns

def thread (I : Interpreter M) (overflowChecks : Bool) (peers : Peers)
    (env : Surroundings) (turns : List (Peers × Turn)) : Except Panic (ConfigState M) := do
  let (st, _) ← new I overflowChecks peers env
  st.serve I overflowChecks turns

end ConfigState

def inputMessages (effects : List Effect) : List InputMessage :=
  effects.filterMap fun
    | .send (.input message) => some message
    | _ => none

/-! ## What each step can do to the callbacks

The callbacks live in three fields: the table, and the two hooks. Everything
below is about those, so each lemma says what happens to the three and leaves
the rest of the state alone. -/

def ConfigState.SameCallbacks (st st' : ConfigState M) : Prop :=
  st'.callbackState = st.callbackState ∧ st'.onStartup = st.onStartup ∧
  st'.onConnectorChange = st.onConnectorChange

def Idle.callback : Idle M → Option M.Function
  | .keymap configKeymap => some configKeymap.callback
  | .onStartup callback => some callback
  | .onConnectorChange callback => some callback
  | _ => none

namespace ConfigState

variable {I : Interpreter M} {overflowChecks : Bool} {peers : Peers}
  {st st' : ConfigState M} {effects : List Effect}

theorem register_eq_ok {callback : M.Function} {callbackRef : CallbackRef}
    (h : st.register overflowChecks callback = .ok (st', callbackRef)) :
    ∃ cs, st.callbackState.registerCallback overflowChecks callback =
        some (cs, callbackRef) ∧ st' = { st with callbackState := cs } := by
  unfold register at h
  split at h
  next => cases h
  next cs r hr =>
    cases h
    exact ⟨cs, hr, rfl⟩

theorem mapKey_eq_ok {keymap : ConfigKeymap M}
    (h : st.mapKey overflowChecks peers keymap = .ok (st', effects)) :
    ∃ cs callbackRef,
      st.callbackState.registerCallback overflowChecks keymap.callback =
        some (cs, callbackRef) ∧
      st' = { st with callbackState := cs } ∧
      sendOn peers (.input (.keymap keymap.key keymap.mods callbackRef)) = .ok effects := by
  obtain ⟨⟨st₁, r⟩, hr, hrest⟩ := bind_eq_ok_iff.mp h
  obtain ⟨sent, hsent, hok⟩ := bind_eq_ok_iff.mp hrest
  obtain ⟨cs, hcs, rfl⟩ := register_eq_ok hr
  cases hok
  exact ⟨cs, r, hcs, rfl, hsent⟩

theorem runCallback_eq_ok {callbackRef : CallbackRef}
    {outputs : Option (List ConfigOutput)} {result : Except (ConfigError M) Unit}
    (h : st.runCallback I callbackRef outputs = .ok (st', result)) :
    st.SameCallbacks st' ∧
    (∀ r, result = .error (.unknownCallback r) →
      callbackRef ∉ st.callbackState.live) := by
  obtain ⟨⟨run, result'⟩, hr, hok⟩ := bind_eq_ok_iff.mp h
  cases hok
  refine ⟨⟨rfl, rfl, rfl⟩, fun r hres => ?_⟩
  rw [hres] at hr
  exact CallbackState.runCallback_unknown hr

/-- What a file does is what its code does. -/
theorem execConfig_run {content : List UInt8} {result : Except (ConfigError M) Unit}
    (h : st.execConfig I content = .ok (st', result)) :
    ∃ run, (I.enter st.lua (.chunk content)).eval = .ok run ∧ st' = st.afterLua run ∧
      result = run.result.mapError .runConfig := by
  obtain ⟨run, hrun, hok⟩ := bind_eq_ok_iff.mp h
  cases hok
  exact ⟨run, hrun, rfl, rfl⟩

theorem execConfig_eq_ok {content : List UInt8} {result : Except (ConfigError M) Unit}
    (h : st.execConfig I content = .ok (st', result)) : st.SameCallbacks st' := by
  obtain ⟨run, -, rfl, -⟩ := execConfig_run h
  exact ⟨rfl, rfl, rfl⟩

theorem configChanged_eq_ok {read : Option (List UInt8)}
    (h : st.configChanged I read = .ok st') : st.SameCallbacks st' := by
  unfold configChanged at h
  split at h
  next => cases h
  next content =>
    obtain ⟨⟨st₁, result⟩, hr, hok⟩ := bind_eq_ok_iff.mp h
    cases result with
    | error e => cases hok
    | ok _ =>
        cases hok
        exact execConfig_eq_ok hr

/-- The callback a message has the thread run. -/
def runs (st : ConfigState M) : ConfigMessage → Option CallbackRef
  | .runCallback callbackRef => some callbackRef
  | .startup => st.onStartup
  | .connectorChange _ => st.onConnectorChange
  | _ => none

theorem runOnConnectorChange_eq_ok {result : Except (ConfigError M) Unit}
    (h : st.runOnConnectorChange I = .ok (st', result)) :
    st.SameCallbacks st' ∧
    (∀ r, result = .error (.unknownCallback r) →
      ∃ r', st.onConnectorChange = some r' ∧ r' ∉ st.callbackState.live) := by
  unfold runOnConnectorChange at h
  split at h
  next => cases h; exact ⟨⟨rfl, rfl, rfl⟩, fun r hr => by cases hr⟩
  next callbackRef href =>
    obtain ⟨outputs, -, hrun⟩ := bind_eq_ok_iff.mp h
    obtain ⟨hsame, hunknown⟩ := runCallback_eq_ok hrun
    exact ⟨hsame, fun r hr => ⟨callbackRef, href, hunknown r hr⟩⟩

/-- A message sends nothing to the input thread, and only `ForgetCallback`
touches the callbacks. An unknown reference is reported only for the callback
the message runs. -/
theorem handleMessage_eq_ok {message : ConfigMessage}
    {result : Except (ConfigError M) Unit}
    (h : st.handleMessage I message = .ok (st', effects, result)) :
    inputMessages effects = [] ∧
    (match message with
      | .forgetCallback callbackRef => st' = st.forget callbackRef
      | _ => st.SameCallbacks st') ∧
    (∀ r, result = .error (.unknownCallback r) →
      ∃ r', st.runs message = some r' ∧ r' ∉ st.callbackState.live) := by
  cases message with
  | runCallback callbackRef =>
      simp only [handleMessage] at h
      obtain ⟨p, hr, hok⟩ := bind_eq_ok_iff.mp h
      cases hok
      obtain ⟨hsame, hunknown⟩ := runCallback_eq_ok hr
      exact ⟨rfl, hsame, fun r hres => ⟨callbackRef, rfl, hunknown r hres⟩⟩
  | startup =>
      simp only [handleMessage] at h
      split at h
      next => cases h; exact ⟨rfl, ⟨rfl, rfl, rfl⟩, fun r hr => by cases hr⟩
      next onStartup hstart =>
        obtain ⟨p, hr, hok⟩ := bind_eq_ok_iff.mp h
        cases hok
        obtain ⟨hsame, hunknown⟩ := runCallback_eq_ok hr
        exact ⟨rfl, hsame, fun r hres => ⟨onStartup, hstart, hunknown r hres⟩⟩
  | connectorChange outputs =>
      simp only [handleMessage] at h
      obtain ⟨p, hr, hok⟩ := bind_eq_ok_iff.mp h
      cases hok
      obtain ⟨hsame, hunknown⟩ := runOnConnectorChange_eq_ok hr
      exact ⟨rfl, hsame, hunknown⟩
  | forgetCallback callbackRef =>
      cases h
      exact ⟨rfl, rfl, fun r hr => by cases hr⟩
  | shutdown | extraEnv | spawn =>
      cases h
      exact ⟨rfl, ⟨rfl, rfl, rfl⟩, fun r hr => by cases hr⟩

end ConfigState

section Idle

variable {overflowChecks : Bool} {peers : Peers} {st st' : ConfigState M}
  {effects : List Effect}

theorem inputMessages_sendOn_input {message : InputMessage}
    (hp : peers.module .input = true)
    (h : sendOn peers (.input message) = .ok effects) :
    inputMessages effects = [message] := by
  simp only [sendOn, Comms.send, Envelope.module, hp, if_true] at h
  cases h
  rfl

/-- A message for the display or for the main thread leaves none for the input
thread, whatever became of it. -/
theorem inputMessages_sendOn {e : Envelope} (he : e.module ≠ some .input)
    (h : sendOn peers e = .ok effects) : inputMessages effects = [] := by
  unfold sendOn at h
  split at h
  next e' he' =>
    cases h
    unfold Comms.send at he'
    cases e with
    | input message => exact absurd rfl he
    | main message | display message | renderer message | config message =>
        simp only [Envelope.module] at he'
        grind [inputMessages]
  next => cases h

/-- An action that only sends leaves the state alone. -/
theorem sendOn_bind_eq_ok {e : Envelope}
    (h : (sendOn peers e >>= fun sent => pure (st, sent)) = .ok (st', effects)) :
    st' = st ∧ sendOn peers e = .ok effects := by
  obtain ⟨sent, hsent, hok⟩ := bind_eq_ok_iff.mp h
  cases hok
  exact ⟨rfl, hsent⟩

theorem Idle.exec_onStartup_eq_ok {callback : M.Function}
    (h : (Idle.onStartup callback).exec overflowChecks peers st = .ok (st', effects)) :
    ∃ cs r, (st.onStartup.elim st st.forget).callbackState.registerCallback overflowChecks
        callback = some (cs, r) ∧
      st' = { st with callbackState := cs, onStartup := some r } ∧ effects = [] := by
  obtain ⟨⟨st₁, r⟩, hr, hok⟩ := bind_eq_ok_iff.mp h
  obtain ⟨cs, hcs, rfl⟩ := ConfigState.register_eq_ok hr
  cases hok
  refine ⟨cs, r, hcs, ?_, rfl⟩
  cases st.onStartup <;> rfl

theorem Idle.exec_onConnectorChange_eq_ok {callback : M.Function}
    (h : (Idle.onConnectorChange callback).exec overflowChecks peers st = .ok (st', effects)) :
    ∃ cs r, st.callbackState.registerCallback overflowChecks callback = some (cs, r) ∧
      st' = { st with callbackState := cs, onConnectorChange := some r } ∧ effects = [] := by
  obtain ⟨⟨st₁, r⟩, hr, hok⟩ := bind_eq_ok_iff.mp h
  obtain ⟨cs, hcs, rfl⟩ := ConfigState.register_eq_ok hr
  cases hok
  exact ⟨cs, r, hcs, rfl, rfl⟩

/-- The four things an action can do to the callbacks. -/
theorem Idle.exec_cases {idle : Idle M} (hp : peers.module .input = true)
    (h : idle.exec overflowChecks peers st = .ok (st', effects)) :
    (idle.callback = none ∧ st.SameCallbacks st' ∧ inputMessages effects = []) ∨
    (∃ keymap cs r, idle = .keymap keymap ∧
      st.callbackState.registerCallback overflowChecks keymap.callback = some (cs, r) ∧
      st' = { st with callbackState := cs } ∧
      inputMessages effects = [.keymap keymap.key keymap.mods r]) ∨
    (∃ callback cs r, idle = .onStartup callback ∧
      (st.onStartup.elim st st.forget).callbackState.registerCallback overflowChecks
        callback = some (cs, r) ∧
      st' = { st with callbackState := cs, onStartup := some r } ∧
      inputMessages effects = []) ∨
    (∃ callback cs r, idle = .onConnectorChange callback ∧
      st.callbackState.registerCallback overflowChecks callback = some (cs, r) ∧
      st' = { st with callbackState := cs, onConnectorChange := some r } ∧
      inputMessages effects = []) := by
  cases idle with
  | keymap keymap =>
      obtain ⟨cs, r, hcs, rfl, hsent⟩ := ConfigState.mapKey_eq_ok h
      exact .inr (.inl ⟨keymap, cs, r, rfl, hcs, rfl, inputMessages_sendOn_input hp hsent⟩)
  | onStartup callback =>
      obtain ⟨cs, r, hcs, rfl, rfl⟩ := exec_onStartup_eq_ok h
      exact .inr (.inr (.inl ⟨callback, cs, r, rfl, hcs, rfl, rfl⟩))
  | onConnectorChange callback =>
      obtain ⟨cs, r, hcs, rfl, rfl⟩ := exec_onConnectorChange_eq_ok h
      exact .inr (.inr (.inr ⟨callback, cs, r, rfl, hcs, rfl, rfl⟩))
  | spawn configSpawn =>
      cases h
      exact .inl ⟨rfl, ⟨rfl, rfl, rfl⟩, rfl⟩
  | setLayout | display | main =>
      obtain ⟨rfl, hsent⟩ := sendOn_bind_eq_ok h
      exact .inl ⟨rfl, ⟨rfl, rfl, rfl⟩,
        inputMessages_sendOn (by simp [Envelope.module]) hsent⟩

end Idle

end Scape.Config
