import Scape.Config.State

/-!
# What the config thread survives

An error of the user's configuration should cost the user that configuration and
nothing else: it is reported, and the loop goes on. The code has seven places
where it unwraps instead, and an addition that may overflow. This file finds out
which inputs reach them.

The conditions are collected from the bottom up: for a piece of Lua code, for an
idle action, for a message, for a changed file, for the start. Each is about the
input and the state it meets, and each is shown to be exactly what keeps that
part from panicking. `thread_survives_iff` is the same for the whole life of the
thread.
-/

namespace Scape.Config

open Scape
open Fallible (bind_eq_ok_iff)

/-- No panic on the way. -/
def Survives {α : Type} (r : Except Panic α) : Prop := ∃ a, r = .ok a

@[simp] theorem survives_ok {α : Type} (a : α) : Survives (.ok a : Except Panic α) :=
  ⟨a, rfl⟩

@[simp] theorem survives_pure {α : Type} (a : α) : Survives (pure a : Except Panic α) :=
  ⟨a, rfl⟩

@[simp] theorem not_survives_error {α : Type} (site : Panic) :
    ¬ Survives (.error site : Except Panic α) := fun ⟨_, h⟩ => by cases h

theorem survives_bind {α β : Type} {x : Except Panic α} {f : α → Except Panic β} :
    Survives (x >>= f) ↔ Survives x ∧ ∀ a, x = .ok a → Survives (f a) := by
  cases x with
  | error site => simp [bind, Except.bind]
  | ok a => simp [bind, Except.bind]

theorem survives_bind_pure {α β : Type} {x : Except Panic α} {f : α → β} :
    Survives (x >>= fun a => pure (f a)) ↔ Survives x := by
  simp only [survives_bind, survives_pure, implies_true, and_true]

variable {M : Mlua} {I : Interpreter M} {overflowChecks : Bool} {peers : Peers}
  {st : ConfigState M}

/-! ## Lua code -/

theorem mapError_ne_panic {α : Type} {x : Except M.Error α} {site : Panic} :
    x.mapError Failure.error ≠ .error (.panic site) := by
  cases x <;> simp [Except.mapError]

theorem map_eq_error_iff {ε α β : Type} {x : Except ε α} {f : α → β} {e : ε} :
    x.map f = .error e ↔ x = .error e := by
  cases x <;> simp [Except.map]

theorem map_eq_ok_iff {ε α β : Type} {x : Except ε α} {f : α → β} {b : β} :
    x.map f = .ok b ↔ ∃ a, x = .ok a ∧ f a = b := by
  cases x <;> simp [Except.map]

/-- Only `map_key` can panic on its arguments, and only on one that is no
table. -/
theorem Api.idle_panic_iff (api : Api) (args : List M.Value) :
    (∃ site, api.idle args = .error (.panic site)) ↔
      api = .mapKey ∧ M.asTable (arg args 0) = none := by
  cases api with
  | mapKey =>
      simp only [idle, ConfigKeymap.fromLua, map_eq_error_iff, true_and]
      cases M.asTable (arg args 0) with
      | none => simp
      | some table => simp [mapError_ne_panic]
  | onStartup | onConnectorChange | setLayout | spawn =>
      simp [idle, map_eq_error_iff, mapError_ne_panic]
  | focusOrSpawn | setZones | moveCurrentWindowToZone | addWindowRule =>
      simp [idle, mapError_ne_panic]
  | toggleDebugUi | quit | shutdown | startVideoStream | closeCurrentWindow | vtSwitch =>
      simp [idle]

/-- What a call tells the script, if it does not panic. -/
def Api.answer (args : List M.Value) (api : Api) : Except M.Error Unit :=
  match api.idle args with
  | .error (.error e) => .error e
  | _ => .ok ()

namespace Script

/-- Every `map_key` the script gets to is given a table. -/
def Tame : Script M → Prop
  | .done _ => True
  | .error _ _ => True
  | .call api args k =>
      (api = .mapKey → M.asTable (arg args 0) ≠ none) ∧ (k (api.answer args)).Tame

def finish : Script M → M.State × Except M.Error Unit
  | .done lua => (lua, .ok ())
  | .error lua e => (lua, .error e)
  | .call api args k => (k (api.answer args)).finish

theorem survives_eval_iff (script : Script M) : Survives script.eval ↔ script.Tame := by
  induction script with
  | done lua => simp [eval, Tame]
  | error lua e => simp [eval, Tame]
  | call api args k ih =>
      have hpanic := Api.idle_panic_iff api args
      rw [eval, Tame]
      cases hidle : api.idle args with
      | ok idle =>
          have hno : ¬ (api = .mapKey ∧ M.asTable (arg args 0) = none) := by
            rw [← hpanic, hidle]
            simp
          have hmap : Survives ((k (.ok ())).eval.map (LuaRun.queue idle)) ↔
              Survives (k (.ok ())).eval := by
            cases (k (.ok ())).eval <;> simp [Except.map]
          simp only [Api.answer, hidle, hmap, ih]
          tauto
      | error failure =>
          cases failure with
          | error e =>
              have hno : ¬ (api = .mapKey ∧ M.asTable (arg args 0) = none) := by
                rw [← hpanic, hidle]
                simp
              simp only [Api.answer, hidle, ih]
              tauto
          | panic site =>
              have hyes := hpanic.mp ⟨site, hidle⟩
              simp only [not_survives_error, false_iff, not_and]
              exact fun h => absurd hyes.2 (h hyes.1)

/-- A call that does not panic queues at most one action, before all that the rest of
the script queues. -/
theorem eval_call_eq_ok {api : Api} {args : List M.Value}
    {k : Except M.Error Unit → Script M} {run : LuaRun M}
    (h : (Script.call api args k).eval = .ok run) :
    ∃ rest, (k (api.answer args)).eval = .ok rest ∧
      ((∃ idle, api.idle args = .ok idle ∧ run = rest.queue idle) ∨
        ((∀ idle, api.idle args ≠ .ok idle) ∧ run = rest)) := by
  rw [eval] at h
  unfold Api.answer
  cases hidle : api.idle args with
  | ok idle =>
      rw [hidle] at h
      obtain ⟨rest, hrest, hrun⟩ := map_eq_ok_iff.mp h
      exact ⟨rest, hrest, .inl ⟨idle, rfl, hrun.symm⟩⟩
  | error failure =>
      rw [hidle] at h
      cases failure with
      | error e => exact ⟨run, h, .inr ⟨nofun, rfl⟩⟩
      | panic site => cases h

theorem finish_of_eval {script : Script M} {run : LuaRun M} (h : script.eval = .ok run) :
    script.finish = (run.lua, run.result) := by
  induction script generalizing run with
  | done lua => cases h; rfl
  | error lua e => cases h; rfl
  | call api args k ih =>
      obtain ⟨rest, hrest, ⟨idle, -, rfl⟩ | ⟨-, rfl⟩⟩ := eval_call_eq_ok h
      all_goals
        have hfinish := ih _ hrest
        exact hfinish

end Script

/-! ## Sends, registrations and idle actions -/

/-- A send to the module, or to the main thread for `none`, has a receiver. -/
def Reaches (peers : Peers) (target : Option Module) : Prop :=
  peers.main = true ∨ ∃ m, target = some m ∧ peers.module m = true

/-- The build lets the counter wrap, or it need not. -/
def HasRoom (overflowChecks : Bool) (st : ConfigState M) : Prop :=
  overflowChecks = true → st.callbackState.callbackCounter < usizeMax

theorem survives_sendOn_iff {e : Envelope} :
    Survives (sendOn peers e) ↔ Reaches peers e.module := by
  have hnone : Comms.send peers e = none ↔
      peers.main = false ∧ ∀ m, e.module = some m → peers.module m = false :=
    Comms.send_eq_none_iff
  unfold sendOn Reaches
  cases hsend : Comms.send peers e with
  | some e' =>
      simp only [survives_ok, true_iff]
      by_contra hlost
      simp only [not_or, not_exists, not_and, Bool.not_eq_true] at hlost
      rw [hnone.mpr ⟨hlost.1, hlost.2⟩] at hsend
      cases hsend
  | none =>
      obtain ⟨hmain, hmodule⟩ := hnone.mp hsend
      simp only [not_survives_error, false_iff, hmain, Bool.false_eq_true, false_or,
        not_exists, not_and, Bool.not_eq_true]
      exact hmodule

theorem survives_register_iff (callback : M.Function) :
    Survives (st.register overflowChecks callback) ↔ HasRoom overflowChecks st := by
  have hnone : st.callbackState.registerCallback overflowChecks callback = none ↔
      overflowChecks = true ∧ usizeMax ≤ st.callbackState.callbackCounter :=
    CallbackState.registerCallback_eq_none_iff
  unfold ConfigState.register HasRoom
  cases hreg : st.callbackState.registerCallback overflowChecks callback with
  | none =>
      obtain ⟨hchecks, hfull⟩ := hnone.mp hreg
      simp only [not_survives_error, false_iff, hchecks, forall_const, not_lt]
      exact hfull
  | some p =>
      simp only [survives_ok, true_iff]
      intro hchecks
      by_contra hfull
      rw [hnone.mpr ⟨hchecks, by omega⟩] at hreg
      cases hreg

theorem survives_mapKey_iff {keymap : ConfigKeymap M} :
    Survives (st.mapKey overflowChecks peers keymap) ↔
      HasRoom overflowChecks st ∧ Reaches peers (some .input) := by
  unfold ConfigState.mapKey
  rw [survives_bind, survives_register_iff]
  refine and_congr_right fun hroom => ?_
  obtain ⟨p, hp⟩ := (survives_register_iff keymap.callback).mpr hroom
  constructor
  · intro h
    exact survives_sendOn_iff.mp (survives_bind_pure.mp (h p hp))
  · intro h p' _
    exact survives_bind_pure.mpr (survives_sendOn_iff.mpr h)

/-- What an idle action needs: room for a registration, a receiver for a
message. -/
def Idle.Safe (overflowChecks : Bool) (peers : Peers) (st : ConfigState M) : Idle M → Prop
  | .keymap _ => HasRoom overflowChecks st ∧ Reaches peers (some .input)
  | .onStartup _ => HasRoom overflowChecks st
  | .onConnectorChange _ => HasRoom overflowChecks st
  | .setLayout _ => Reaches peers (some .display)
  | .spawn _ => True
  | .display _ => Reaches peers (some .display)
  | .main _ => Reaches peers none

theorem survives_exec_iff {idle : Idle M} :
    Survives (idle.exec overflowChecks peers st) ↔ idle.Safe overflowChecks peers st := by
  cases idle with
  | keymap keymap => exact survives_mapKey_iff
  | onStartup callback =>
      rw [Idle.exec, survives_bind_pure, survives_register_iff, Idle.Safe]
      cases st.onStartup <;> rfl
  | onConnectorChange callback =>
      rw [Idle.exec, survives_bind_pure, survives_register_iff, Idle.Safe]
  | setLayout layout =>
      rw [Idle.exec, survives_bind_pure, survives_sendOn_iff, Idle.Safe]
      rfl
  | spawn spawn => simp [Idle.exec, Idle.Safe]
  | display message =>
      rw [Idle.exec, survives_bind_pure, survives_sendOn_iff, Idle.Safe]
      rfl
  | main message =>
      rw [Idle.exec, survives_bind_pure, survives_sendOn_iff, Idle.Safe]
      rfl

/-! ## Messages -/

/-- If the callback is registered, the Lua code it runs is tame. -/
def CallSafe (I : Interpreter M) (st : ConfigState M) (callbackRef : CallbackRef)
    (outputs : Option (List ConfigOutput)) : Prop :=
  ∀ callback, st.callbackState.callbacks.lookup callbackRef = some callback →
    (I.enter st.lua (.function callback outputs)).Tame

theorem survives_runCallback_iff {callbackRef : CallbackRef}
    {outputs : Option (List ConfigOutput)} :
    Survives (st.runCallback I callbackRef outputs) ↔
      CallSafe I st callbackRef outputs := by
  unfold ConfigState.runCallback CallbackState.runCallback CallSafe
  rw [survives_bind_pure]
  cases st.callbackState.callbacks.lookup callbackRef with
  | none => simp
  | some callback =>
      rw [survives_bind_pure, Script.survives_eval_iff]
      simp

def Output.config (output : Output) : ConfigOutput :=
  let mode := output.preferredMode.getD ⟨0, 0⟩
  ⟨output.name, output.x, output.y, mode.width, mode.height⟩

theorem ofOutput_eq_ok {output : Output} (h : output.preferredMode ≠ none) :
    ConfigOutput.ofOutput output = .ok (Output.config output) := by
  unfold ConfigOutput.ofOutput Output.config
  cases hmode : output.preferredMode with
  | none => exact absurd hmode h
  | some mode => rfl

theorem survives_ofOutput_iff {output : Output} :
    Survives (ConfigOutput.ofOutput output) ↔ output.preferredMode ≠ none := by
  unfold ConfigOutput.ofOutput
  cases output.preferredMode <;> simp

theorem mapM_ofOutput {outputs : List Output}
    (h : ∀ output ∈ outputs, output.preferredMode ≠ none) :
    outputs.mapM ConfigOutput.ofOutput = .ok (outputs.map Output.config) := by
  induction outputs with
  | nil => rfl
  | cons output outputs ih =>
      obtain ⟨hmode, hrest⟩ := List.forall_mem_cons.mp h
      rw [List.mapM_cons, ofOutput_eq_ok hmode, ih hrest]
      rfl

theorem survives_mapM_ofOutput_iff {outputs : List Output} :
    Survives (outputs.mapM ConfigOutput.ofOutput) ↔
      ∀ output ∈ outputs, output.preferredMode ≠ none := by
  refine ⟨fun h => ?_, fun h => mapM_ofOutput h ▸ survives_ok _⟩
  induction outputs with
  | nil => exact fun _ ho => nomatch ho
  | cons output outputs ih =>
      rw [List.mapM_cons, survives_bind] at h
      obtain ⟨houtput, hrest⟩ := h
      have hmode := survives_ofOutput_iff.mp houtput
      have houtputs := survives_bind_pure.mp (hrest _ (ofOutput_eq_ok hmode))
      exact List.forall_mem_cons.mpr ⟨hmode, ih houtputs⟩

def MessageSafe (I : Interpreter M) (st : ConfigState M) : ConfigMessage → Prop
  | .runCallback callbackRef => CallSafe I st callbackRef none
  | .startup => ∀ callbackRef, st.onStartup = some callbackRef →
      CallSafe I st callbackRef none
  | .connectorChange outputs => ∀ callbackRef, st.onConnectorChange = some callbackRef →
      let outputs := HashMap.values (ConfigState.indexOutputs outputs)
      (∀ output ∈ outputs, output.preferredMode ≠ none) ∧
      CallSafe I st callbackRef (some (outputs.map Output.config))
  | _ => True

theorem survives_handleMessage_iff {message : ConfigMessage} :
    Survives (st.handleMessage I message) ↔ MessageSafe I st message := by
  cases message with
  | runCallback callbackRef =>
      exact survives_bind_pure.trans survives_runCallback_iff
  | startup =>
      rw [ConfigState.handleMessage, MessageSafe]
      cases st.onStartup with
      | none => simp
      | some callbackRef =>
          simp only [Option.some.injEq, forall_eq']
          exact survives_bind_pure.trans survives_runCallback_iff
  | connectorChange outputs =>
      rw [ConfigState.handleMessage, MessageSafe]
      refine survives_bind_pure.trans ?_
      rw [ConfigState.runOnConnectorChange]
      cases hhook : st.onConnectorChange with
      | none => simp
      | some callbackRef =>
          simp only [Option.some.injEq, forall_eq']
          rw [survives_bind, survives_mapM_ofOutput_iff]
          refine and_congr_right fun hmodes => ?_
          rw [mapM_ofOutput hmodes]
          simp only [Except.ok.injEq, forall_eq']
          exact survives_runCallback_iff
  | shutdown | forgetCallback | extraEnv | spawn =>
      simp [ConfigState.handleMessage, MessageSafe]

/-! ## Files -/

/-- What running a file's content comes to. -/
def runsAs (I : Interpreter M) (lua : M.State) (content : List UInt8) : Script M :=
  I.enter lua (.chunk content)

theorem survives_execConfig_iff {content : List UInt8} :
    Survives (st.execConfig I content) ↔ (runsAs I st.lua content).Tame := by
  unfold ConfigState.execConfig
  rw [survives_bind_pure, Script.survives_eval_iff]
  rfl

theorem execConfig_finish {st' : ConfigState M} {content : List UInt8}
    {result : Except (ConfigError M) Unit}
    (h : st.execConfig I content = .ok (st', result)) :
    st'.lua = (runsAs I st.lua content).finish.1 ∧
    result = (runsAs I st.lua content).finish.2.mapError .runConfig := by
  obtain ⟨run, hrun, rfl, rfl⟩ := ConfigState.execConfig_run h
  rw [runsAs, Script.finish_of_eval hrun]
  exact ⟨rfl, rfl⟩

/-- What a changed file needs: it can be read, and its code is tame and ends
without an error. -/
def FileSafe (I : Interpreter M) (lua : M.State) (read : Option (List UInt8)) : Prop :=
  ∃ content, read = some content ∧ (runsAs I lua content).Tame ∧
    (runsAs I lua content).finish.2 = .ok ()

theorem mapError_eq_ok_iff {ε ε' α : Type} {x : Except ε α} {f : ε → ε'} {a : α} :
    x.mapError f = .ok a ↔ x = .ok a := by
  cases x <;> simp [Except.mapError]

theorem survives_configChanged_iff {read : Option (List UInt8)} :
    Survives (st.configChanged I read) ↔ FileSafe I st.lua read := by
  unfold ConfigState.configChanged FileSafe
  cases read with
  | none => simp
  | some content =>
      simp only [Option.some.injEq, exists_eq_left']
      rw [survives_bind, survives_execConfig_iff]
      refine and_congr_right fun htame => ?_
      obtain ⟨⟨st', result⟩, hexec⟩ := survives_execConfig_iff.mpr htame
      obtain ⟨-, hresult⟩ := execConfig_finish hexec
      rw [← mapError_eq_ok_iff (f := ConfigError.runConfig), ← hresult]
      simp only [hexec, Except.ok.injEq, forall_eq']
      cases result with
      | ok _ => simp
      | error e => simp [throw, throwThe, MonadExceptOf.throw]

/-- What the files of the start need: those that are run are tame. -/
def FilesSafe (I : Interpreter M) (lua : M.State) : List (Option (List UInt8)) → Prop
  | [] => True
  | none :: _ => True
  | some content :: files =>
      (runsAs I lua content).Tame ∧
      ((runsAs I lua content).finish.2 = .ok () →
        FilesSafe I (runsAs I lua content).finish.1 files)

def FilesSucceed (I : Interpreter M) (lua : M.State) : List (Option (List UInt8)) → Prop
  | [] => True
  | none :: _ => False
  | some content :: files =>
      (runsAs I lua content).finish.2 = .ok () ∧
      FilesSucceed I (runsAs I lua content).finish.1 files

theorem survives_execConfigs_iff {files : List (Option (List UInt8))} :
    Survives (st.execConfigs I files) ↔ FilesSafe I st.lua files := by
  induction files generalizing st with
  | nil => simp [ConfigState.execConfigs, FilesSafe]
  | cons read files ih =>
      cases read with
      | none => simp [ConfigState.execConfigs, FilesSafe]
      | some content =>
          rw [ConfigState.execConfigs, FilesSafe, survives_bind, survives_execConfig_iff]
          refine and_congr_right fun htame => ?_
          obtain ⟨⟨st', result⟩, hexec⟩ := survives_execConfig_iff.mpr htame
          obtain ⟨hlua, hresult⟩ := execConfig_finish hexec
          rw [← mapError_eq_ok_iff (f := ConfigError.runConfig), ← hresult, ← hlua]
          simp only [hexec, Except.ok.injEq, forall_eq']
          cases result with
          | ok _ => simp [ih]
          | error e => simp

theorem execConfigs_result {st' : ConfigState M} {files : List (Option (List UInt8))}
    {result : Except (ConfigError M) Unit}
    (h : st.execConfigs I files = .ok (st', result)) :
    result = .ok () ↔ FilesSucceed I st.lua files := by
  induction files generalizing st with
  | nil => cases h; simp [FilesSucceed]
  | cons read files ih =>
      cases read with
      | none => cases h; simp [FilesSucceed]
      | some content =>
          obtain ⟨⟨st₁, result₁⟩, hexec, hrest⟩ := bind_eq_ok_iff.mp h
          obtain ⟨hlua, hresult⟩ := execConfig_finish hexec
          rw [FilesSucceed, ← mapError_eq_ok_iff (f := ConfigError.runConfig), ← hresult,
            ← hlua]
          cases result₁ with
          | ok _ => simpa using ih hrest
          | error e => cases hrest; simp

/-! ## The start -/

theorem survives_mapKeys_iff {keymaps : List (ConfigKeymap M)}
    (hroom : st.callbackState.callbackCounter + keymaps.length ≤ usizeMax) :
    Survives (st.mapKeys overflowChecks peers keymaps) ↔
      (keymaps ≠ [] → Reaches peers (some .input)) := by
  induction keymaps generalizing st with
  | nil => simp [ConfigState.mapKeys]
  | cons keymap keymaps ih =>
      simp only [List.length_cons] at hroom
      rw [ConfigState.mapKeys, survives_bind, survives_mapKey_iff]
      simp only [ne_eq, reduceCtorEq, not_false_eq_true, forall_const]
      constructor
      · exact fun h => h.1.2
      · intro hreach
        refine ⟨⟨fun _ => by omega, hreach⟩, ?_⟩
        rintro ⟨st₁, sent⟩ hmap
        refine survives_bind_pure.mpr ((ih ?_).mpr fun _ => hreach)
        obtain ⟨cs, r, hcs, rfl, -⟩ := ConfigState.mapKey_eq_ok hmap
        have hcounter := (CallbackState.registerCallback_eq_some hcs).2.2 (by omega)
        simp only [hcounter]
        omega

theorem mapKeys_eq_ok {st' : ConfigState M} {effects : List Effect}
    {keymaps : List (ConfigKeymap M)}
    (h : st.mapKeys overflowChecks peers keymaps = .ok (st', effects)) :
    st'.lua = st.lua ∧ st'.idles = st.idles := by
  induction keymaps generalizing st effects with
  | nil => cases h; exact ⟨rfl, rfl⟩
  | cons keymap keymaps ih =>
      obtain ⟨⟨st₁, sent⟩, hmap, hmore⟩ := bind_eq_ok_iff.mp h
      obtain ⟨⟨st₂, sent'⟩, hrest, hok⟩ := bind_eq_ok_iff.mp hmore
      obtain ⟨cs, r, -, rfl, -⟩ := ConfigState.mapKey_eq_ok hmap
      cases hok
      have hkept := ih hrest
      exact hkept

def StartSafe (I : Interpreter M) (peers : Peers) (env : ConfigState.Surroundings) : Prop :=
  (env.functionsCreated = true → Reaches peers (some .input)) ∧
  match env.config with
  | some read => FilesSafe I I.start [read]
  | none => ∃ files, env.configFiles = some files ∧ FilesSafe I I.start files ∧
      (FilesSucceed I I.start files → env.watcherCreated = true ∧ env.sourceInserted = true)

theorem survives_runAndWatchUserConfig_iff {env : ConfigState.Surroundings} :
    Survives (st.runAndWatchUserConfig I env) ↔
      match env.config with
      | some read => FilesSafe I st.lua [read]
      | none => ∃ files, env.configFiles = some files ∧ FilesSafe I st.lua files ∧
          (FilesSucceed I st.lua files →
            env.watcherCreated = true ∧ env.sourceInserted = true) := by
  unfold ConfigState.runAndWatchUserConfig
  cases env.config with
  | some read => exact survives_execConfigs_iff
  | none =>
      cases env.configFiles with
      | none => simp
      | some files =>
          simp only [Option.some.injEq, exists_eq_left']
          rw [survives_bind, survives_execConfigs_iff]
          refine and_congr_right fun hsafe => ?_
          obtain ⟨⟨st', result⟩, hexec⟩ := survives_execConfigs_iff.mpr hsafe
          rw [← execConfigs_result hexec]
          simp only [hexec, Except.ok.injEq, forall_eq']
          cases result with
          | error e => simp
          | ok _ =>
              cases env.watcherCreated <;> cases env.sourceInserted <;>
                simp [throw, throwThe, MonadExceptOf.throw]

theorem survives_new_iff {env : ConfigState.Surroundings} :
    Survives (ConfigState.new I overflowChecks peers env) ↔ StartSafe I peers env := by
  unfold ConfigState.new StartSafe
  have hroom : (ConfigState.fresh I).callbackState.callbackCounter +
      (if env.functionsCreated = true then ConfigState.defaultKeymaps (M := M)
        else []).length ≤ usizeMax := by
    cases env.functionsCreated <;>
      simp [ConfigState.fresh, CallbackState.new, ConfigState.defaultKeymaps, usizeMax]
  have hkeys : (if env.functionsCreated = true then ConfigState.defaultKeymaps (M := M)
      else []) ≠ [] ↔ env.functionsCreated = true := by
    cases env.functionsCreated <;> simp [ConfigState.defaultKeymaps]
  rw [survives_bind, survives_mapKeys_iff hroom, hkeys]
  refine and_congr_right fun hreach => ?_
  have hmapped : Survives ((ConfigState.fresh I).mapKeys overflowChecks peers
      (if env.functionsCreated = true then ConfigState.defaultKeymaps else [])) :=
    (survives_mapKeys_iff hroom).mpr fun h => hreach (hkeys.mp h)
  obtain ⟨⟨st', sent⟩, hmap⟩ := hmapped
  simp only [hmap, Except.ok.injEq, forall_eq']
  rw [survives_bind_pure, survives_runAndWatchUserConfig_iff, (mapKeys_eq_ok hmap).1]
  rfl

/-! ## A whole life -/

def TurnSafe (I : Interpreter M) (overflowChecks : Bool) (peers : Peers)
    (st : ConfigState M) : ConfigState.Turn → Prop
  | .message message => MessageSafe I st message
  | .fileChanged read => st.watching = true → FileSafe I st.lua read
  | .idle => ∀ idle idles, st.idles = idle :: idles → idle.Safe overflowChecks peers st

theorem survives_turn_iff {turn : ConfigState.Turn} :
    Survives (st.turn I overflowChecks peers turn) ↔
      TurnSafe I overflowChecks peers st turn := by
  cases turn with
  | message message => exact survives_handleMessage_iff
  | fileChanged read =>
      rw [ConfigState.turn, TurnSafe]
      split
      next hwatching =>
        simp only [hwatching, forall_const]
        exact survives_bind_pure.trans survives_configChanged_iff
      next hwatching => simp [hwatching]
  | idle =>
      rw [ConfigState.turn, TurnSafe]
      cases hidles : st.idles with
      | nil => simp
      | cons idle idles =>
          simp only [List.cons.injEq, and_imp]
          refine (survives_bind_pure.trans survives_exec_iff).trans ?_
          constructor
          · rintro h _ _ rfl rfl
            cases idle <;> exact h
          · intro h
            have := h idle idles rfl rfl
            cases idle <;> exact this

/-- Every turn of a run has what it needs in the state it is taken in. -/
def TurnsSafe (I : Interpreter M) (overflowChecks : Bool) (st : ConfigState M) :
    List (Peers × ConfigState.Turn) → Prop
  | [] => True
  | (peers, turn) :: turns =>
      TurnSafe I overflowChecks peers st turn ∧
      ∀ st' effects result, st.turn I overflowChecks peers turn = .ok (st', effects, result) →
        TurnsSafe I overflowChecks st' turns

theorem survives_serve_iff {turns : List (Peers × ConfigState.Turn)} :
    Survives (st.serve I overflowChecks turns) ↔ TurnsSafe I overflowChecks st turns := by
  induction turns generalizing st with
  | nil => simp [ConfigState.serve, TurnsSafe]
  | cons turn turns ih =>
      rw [ConfigState.serve, TurnsSafe, survives_bind, survives_turn_iff]
      refine and_congr_right fun _ => ?_
      constructor
      · intro h st' effects result hturn
        exact ih.mp (h _ hturn)
      · intro h p hturn
        exact ih.mpr (h p.1 p.2.1 p.2.2 hturn)

/-- The config thread lives through its start and a run of its loop if and only
if the start and every turn have what they need. -/
theorem thread_survives_iff (env : ConfigState.Surroundings)
    (turns : List (Peers × ConfigState.Turn)) :
    Survives (ConfigState.thread I overflowChecks peers env turns) ↔
      StartSafe I peers env ∧
      ∀ st sent, ConfigState.new I overflowChecks peers env = .ok (st, sent) →
        TurnsSafe I overflowChecks st turns := by
  unfold ConfigState.thread
  rw [survives_bind, survives_new_iff]
  refine and_congr_right fun _ => ?_
  constructor
  · intro h st sent hnew
    exact survives_serve_iff.mp (h _ hnew)
  · intro h p hnew
    exact survives_serve_iff.mpr (h p.1 p.2 hnew)

def oneConfigFile : ConfigState.Surroundings where
  functionsCreated := true
  config := none
  configFiles := some [some []]
  watcherCreated := true
  sourceInserted := true

/-- A deleted file, a file saved with an error in it, an output without a
preferred mode once the hook is set, and `map_key` without a table: each ends the
config thread. -/
theorem thread_panics :
    ConfigState.thread (plainInterpreter fun _ => .done ()) true .all oneConfigFile
        [(.all, .fileChanged none)] = .error .readConfig ∧
    ConfigState.thread
        (plainInterpreter fun content =>
          if content = [] then .done () else .error () "syntax error")
        true .all oneConfigFile [(.all, .fileChanged (some [40]))] = .error .execConfig ∧
    ConfigState.thread
        (plainInterpreter fun _ =>
          .call .onConnectorChange [.function "f"] fun _ => .done ())
        true .all oneConfigFile
        [(.all, .idle), (.all, .message (.connectorChange [⟨"DP-1", 0, 0, none⟩]))] =
      .error .preferredMode ∧
    ConfigState.thread
        (plainInterpreter fun _ => .call .mapKey [.nil] fun _ => .done ())
        true .all oneConfigFile [] = .error .keymapTable :=
  ⟨rfl, rfl, rfl, rfl⟩

end Scape.Config
