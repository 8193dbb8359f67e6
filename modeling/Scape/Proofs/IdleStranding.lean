import Scape.Config.Loop
import Scape.Proofs.ConfigSurvival

/-!
# Actions queued before the loop runs

The configuration is executed while `ConfigState` is created, and what it calls is
queued on a loop that does not run yet. The first thing the loop does is to block.
Only when something wakes it does it run the actions.

Later there is no such gap: a message or a changed file is handled before the
actions of the same round run, and an action queues no other. So the thread can be
blocked on queued actions exactly when the configuration queued one at the start.
-/

namespace Scape.Config

open Scape EventLoop Machine
open Fallible (bind_eq_ok_iff)

variable {M : Mlua} {I : Interpreter M} {overflowChecks : Bool} {peers : Peers}
  {st st' : ConfigState M} {effects : List Effect}

/-! ## No action queues another -/

theorem Idle.exec_idles {idle : Idle M}
    (h : idle.exec overflowChecks peers st = .ok (st', effects)) :
    st'.idles = st.idles := by
  cases idle with
  | keymap keymap =>
      obtain ⟨cs, r, -, rfl, -⟩ := ConfigState.mapKey_eq_ok h
      rfl
  | onStartup callback =>
      obtain ⟨cs, r, -, rfl, -⟩ := exec_onStartup_eq_ok h
      rfl
  | onConnectorChange callback =>
      obtain ⟨cs, r, -, rfl, -⟩ := exec_onConnectorChange_eq_ok h
      rfl
  | spawn configSpawn => cases h; rfl
  | setLayout | display | main =>
      obtain ⟨rfl, -⟩ := sendOn_bind_eq_ok h
      rfl

/-! ## What the start queues -/

namespace Script

/-- No call the script gets to queues an action. -/
def Quiet : Script M → Prop
  | .done _ => True
  | .error _ _ => True
  | .call api args k => (∀ idle, api.idle args ≠ .ok idle) ∧ (k (api.answer args)).Quiet

theorem eval_idles_iff {script : Script M} {run : LuaRun M} (h : script.eval = .ok run) :
    run.idles = [] ↔ script.Quiet := by
  induction script generalizing run with
  | done lua => cases h; simp [Quiet]
  | error lua e => cases h; simp [Quiet]
  | call api args k ih =>
      rw [Quiet]
      obtain ⟨rest, hrest, ⟨idle, hidle, rfl⟩ | ⟨hnone, rfl⟩⟩ := eval_call_eq_ok h
      · simp [LuaRun.queue, hidle]
      · rw [ih _ hrest, and_iff_right hnone]

end Script

/-- The files of the start queue nothing, up to the first that cannot be read or
fails. -/
def QuietFiles (I : Interpreter M) (lua : M.State) : List (Option (List UInt8)) → Prop
  | [] => True
  | none :: _ => True
  | some content :: files =>
      (runsAs I lua content).Quiet ∧
      ((runsAs I lua content).finish.2 = .ok () →
        QuietFiles I (runsAs I lua content).finish.1 files)

def QuietStart (I : Interpreter M) (env : ConfigState.Surroundings) : Prop :=
  match env.config with
  | some read => QuietFiles I I.start [read]
  | none => ∀ files, env.configFiles = some files → QuietFiles I I.start files

theorem execConfig_idles {content : List UInt8} {result : Except (ConfigError M) Unit}
    (h : st.execConfig I content = .ok (st', result)) :
    ∃ idles, st'.idles = st.idles ++ idles ∧
      (idles = [] ↔ (runsAs I st.lua content).Quiet) := by
  obtain ⟨run, hrun, rfl, -⟩ := ConfigState.execConfig_run h
  exact ⟨run.idles, rfl, Script.eval_idles_iff hrun⟩

theorem execConfigs_idles {files : List (Option (List UInt8))}
    {result : Except (ConfigError M) Unit}
    (h : st.execConfigs I files = .ok (st', result)) :
    st'.idles = [] ↔ st.idles = [] ∧ QuietFiles I st.lua files := by
  induction files generalizing st with
  | nil => cases h; simp [QuietFiles]
  | cons read files ih =>
      cases read with
      | none => cases h; simp [QuietFiles]
      | some content =>
          obtain ⟨⟨st₁, result₁⟩, hexec, hrest⟩ := bind_eq_ok_iff.mp h
          obtain ⟨hlua, hresult⟩ := execConfig_finish hexec
          obtain ⟨idles, hidles, hquiet⟩ := execConfig_idles hexec
          rw [QuietFiles, ← mapError_eq_ok_iff (f := ConfigError.runConfig), ← hresult,
            ← hlua, ← hquiet]
          cases result₁ with
          | ok _ =>
              rw [ih hrest, hidles, List.append_eq_nil_iff]
              simp only [forall_const]
              tauto
          | error e =>
              cases hrest
              rw [hidles, List.append_eq_nil_iff]
              simp

theorem runAndWatchUserConfig_idles {env : ConfigState.Surroundings}
    {result : Except (ConfigError M) Unit}
    (h : st.runAndWatchUserConfig I env = .ok (st', result)) (hlua : st.lua = I.start)
    (hidles : st.idles = []) : st'.idles = [] ↔ QuietStart I env := by
  unfold ConfigState.runAndWatchUserConfig at h
  rw [QuietStart]
  cases hconfig : env.config with
  | some read =>
      simp only [hconfig] at h
      rw [execConfigs_idles h, hlua]
      exact and_iff_right hidles
  | none =>
      cases hfiles : env.configFiles with
      | none =>
          simp only [hconfig, hfiles] at h
          cases h
      | some files =>
          simp only [hconfig, hfiles] at h
          obtain ⟨⟨st₁, result₁⟩, hexec, hrest⟩ := bind_eq_ok_iff.mp h
          have hquiet := execConfigs_idles hexec
          rw [hlua, and_iff_right hidles] at hquiet
          simp only [Option.some.injEq, forall_eq']
          rw [← hquiet]
          cases result₁ with
          | error e => cases hrest; rfl
          | ok _ =>
              cases hw : env.watcherCreated <;> cases hs : env.sourceInserted <;>
                rw [hw] at hrest <;> try rw [hs] at hrest
              all_goals cases hrest
              rfl

theorem new_idles {env : ConfigState.Surroundings}
    (h : ConfigState.new I overflowChecks peers env = .ok (st, effects)) :
    st.idles = [] ↔ QuietStart I env := by
  obtain ⟨⟨st₁, sent⟩, hmap, hmore⟩ := bind_eq_ok_iff.mp h
  obtain ⟨⟨st₂, result⟩, hrun, hok⟩ := bind_eq_ok_iff.mp hmore
  obtain ⟨hlua, hidles⟩ := mapKeys_eq_ok hmap
  cases hok
  exact runAndWatchUserConfig_idles hrun hlua hidles

/-! ## The loop -/

theorem tidy (env : ConfigState.Surroundings) :
    (ConfigThread.loop I overflowChecks peers env).Tidy where
  outside_queued := by
    rintro s e t ⟨action, -, rfl⟩
    cases action <;> rfl
  outside_ready := by
    rintro s e t ⟨action, -, rfl⟩ hready
    cases action with
    | push | pushChange => exact hready
    | ping => exact .inl rfl
    | pingWatcher => exact hready.imp_right fun h => ⟨h.1, rfl⟩
  take_queued := fun _ => rfl
  exec_queued := by
    rintro s idle t hnil ⟨peers, ht⟩
    cases hexec : idle.exec overflowChecks peers s.state with
    | error site => rw [hexec] at ht; cases ht
    | ok p =>
        obtain ⟨st, effects⟩ := p
        rw [hexec] at ht
        cases ht
        exact (Idle.exec_idles hexec).trans hnil

theorem stranded_of_loud {env : ConfigState.Surroundings}
    (hnew : ConfigState.new I overflowChecks peers env = .ok (st, effects))
    (hloud : ¬ QuietStart I env) :
    ∃ x, Reachable (ConfigThread.loop I overflowChecks peers env).system x ∧
      (ConfigThread.loop I overflowChecks peers env).Stranded x := by
  refine (Loop.stranded_iff (tidy env)).mpr
    ⟨⟨st, .empty, .empty, none⟩, ⟨rfl, effects, hnew⟩, ?_, fun hnil => ?_⟩
  · rintro (h | ⟨-, h⟩) <;> cases h
  · exact hloud ((new_idles hnew).mp hnil)

/-- The thread is never blocked on queued actions if and only if its configuration
queues none at the start, or the start panics. -/
theorem never_stranded_iff (env : ConfigState.Surroundings) :
    (∀ x, Reachable (ConfigThread.loop I overflowChecks peers env).system x →
      ¬ (ConfigThread.loop I overflowChecks peers env).Stranded x) ↔
      (StartSafe I peers env → QuietStart I env) := by
  have hsurvives : Survives (ConfigState.new I overflowChecks peers env) ↔
      StartSafe I peers env := survives_new_iff
  rw [← hsurvives]
  constructor
  · rintro hnever ⟨⟨st, sent⟩, hnew⟩
    by_contra hloud
    obtain ⟨x, hx, hstranded⟩ := stranded_of_loud hnew hloud
    exact hnever x hx hstranded
  · intro hquiet x hx hstranded
    obtain ⟨s, ⟨-, sent, hnew⟩, -, hqueued⟩ :=
      (Loop.stranded_iff (tidy env)).mp ⟨x, hx, hstranded⟩
    exact hqueued ((new_idles hnew).mpr (hquiet ⟨_, hnew⟩))

/-! ## A configuration with one key -/

/-- Maps a key and is done. -/
def oneKey : Script plainLua :=
  .call .mapKey
    [.table [(.string "key", .string "q"), (.string "callback", .function "quit")]]
    fun _ => .done ()

def oneFile : ConfigState.Surroundings where
  functionsCreated := false
  config := some (some [])
  configFiles := none
  watcherCreated := false
  sourceInserted := false

/-- The key is mapped when somebody wakes the thread, and nobody has to. -/
theorem oneKey_stranded :
    ∃ x, Reachable
        (ConfigThread.loop (plainInterpreter fun _ => oneKey) true Peers.all oneFile).system x ∧
      (ConfigThread.loop (plainInterpreter fun _ => oneKey) true Peers.all oneFile).Stranded
        x := by
  obtain ⟨⟨st, sent⟩, hnew⟩ : Survives (ConfigState.new
      (plainInterpreter fun _ => oneKey) true Peers.all oneFile) := ⟨_, rfl⟩
  refine stranded_of_loud hnew fun hquiet => ?_
  exact hquiet.1.1 _ rfl

end Scape.Config
