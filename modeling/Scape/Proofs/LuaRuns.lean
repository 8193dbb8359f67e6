import Scape.Proofs.IdleStranding

/-!
# What Lua leaves behind

Lua code runs when a configuration file is executed and when a callback is called. Whatever
it does, the config thread afterwards knows the outputs that it knew before, and holds the
actions that it held, followed by those that calls of the API have queued.
-/

namespace Scape.Config

open Fallible (bind_eq_ok_iff)

variable {M : Mlua} {I : Interpreter M} {overflowChecks : Bool} {peers : Peers}
  {st st' st'' : ConfigState M} {effects : List Effect} {result : Except (ConfigError M) Unit}

/-- An action that a call of the API queues. -/
def Idle.Called (idle : Idle M) : Prop :=
  ∃ (api : Api) (args : List M.Value), api.idle args = .ok idle

theorem Script.eval_called {script : Script M} {run : LuaRun M} (h : script.eval = .ok run) :
    ∀ idle ∈ run.idles, idle.Called := by
  induction script generalizing run with
  | done | error =>
      cases h
      simp
  | call api args k ih =>
      obtain ⟨rest, hrest, ⟨idle, hidle, rfl⟩ | ⟨-, rfl⟩⟩ := eval_call_eq_ok h
      · exact List.forall_mem_cons.mpr ⟨⟨api, args, hidle⟩, ih _ hrest⟩
      · exact ih _ hrest

namespace ConfigState

structure LuaRan (st st' : ConfigState M) : Prop where
  outputs : st'.outputs = st.outputs
  idles : ∃ queued, st'.idles = st.idles ++ queued ∧ ∀ idle ∈ queued, idle.Called

theorem luaRan_of_eq (houtputs : st'.outputs = st.outputs) (hidles : st'.idles = st.idles) :
    LuaRan st st' :=
  ⟨houtputs, [], by rw [hidles, List.append_nil], by simp⟩

theorem LuaRan.trans (h : LuaRan st st') (h' : LuaRan st' st'') : LuaRan st st'' := by
  obtain ⟨queued, hidles, hcalled⟩ := h.idles
  obtain ⟨queued', hidles', hcalled'⟩ := h'.idles
  refine ⟨h'.outputs.trans h.outputs, queued ++ queued', ?_, ?_⟩
  · rw [hidles', hidles, List.append_assoc]
  · exact List.forall_mem_append.mpr ⟨hcalled, hcalled'⟩

theorem luaRan_afterLua {script : Script M} {run : LuaRun M} (h : script.eval = .ok run) :
    LuaRan st (st.afterLua run) :=
  ⟨rfl, run.idles, rfl, Script.eval_called h⟩

theorem runCallback_luaRan {callbackRef : CallbackRef} {outputs : Option (List ConfigOutput)}
    (h : st.runCallback I callbackRef outputs = .ok (st', result)) : LuaRan st st' := by
  obtain ⟨⟨run, result'⟩, hcall, hok⟩ := bind_eq_ok_iff.mp h
  cases hok
  unfold CallbackState.runCallback at hcall
  split at hcall
  next =>
    cases hcall
    exact luaRan_of_eq rfl (List.append_nil _)
  next =>
    obtain ⟨run', heval, hrest⟩ := bind_eq_ok_iff.mp hcall
    cases hrest
    exact luaRan_afterLua heval

theorem execConfig_luaRan {content : List UInt8}
    (h : st.execConfig I content = .ok (st', result)) : LuaRan st st' := by
  obtain ⟨run, hrun, rfl, -⟩ := execConfig_run h
  exact luaRan_afterLua hrun

theorem configChanged_luaRan {read : Option (List UInt8)}
    (h : st.configChanged I read = .ok st') : LuaRan st st' := by
  unfold configChanged at h
  split at h
  · cases h
  · obtain ⟨⟨st₁, result⟩, hexec, hrest⟩ := bind_eq_ok_iff.mp h
    cases result with
    | error e => cases hrest
    | ok _ => cases hrest; exact execConfig_luaRan hexec

theorem execConfigs_luaRan {files : List (Option (List UInt8))}
    (h : st.execConfigs I files = .ok (st', result)) : LuaRan st st' := by
  induction files generalizing st with
  | nil => cases h; exact luaRan_of_eq rfl rfl
  | cons read files ih =>
      cases read with
      | none => cases h; exact luaRan_of_eq rfl rfl
      | some content =>
          obtain ⟨⟨st₁, result₁⟩, hfirst, hrest⟩ := bind_eq_ok_iff.mp h
          have hran := execConfig_luaRan hfirst
          cases result₁ with
          | ok _ => exact hran.trans (ih hrest)
          | error e => cases hrest; exact hran

theorem mapKeys_luaRan {keymaps : List (ConfigKeymap M)}
    (h : st.mapKeys overflowChecks peers keymaps = .ok (st', effects)) : LuaRan st st' := by
  induction keymaps generalizing st effects with
  | nil => cases h; exact luaRan_of_eq rfl rfl
  | cons keymap keymaps ih =>
      obtain ⟨⟨st₁, sent⟩, hfirst, hmore⟩ := bind_eq_ok_iff.mp h
      obtain ⟨⟨st₂, sent'⟩, hrest, hok⟩ := bind_eq_ok_iff.mp hmore
      obtain ⟨cs, r, -, rfl, -⟩ := mapKey_eq_ok hfirst
      cases hok
      have hregistered : LuaRan st { st with callbackState := cs } := luaRan_of_eq rfl rfl
      exact hregistered.trans (ih hrest)

theorem runAndWatch_luaRan {env : Surroundings}
    (h : st.runAndWatchUserConfig I env = .ok (st', result)) : LuaRan st st' := by
  unfold runAndWatchUserConfig at h
  split at h
  · exact execConfigs_luaRan h
  · split at h
    · cases h
    · obtain ⟨⟨st₁, result₁⟩, hexec, hrest⟩ := bind_eq_ok_iff.mp h
      have hran := execConfigs_luaRan hexec
      cases result₁ with
      | error e => cases hrest; exact hran
      | ok _ =>
          dsimp only at hrest
          split at hrest
          · cases hrest
          · split at hrest
            · cases hrest
            · cases hrest
              exact hran.trans (luaRan_of_eq rfl rfl)

/-- The start of the thread, as what it does to a thread that knows nothing yet. -/
theorem new_luaRan {env : Surroundings}
    (h : ConfigState.new I overflowChecks peers env = .ok (st, effects)) :
    LuaRan (fresh I) st := by
  obtain ⟨⟨st₁, sent⟩, hmap, hmore⟩ := bind_eq_ok_iff.mp h
  obtain ⟨⟨st₂, result⟩, hrun, hok⟩ := bind_eq_ok_iff.mp hmore
  cases hok
  exact (mapKeys_luaRan hmap).trans (runAndWatch_luaRan hrun)

end ConfigState

end Scape.Config
