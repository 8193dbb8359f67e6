import Scape.Config.Lua
import Scape.Lib.Assoc
import Scape.Lib.Fallible

/-!
# `CallbackState`

A Lua function cannot leave the config thread, so the other threads name it by a
number. `CallbackState` keeps the functions and deals out the numbers, each one
higher than the last.
-/

namespace Scape.Config

open Scape Assoc
open Fallible (bind_eq_ok_iff)

structure CallbackState (M : Mlua) where
  callbacks : HashMap CallbackRef M.Function
  callbackCounter : Nat

/-- What `handle_message` can fail with. -/
inductive ConfigError (M : Mlua) where
  /-- "Tried to run callback that does not exist" -/
  | unknownCallback (callbackRef : CallbackRef)
  /-- "Error while running lua callback" -/
  | luaCallback (e : M.Error)
  /-- "Unable to run config" -/
  | runConfig (e : M.Error)
  /-- the error of `fs::read` -/
  | readConfig

namespace CallbackState

variable {M : Mlua}

def new : CallbackState M where
  callbacks := ∅
  callbackCounter := 1

/-- `CallbackState::register_callback`; `none` is the overflow of the counter. -/
def registerCallback (overflowChecks : Bool) (cs : CallbackState M)
    (callback : M.Function) : Option (CallbackState M × CallbackRef) :=
  let callbackRef : CallbackRef := ⟨cs.callbackCounter⟩
  (usizeAdd overflowChecks cs.callbackCounter 1).map fun callbackCounter =>
    ({ callbacks := cs.callbacks.insert callbackRef callback
       callbackCounter := callbackCounter }, callbackRef)

/-- `CallbackState::run_callback`: what the call queued, or the error it is
answered with. -/
def runCallback (I : Interpreter M) (lua : M.State) (cs : CallbackState M)
    (callbackRef : CallbackRef) (outputs : Option (List ConfigOutput)) :
    Except Panic (LuaRun M × Except (ConfigError M) Unit) :=
  match cs.callbacks.lookup callbackRef with
  | none => .ok (⟨[], lua, .ok ()⟩, .error (.unknownCallback callbackRef))
  | some callback => do
      let run ← (I.enter lua (.function callback outputs)).eval
      return (run, run.result.mapError .luaCallback)

def forgetCallback (cs : CallbackState M) (callbackRef : CallbackRef) :
    CallbackState M :=
  { cs with callbacks := cs.callbacks.erase callbackRef }

def live (cs : CallbackState M) : Finset CallbackRef := keySet cs.callbacks

@[simp] theorem live_new : live (new : CallbackState M) = ∅ := rfl

@[simp] theorem live_forgetCallback (cs : CallbackState M) (callbackRef : CallbackRef) :
    (cs.forgetCallback callbackRef).live = cs.live.erase callbackRef :=
  keySet_erase cs.callbacks callbackRef

@[simp] theorem callbackCounter_forgetCallback (cs : CallbackState M)
    (callbackRef : CallbackRef) :
    (cs.forgetCallback callbackRef).callbackCounter = cs.callbackCounter := rfl

/-- A registration hands out the counter, and with room left the counter goes up
by one. -/
theorem registerCallback_eq_some {overflowChecks : Bool} {cs cs' : CallbackState M}
    {callback : M.Function} {callbackRef : CallbackRef}
    (h : cs.registerCallback overflowChecks callback = some (cs', callbackRef)) :
    callbackRef = ⟨cs.callbackCounter⟩ ∧ cs'.live = insert callbackRef cs.live ∧
    (cs.callbackCounter < usizeMax → cs'.callbackCounter = cs.callbackCounter + 1) := by
  simp only [registerCallback, Option.map_eq_some_iff, Prod.mk.injEq] at h
  obtain ⟨counter, hcounter, rfl, rfl⟩ := h
  refine ⟨rfl, keySet_insert _ _ _, fun hlt => ?_⟩
  rw [usizeAdd_of_le (by omega), Option.some.injEq] at hcounter
  exact hcounter.symm

theorem registerCallback_eq_none_iff {overflowChecks : Bool} {cs : CallbackState M}
    {callback : M.Function} :
    cs.registerCallback overflowChecks callback = none ↔
      overflowChecks = true ∧ usizeMax ≤ cs.callbackCounter := by
  simp only [registerCallback, Option.map_eq_none_iff, usizeAdd]
  split
  · simp only [reduceCtorEq, false_iff, not_and]
    omega
  · cases overflowChecks <;> simp
    omega

theorem runCallback_unknown {I : Interpreter M} {lua : M.State} {cs : CallbackState M}
    {callbackRef callbackRef' : CallbackRef} {outputs : Option (List ConfigOutput)}
    {run : LuaRun M}
    (h : cs.runCallback I lua callbackRef outputs =
      .ok (run, .error (.unknownCallback callbackRef'))) :
    callbackRef ∉ cs.live := by
  unfold runCallback at h
  split at h
  next hnone => simpa [live] using AList.lookup_eq_none.mp hnone
  next callback _ =>
    obtain ⟨run', -, hok⟩ := bind_eq_ok_iff.mp h
    have hresult := congrArg Prod.snd (Except.ok.inj hok)
    cases hr : run'.result with
    | ok _ =>
        simp only [hr, Except.mapError] at hresult
        cases hresult
    | error e =>
        simp only [hr, Except.mapError] at hresult
        cases hresult

end CallbackState

end Scape.Config
