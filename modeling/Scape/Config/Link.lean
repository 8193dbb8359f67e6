import Scape.Config.State
import Scape.Input.Keyboard
import Scape.Lib.Ledger

/-!
# Config and input, linked

Two threads share the callbacks. The config thread registers a Lua function and
sends its reference to the input thread, which binds it to a key, asks for it
when the key comes, and hands the reference back when the binding is replaced.
The channels between them deliver in the order of sending, and nothing else
orders the two.

A `Link` is both threads and what is on the two channels. Its steps are theirs,
one message or one idle action at a time, in any order; other threads may put
messages of their own on either channel at any point. A step in which the config
thread panics is none: there is no pair after it.

`issued` belongs to no thread. It records every reference a registration hands
out.
-/

namespace Scape.Config

open Scape Scape.Input

structure Link (M : Mlua) (X : Xkb) where
  /-- the default keymaps that `set_default_keymaps` has still to register -/
  booting : List (ConfigKeymap M)
  config : ConfigState M
  input : InputState X
  toConfig : List ConfigMessage
  toInput : List InputMessage
  issued : List CallbackRef

inductive LinkAction where
  | defaultKeymap (peers : Peers)
  | userConfig (content : List UInt8)
  | fileChanged (read : Option (List UInt8))
  | idle (peers : Peers)
  | configMessage
  | inputMessage (opened : Option Nat)
  | key (event : KeyEvent)
  /-- another thread sends to the config thread -/
  | toConfig (message : ConfigMessage)
  /-- another thread sends to the input thread -/
  | toInput (message : InputMessage)

/-- The reference a callback message is about. -/
def forgottenRef : ConfigMessage → Option CallbackRef
  | .forgetCallback callbackRef => some callbackRef
  | _ => none

def calledRef : ConfigMessage → Option CallbackRef
  | .runCallback callbackRef => some callbackRef
  | _ => none

def mappedRef : InputMessage → Option CallbackRef
  | .keymap _ _ callbackRef => some callbackRef
  | _ => none

namespace Link

variable {M : Mlua} {X : Xkb}

def issue (overflowChecks : Bool) (cs : CallbackState M) (callback : M.Function) :
    List CallbackRef :=
  ((cs.registerCallback overflowChecks callback).map Prod.snd).toList

def issueIdle (overflowChecks : Bool) (st : ConfigState M) (idle : Idle M) :
    List CallbackRef :=
  idle.callback.toList.flatMap (issue overflowChecks st.callbackState)

variable (I : Interpreter M) (overflowChecks : Bool)

inductive Step : Link M X → LinkAction → Link M X → Prop
  | defaultKeymap {s : Link M X} {peers : Peers} {keymap : ConfigKeymap M}
      {booting : List (ConfigKeymap M)} {config : ConfigState M} {effects : List Effect} :
      s.booting = keymap :: booting → peers.module .input = true →
      s.config.mapKey overflowChecks peers keymap = .ok (config, effects) →
      Step s (.defaultKeymap peers)
        { s with
          booting := booting
          config := config
          toInput := s.toInput ++ inputMessages effects
          issued := s.issued ++ issue overflowChecks s.config.callbackState keymap.callback }
  | userConfig {s : Link M X} {content : List UInt8} {config : ConfigState M}
      {result : Except (ConfigError M) Unit} :
      s.booting = [] → s.config.execConfig I content = .ok (config, result) →
      Step s (.userConfig content) { s with config := config }
  | fileChanged {s : Link M X} {read : Option (List UInt8)} {config : ConfigState M} :
      s.booting = [] → s.config.configChanged I read = .ok config →
      Step s (.fileChanged read) { s with config := config }
  | idle {s : Link M X} {peers : Peers} {idle : Idle M} {idles : List (Idle M)}
      {config : ConfigState M} {effects : List Effect} :
      s.booting = [] → s.config.idles = idle :: idles → peers.module .input = true →
      idle.exec overflowChecks peers { s.config with idles := idles } =
        .ok (config, effects) →
      Step s (.idle peers)
        { s with
          config := config
          toInput := s.toInput ++ inputMessages effects
          issued := s.issued ++ issueIdle overflowChecks s.config idle }
  | configMessage {s : Link M X} {message : ConfigMessage} {queue : List ConfigMessage}
      {config : ConfigState M} {effects : List Effect}
      {result : Except (ConfigError M) Unit} :
      s.booting = [] → s.toConfig = message :: queue →
      s.config.handleMessage I message = .ok (config, effects, result) →
      Step s .configMessage
        { s with
          config := config
          toConfig := queue
          toInput := s.toInput ++ inputMessages effects }
  | inputMessage {s : Link M X} {opened : Option Nat} {message : InputMessage}
      {queue : List InputMessage} :
      s.toInput = message :: queue →
      Step s (.inputMessage opened)
        { s with
          input := (s.input.handleMessage opened message).1
          toInput := queue
          toConfig := s.toConfig ++
            configMessages (s.input.handleMessage opened message).2 }
  | key {s : Link M X} {event : KeyEvent} :
      Step s (.key event)
        { s with
          input := (s.input.handleKeyboardEvent event).1
          toConfig := s.toConfig ++
            configMessages (s.input.handleKeyboardEvent event).2 }
  | toConfig {s : Link M X} {message : ConfigMessage} :
      calledRef message = none → forgottenRef message = none →
      Step s (.toConfig message) { s with toConfig := s.toConfig ++ [message] }
  | toInput {s : Link M X} {message : InputMessage} :
      mappedRef message = none →
      Step s (.toInput message) { s with toInput := s.toInput ++ [message] }

/-- Where the two start: with the default keymaps still to be registered, or
without any if Lua could not create their functions. -/
def Starts (s : Link M X) : Prop :=
  ∃ (keymaps : List (ConfigKeymap M)) (xkbState : X.State),
    (keymaps = ConfigState.defaultKeymaps ∨ keymaps = []) ∧
    s = ⟨keymaps, .fresh I, .new xkbState, [], [], []⟩

def system : Machine.System (Link M X) LinkAction where
  init := Starts I
  step := Step I overflowChecks

/-- The counter has a number to give out, or the build checks that it has. -/
def Unwrapped (s : Link M X) (_ : LinkAction) : Prop :=
  overflowChecks = true ∨ s.config.callbackState.callbackCounter < usizeMax

end Link

end Scape.Config
