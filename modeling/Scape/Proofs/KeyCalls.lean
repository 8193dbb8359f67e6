import Scape.Proofs.CallbackSafety
import Scape.Lib.Naming

/-!
# What a key calls

A configuration maps a key to a function, and the key calls it. The function does
neither: it stays in the config thread's table under a number, the number travels to
the input thread and becomes the binding of a key, an event of the key sends it back,
be it a press or a release, and by then the table has had other functions put in and
taken out.

`KeyPlan` is the arrangement without the numbers: mappings on their way, the function
of each key, and the functions that keys have asked for. A `Link` shows such a plan at
every point of a run (`Shows`), so that the functions called for keys are the ones
asked for, one call for each such event and in the order of the events. Those at the end
that have not been called yet wait in the config thread's queue.
-/

namespace Scape.Config

open Scape Scape.Input Assoc Ledger Fifo Naming

/-! ## The plan -/

/-- The keys as a configuration means them. -/
structure KeyPlan (F : Type) where
  /-- mappings that are not in force yet, oldest first: a key name, modifiers, a function -/
  coming : List ((String × Mods) × F)
  keys : Mods → Keysym → Option F
  /-- the functions that keys have asked for, oldest first -/
  asked : List F

namespace KeyPlan

variable {F : Type}

inductive Change (F : Type) where
  | mapKey (keyName : String) (mods : Mods) (callback : F)
  /-- the oldest mapping comes into force, if its key has a name that is known -/
  | takeEffect
  /-- a key event, a press or a release, with the modifiers and the keysym it has -/
  | strike (mods : Mods) (keysym : Keysym)

def empty : KeyPlan F where
  coming := []
  keys := fun _ _ => none
  asked := []

/-- The keys with one more bound, if it is one. -/
def bindKey (keys : Mods → Keysym → Option F) (callback : F) :
    Option (Mods × Keysym) → Mods → Keysym → Option F
  | none => keys
  | some (mods, key) => fun mods' key' =>
      if mods' = mods ∧ key' = key then some callback else keys mods' key'

def next (t : Tables) (plan : KeyPlan F) : Change F → KeyPlan F
  | .mapKey keyName mods callback =>
      { plan with coming := plan.coming ++ [((keyName, mods), callback)] }
  | .takeEffect =>
      match plan.coming with
      | [] => plan
      | ((keyName, mods), callback) :: coming =>
          { plan with
            coming := coming
            keys := bindKey plan.keys callback (resolveKey t keyName mods) }
  | .strike mods keysym => { plan with asked := plan.asked ++ (plan.keys mods keysym).toList }

end KeyPlan

/-- A message that maps a key. -/
def asMapping : InputMessage → Option ((String × Mods) × CallbackRef)
  | .keymap keyName mods callbackRef => some ((keyName, mods), callbackRef)
  | _ => none

/-- An action that maps a key. -/
def Idle.asChange {M : Mlua} : Idle M → Option (KeyPlan.Change M.Function)
  | .keymap configKeymap =>
      some (.mapKey configKeymap.key configKeymap.mods configKeymap.callback)
  | _ => none

namespace Link

variable {M : Mlua} {X : Xkb} {I : Interpreter M} {overflowChecks : Bool}
  {s t : Link M X} {action : LinkAction} {plan : KeyPlan M.Function}
  {done : List M.Function} {cs cs' : CallbackState M} {callback : M.Function}
  {r : CallbackRef}

def table (s : Link M X) : HashMap CallbackRef M.Function := s.config.callbackState.callbacks

/-- What a step is to the plan. -/
def changes (s : Link M X) : LinkAction → List (KeyPlan.Change M.Function)
  | .defaultKeymap _ => s.booting.head?.toList.map fun keymap =>
      .mapKey keymap.key keymap.mods keymap.callback
  | .idle _ => (s.config.idles.head?.bind Idle.asChange).toList
  | .inputMessage _ => (s.toInput.head?.bind asMapping).toList.map fun _ => .takeEffect
  | .key event => [.strike (s.input.modifiersOf event).mods (s.input.keysymOf event)]
  | _ => []

/-- The function that a step calls for a key. -/
def calls (s : Link M X) : LinkAction → List M.Function
  | .configMessage => ((s.toConfig.head?.bind calledRef).bind fun r => s.table.lookup r).toList
  | _ => []

/-- The functions called for keys in a run. -/
def called (trace : List (Link M X × LinkAction)) : List M.Function :=
  trace.flatMap fun p => p.1.calls p.2

/-- The plan with its functions under their numbers, and the calls still to come. -/
structure Shows (s : Link M X) (plan : KeyPlan M.Function) (done : List M.Function) :
    Prop where
  coming : List.Forall₂ (Carries s.table) (s.toInput.filterMap asMapping) plan.coming
  keys : ∀ mods key,
    Option.Rel (Names s.table) (s.input.keymaps.bound mods key) (plan.keys mods key)
  asked : ∃ pending, done ++ pending = plan.asked ∧
    List.Forall₂ (Names s.table) (s.toConfig.filterMap calledRef) pending

/-- A number that stands for a function, for somebody who may still send it. -/
def InUse (s : Link M X) (r : CallbackRef) : Prop :=
  Bound s.input.keymaps r ∨ (∃ mapping ∈ s.toInput.filterMap asMapping, mapping.2 = r) ∨
    r ∈ s.toConfig.filterMap calledRef

/-! ## The table keeps what is in use -/

theorem register_names
    (h : cs.registerCallback overflowChecks callback = some (cs', r)) :
    Names cs'.callbacks r callback := by
  simp only [CallbackState.registerCallback, Option.map_eq_some_iff, Prod.mk.injEq] at h
  obtain ⟨counter, -, rfl, rfl⟩ := h
  exact names_insert

theorem register_keeps {issued : List CallbackRef} {used : CallbackRef → Prop}
    (hn : Numbered issued cs)
    (h : cs.registerCallback overflowChecks callback = some (cs', r)) :
    Keeps used cs.callbacks cs'.callbacks := by
  simp only [CallbackState.registerCallback, Option.map_eq_some_iff, Prod.mk.injEq] at h
  obtain ⟨counter, -, rfl, rfl⟩ := h
  exact keeps_insert fun hmem => hn.fresh (hn.live _ (mem_keySet.mpr hmem))

/-- The references that no hook has. -/
def travelling (s : Link M X) : Multiset CallbackRef :=
  boundRefs s.input.keymaps + (s.toInput.filterMap mappedRef : List CallbackRef) +
    (s.toConfig.filterMap forgottenRef : List CallbackRef)

theorem mappedRef_eq (message : InputMessage) :
    mappedRef message = (asMapping message).map Prod.snd := by
  cases message <;> rfl

/-- What is in use is owned, and by no hook. -/
theorem InUse.mem_travelling (hc : s.CallsCovered) (h : s.InUse r) : r ∈ s.travelling := by
  simp only [travelling, Multiset.mem_add, Multiset.mem_coe, List.mem_filterMap]
  have hheld : Bound s.input.keymaps r ∨ (∃ m ∈ s.toConfig, forgottenRef m = some r) →
      (r ∈ boundRefs s.input.keymaps ∨ ∃ m ∈ s.toInput, mappedRef m = some r) ∨
        ∃ m ∈ s.toConfig, forgottenRef m = some r :=
    Or.imp_left fun hbound => .inl hbound.mem_boundRefs
  rcases h with hbound | ⟨mapping, hmem, rfl⟩ | hcalled
  · exact hheld (.inl hbound)
  · obtain ⟨m, hm, hmapping⟩ := List.mem_filterMap.mp hmem
    exact .inl (.inr ⟨m, hm, by rw [mappedRef_eq, hmapping]; rfl⟩)
  · obtain ⟨m, hm, huse⟩ := List.mem_filterMap.mp hcalled
    exact hheld (hc.of_mem hm huse)

/-- A reference that the owners give back is not in use. -/
theorem not_inUse {rest : Multiset CallbackRef} (hs : s.book.Sound) (hc : t.CallsCovered)
    (howned : s.owned = r ::ₘ (t.travelling + rest)) : ¬ t.InUse r := by
  intro hr
  exact hs.notMem_rest howned (Multiset.mem_add.mpr (.inl (hr.mem_travelling hc)))

/-! ## What a step does to the plan -/

/-- The table may change as long as it keeps what is in use. -/
theorem Shows.renamed (h : s.Shows plan done) (hkeeps : Keeps s.InUse s.table t.table)
    (hkeymaps : t.input.keymaps = s.input.keymaps)
    (htoInput : t.toInput.filterMap asMapping = s.toInput.filterMap asMapping)
    (htoConfig : t.toConfig.filterMap calledRef = s.toConfig.filterMap calledRef) :
    t.Shows plan done where
  coming := by
    rw [htoInput]
    exact forall₂_of_mem h.coming fun mapping hm _ hcarries =>
      ⟨hcarries.1, hkeeps _ _ (.inr (.inl ⟨mapping, hm, rfl⟩)) hcarries.2⟩
  keys mods key := by
    rw [hkeymaps]
    exact optionRel_of_mem (h.keys mods key) fun r hr f hname =>
      hkeeps r f (.inl ⟨mods, key, hr⟩) hname
  asked := by
    obtain ⟨pending, hasked, hnames⟩ := h.asked
    rw [htoConfig]
    exact ⟨pending, hasked, forall₂_of_mem hnames fun r hr f hname =>
      hkeeps r f (.inr (.inr hr)) hname⟩

theorem Shows.same (h : s.Shows plan done)
    (hcs : t.config.callbackState = s.config.callbackState)
    (hkeymaps : t.input.keymaps = s.input.keymaps)
    (htoInput : t.toInput.filterMap asMapping = s.toInput.filterMap asMapping)
    (htoConfig : t.toConfig.filterMap calledRef = s.toConfig.filterMap calledRef) :
    t.Shows plan done := by
  refine h.renamed ?_ hkeymaps htoInput htoConfig
  rw [table, table, hcs]
  exact .refl

/-- A function is registered and its mapping sent. -/
theorem Shows.maps {keyName : String} {mods : Mods} (h : s.Shows plan done)
    (hn : Numbered s.issued s.config.callbackState)
    (hreg : s.config.callbackState.registerCallback overflowChecks callback =
      some (t.config.callbackState, r))
    (hinput : t.input = s.input) (htoConfig : t.toConfig = s.toConfig)
    (htoInput : t.toInput = s.toInput ++ [.keymap keyName mods r]) :
    t.Shows (plan.next X.tables (.mapKey keyName mods callback)) done := by
  have hsent : Link.Shows { t with toInput := s.toInput } plan done :=
    h.renamed (register_keeps hn hreg) (by rw [hinput]) rfl (by rw [htoConfig])
  refine ⟨?_, hsent.keys, hsent.asked⟩
  rw [htoInput, List.filterMap_append]
  exact List.rel_append hsent.coming (.cons ⟨rfl, register_names hreg⟩ .nil)

theorem Shows.idle {peers : Peers} {idle : Idle M} {idles : List (Idle M)}
    {config : ConfigState M} {effects : List Effect} (h : s.Shows plan done)
    (hn : Numbered s.issued s.config.callbackState) (hs : s.book.Sound) (hc : s.CallsCovered)
    (hp : peers.module .input = true)
    (hexec : idle.exec overflowChecks peers { s.config with idles := idles } =
      .ok (config, effects))
    (hconfig : t.config = config) (hinput : t.input = s.input)
    (htoInput : t.toInput = s.toInput ++ inputMessages effects)
    (htoConfig : t.toConfig = s.toConfig) :
    t.Shows (idle.asChange.toList.foldl (KeyPlan.next X.tables) plan) done := by
  rcases Idle.exec_cases hp hexec with
    ⟨hquiet, ⟨hcs, -, -⟩, heff⟩ | ⟨keymap, cs, r, rfl, hcs, rfl, heff⟩ |
    ⟨callback, cs, r, rfl, hcs, rfl, heff⟩ | ⟨callback, cs, r, rfl, hcs, rfl, heff⟩
  · have hnone : idle.asChange = none := by
      cases idle with
      | keymap => cases hquiet
      | _ => rfl
    rw [hnone]
    exact h.same (by rw [hconfig, hcs]) (by rw [hinput])
      (by rw [htoInput, heff, List.append_nil]) (by rw [htoConfig])
  · exact h.maps hn (by rw [hconfig]; exact hcs) hinput htoConfig (by rw [htoInput, heff])
  · refine h.renamed ?_ (by rw [hinput]) (by rw [htoInput, heff, List.append_nil])
      (by rw [htoConfig])
    have htable : t.table = cs.callbacks := by rw [table, hconfig]
    rw [htable]
    cases hold : s.config.onStartup with
    | none =>
        simp only [hold, Option.elim] at hcs
        exact register_keeps hn hcs
    | some old =>
        simp only [hold, Option.elim] at hcs
        -- the hook gives its old reference back first
        have howned : s.owned = old ::ₘ (s.travelling +
            (s.config.onConnectorChange.toList : List CallbackRef)) := by
          simp only [owned, hold, travelling, Option.toList_some, Multiset.coe_singleton,
            ← Multiset.singleton_add]
          abel
        exact (keeps_erase (not_inUse hs hc howned)).trans (register_keeps (hn.forget old) hcs)
  · refine h.renamed ?_ (by rw [hinput]) (by rw [htoInput, heff, List.append_nil])
      (by rw [htoConfig])
    have htable : t.table = cs.callbacks := by rw [table, hconfig]
    rw [htable]
    exact register_keeps hn hcs

theorem Shows.configMessage {message : ConfigMessage} {queue : List ConfigMessage}
    {config : ConfigState M} {effects : List Effect} {result : Except (ConfigError M) Unit}
    (h : s.Shows plan done) (hs : s.book.Sound) (hc : s.CallsCovered)
    (hqueue : s.toConfig = message :: queue)
    (hhandle : s.config.handleMessage I message = .ok (config, effects, result))
    (hconfig : t.config = config) (hinput : t.input = s.input)
    (htoInput : t.toInput = s.toInput ++ inputMessages effects)
    (htoConfig : t.toConfig = queue) :
    t.Shows plan (done ++ s.calls .configMessage) := by
  obtain ⟨heff, hafter, -⟩ := ConfigState.handleMessage_eq_ok hhandle
  have hmappings : t.toInput.filterMap asMapping = s.toInput.filterMap asMapping := by
    rw [htoInput, heff, List.append_nil]
  cases message with
  | runCallback r =>
      obtain ⟨pending, hasked, hnames⟩ := h.asked
      rw [hqueue] at hnames
      obtain ⟨f, rest, hname, hrest, rfl⟩ := List.forall₂_cons_left_iff.mp hnames
      have hcalls : s.calls .configMessage = [f] := by
        simp only [calls, hqueue, List.head?_cons, Option.bind_some, calledRef]
        rw [show s.table.lookup r = some f from hname]
        rfl
      have hsame : s.table = t.table := by rw [table, table, hconfig, hafter.1]
      refine ⟨?_, ?_, rest, ?_, ?_⟩
      · rw [hmappings, ← hsame]
        exact h.coming
      · rw [hinput, ← hsame]
        exact h.keys
      · rw [hcalls, ← hasked, List.append_assoc, List.singleton_append]
      · rw [htoConfig, ← hsame]
        exact hrest
  | forgetCallback r =>
      rw [show s.calls .configMessage = [] by simp [calls, hqueue, calledRef], List.append_nil]
      have hcovered : Link.CallsCovered { s with toConfig := queue } := by
        rw [CallsCovered, hqueue] at hc
        exact hc.tail
      have howned : s.owned = r ::ₘ (Link.travelling { s with toConfig := queue } +
          ((s.config.onStartup.toList : List CallbackRef) +
            (s.config.onConnectorChange.toList : List CallbackRef))) := by
        simp only [owned, travelling, hqueue, List.filterMap_cons, forgottenRef,
          ← Multiset.cons_coe, ← Multiset.singleton_add]
        abel
      have hcalled : queue.filterMap calledRef = s.toConfig.filterMap calledRef := by
        rw [hqueue]
        rfl
      have hqueued : Link.Shows { s with toConfig := queue } plan done :=
        h.same rfl rfl rfl hcalled
      refine hqueued.renamed ?_ (by rw [hinput]) hmappings (by rw [htoConfig])
      rw [show t.table = s.table.erase r by rw [table, hconfig, hafter]; rfl]
      exact keeps_erase (not_inUse hs hcovered howned)
  | shutdown | startup | connectorChange | extraEnv | spawn =>
      rw [show s.calls .configMessage = [] by simp [calls, hqueue, calledRef], List.append_nil]
      refine h.same (by rw [hconfig, hafter.1]) (by rw [hinput]) hmappings ?_
      rw [htoConfig, hqueue]
      rfl

theorem bindKey_rel {keymaps : Keymaps} {keys : Mods → Keysym → Option M.Function}
    {m : HashMap CallbackRef M.Function} {mods : Mods} {key : Keysym}
    (h : ∀ mods key, Option.Rel (Names m) (keymaps.bound mods key) (keys mods key))
    (hname : Names m r callback) (mods' : Mods) (key' : Keysym) :
    Option.Rel (Names m) ((keymaps.bind mods key r).1.bound mods' key')
      (KeyPlan.bindKey keys callback (some (mods, key)) mods' key') := by
  rw [Keymaps.bound_bind]
  show Option.Rel (Names m) _ (if _ then _ else _)
  split
  · exact .some hname
  · exact h mods' key'

theorem Shows.inputMessage {opened : Option Nat} {message : InputMessage}
    {queue : List InputMessage} (h : s.Shows plan done)
    (hqueue : s.toInput = message :: queue) (hconfig : t.config = s.config)
    (hinput : t.input = (s.input.handleMessage opened message).1) (htoInput : t.toInput = queue)
    (htoConfig : t.toConfig =
      s.toConfig ++ configMessages (s.input.handleMessage opened message).2) :
    t.Shows ((s.changes (.inputMessage opened)).foldl (KeyPlan.next X.tables) plan) done := by
  have hsame : t.table = s.table := by rw [table, table, hconfig]
  cases message with
  | shutdown =>
      simp only [changes, hqueue, List.head?_cons, Option.bind_some, asMapping,
        Option.toList_none, List.map_nil, List.foldl_nil]
      refine h.same (by rw [hconfig]) (by rw [hinput]; rfl) ?_ ?_
      · rw [htoInput, hqueue]
        rfl
      · rw [htoConfig, List.filterMap_append]
        exact List.append_nil _
  | openFileInSessionForRenderer path =>
      simp only [changes, hqueue, List.head?_cons, Option.bind_some, asMapping,
        Option.toList_none, List.map_nil, List.foldl_nil]
      have hnone : configMessages (s.input.handleMessage opened
          (.openFileInSessionForRenderer path)).2 = [] := by
        cases opened <;> rfl
      refine h.same (by rw [hconfig]) (by rw [hinput]; rfl) ?_ ?_
      · rw [htoInput, hqueue]
        rfl
      · rw [htoConfig, hnone, List.append_nil]
  | keymap keyName mods r =>
      have hcoming := h.coming
      rw [hqueue] at hcoming
      obtain ⟨⟨⟨name, mods'⟩, f⟩, rest, ⟨htag, hname⟩, hrest, hplan⟩ :=
        List.forall₂_cons_left_iff.mp hcoming
      cases htag
      simp only [changes, hqueue, List.head?_cons, Option.bind_some, asMapping,
        Option.toList_some, List.map_cons, List.map_nil, List.foldl_cons, List.foldl_nil,
        KeyPlan.next, hplan]
      rw [InputState.handleMessage] at hinput htoConfig
      cases hkey : resolveKey X.tables keyName mods with
      | none =>
          rw [InputState.keymap_rejected hkey] at hinput htoConfig
          refine ⟨?_, ?_, ?_⟩
          · rw [htoInput, hsame]
            exact hrest
          · rw [hinput, hsame]
            exact h.keys
          · rw [htoConfig, hsame, configMessages, List.filterMap_nil, List.append_nil]
            exact h.asked
      | some binding =>
          obtain ⟨mods', key⟩ := binding
          obtain ⟨hkeymaps, hback⟩ := s.input.keymap_accepted r hkey
          have hforgets : ((s.input.keymaps.bound mods' key).toList.map
              ConfigMessage.forgetCallback).filterMap calledRef = [] := by
            cases s.input.keymaps.bound mods' key <;> rfl
          refine ⟨?_, ?_, ?_⟩
          · rw [htoInput, hsame]
            exact hrest
          · rw [hinput, hkeymaps, hsame]
            exact bindKey_rel h.keys hname
          · rw [htoConfig, hback, List.filterMap_append, hforgets, List.append_nil, hsame]
            exact h.asked

/-- A key event asks for the function of its key. -/
theorem Shows.key {event : KeyEvent} (h : s.Shows plan done) (hconfig : t.config = s.config)
    (hinput : t.input = (s.input.handleKeyboardEvent event).1) (htoInput : t.toInput = s.toInput)
    (htoConfig : t.toConfig =
      s.toConfig ++ configMessages (s.input.handleKeyboardEvent event).2) :
    t.Shows ((s.changes (.key event)).foldl (KeyPlan.next X.tables) plan) done := by
  have hsame : t.table = s.table := by rw [table, table, hconfig]
  have hcalls : ((s.input.shortcut event).toList.map ConfigMessage.runCallback).filterMap
      calledRef = (s.input.shortcut event).toList := by
    cases s.input.shortcut event <;> rfl
  obtain ⟨pending, hasked, hnames⟩ := h.asked
  refine ⟨?_, ?_, pending ++
    (plan.keys (s.input.modifiersOf event).mods (s.input.keysymOf event)).toList, ?_, ?_⟩
  · rw [htoInput, hsame]
    exact h.coming
  · rw [hinput, InputState.keymaps_handleKeyboardEvent, hsame]
    exact h.keys
  · rw [← List.append_assoc, hasked]
    rfl
  · rw [htoConfig, InputState.configMessages_handleKeyboardEvent, List.filterMap_append, hsame,
      hcalls]
    exact List.rel_append hnames (forall₂_toList (h.keys _ _))

theorem Step.shows (hstep : Step I overflowChecks s action t) (h : s.Shows plan done)
    (hn : Numbered s.issued s.config.callbackState) (hs : s.book.Sound) (hc : s.CallsCovered) :
    t.Shows ((s.changes action).foldl (KeyPlan.next X.tables) plan) (done ++ s.calls action) := by
  cases hstep with
  | defaultKeymap hbooting hp hmap =>
      obtain ⟨cs, r, hcs, rfl, hsent⟩ := ConfigState.mapKey_eq_ok hmap
      simp only [changes, hbooting, List.head?_cons, Option.toList_some, List.map_cons,
        List.map_nil, List.foldl_cons, List.foldl_nil, calls, List.append_nil]
      exact h.maps hn hcs rfl rfl (by rw [inputMessages_sendOn_input hp hsent])
  | userConfig _ hexec =>
      show Link.Shows _ _ (done ++ [])
      rw [List.append_nil]
      exact h.same (ConfigState.execConfig_eq_ok hexec).1 rfl rfl rfl
  | fileChanged _ hchanged =>
      show Link.Shows _ _ (done ++ [])
      rw [List.append_nil]
      exact h.same (ConfigState.configChanged_eq_ok hchanged).1 rfl rfl rfl
  | idle _ hidles hp hexec =>
      show Link.Shows _ _ (done ++ [])
      rw [List.append_nil, changes, hidles]
      exact h.idle hn hs hc hp hexec rfl rfl rfl rfl
  | configMessage _ hqueue hhandle =>
      exact h.configMessage hs hc hqueue hhandle rfl rfl rfl rfl
  | inputMessage hqueue =>
      show Link.Shows _ _ (done ++ [])
      rw [List.append_nil]
      exact h.inputMessage hqueue rfl rfl rfl rfl
  | key =>
      show Link.Shows _ _ (done ++ [])
      rw [List.append_nil]
      exact h.key rfl rfl rfl rfl
  | toConfig hcalled _ =>
      show Link.Shows _ _ (done ++ [])
      rw [List.append_nil]
      refine h.same rfl rfl rfl ?_
      rw [List.filterMap_append, List.filterMap_cons_none hcalled]
      exact List.append_nil _
  | toInput hmapped =>
      rename_i message
      show Link.Shows _ _ (done ++ [])
      rw [List.append_nil]
      refine h.same rfl rfl ?_ rfl
      rw [mappedRef_eq, Option.map_eq_none_iff] at hmapped
      rw [List.filterMap_append, List.filterMap_cons_none hmapped]
      exact List.append_nil _

/-! ## Over a run -/

theorem Starts.shows (h : Starts I s) : s.Shows .empty [] := by
  obtain ⟨keymaps, xkbState, -, rfl⟩ := h
  exact ⟨.nil, fun _ _ => .none, [], rfl, .nil⟩

end Link

end Scape.Config
