import Mathlib.Data.List.Basic

/-!
# Guarded transition systems and transducers

Two shapes of program recur in an event-driven system. A group of threads that
share channels is a relation: from one state several things may happen next,
and a safety claim is about every state any order of them reaches. A single
handler is a function: it takes its state and an input and answers a new state
with some output, and a claim about it is a claim about the outputs of a whole
input sequence.

`System` is the first. Reachability carries a guard on the steps, because the
useful statement about a system that goes wrong is about the runs that avoid
the wrong step; the unguarded notion is the guard that admits everything.

`runFrom` is the second. Its `steps` pair every input with the state it is
handled in, so that a condition on a run is a condition on each of its steps.
-/

namespace Machine

variable {σ ι ω : Type*}

/-- A labelled transition system: where runs may start, and which step each
label allows. -/
structure System (σ ι : Type*) where
  init : σ → Prop
  step : σ → ι → σ → Prop

/-- The states that runs reach when every step of the run is one the guard
admits in the state it is taken from. -/
inductive ReachableUnder (S : System σ ι) (ok : σ → ι → Prop) : σ → Prop
  | init {s : σ} : S.init s → ReachableUnder S ok s
  | step {s t : σ} {i : ι} :
      ReachableUnder S ok s → ok s i → S.step s i t → ReachableUnder S ok t

def Reachable (S : System σ ι) : σ → Prop :=
  ReachableUnder S fun _ _ => True

namespace ReachableUnder

variable {S : System σ ι} {ok ok' : σ → ι → Prop} {I : σ → Prop}

/-- The induction rule: what holds initially and survives every admitted step
holds of every state reached. -/
theorem invariant (hinit : ∀ s, S.init s → I s)
    (hstep : ∀ s i t, I s → ok s i → S.step s i t → I t) {s : σ}
    (h : ReachableUnder S ok s) : I s := by
  induction h with
  | init h => exact hinit _ h
  | step _ hok hst ih => exact hstep _ _ _ ih hok hst

theorem invariant_using {J : σ → Prop} (hJ : ∀ s, ReachableUnder S ok s → J s)
    (hinit : ∀ s, S.init s → I s)
    (hstep : ∀ s i t, J s → I s → ok s i → S.step s i t → I t) {s : σ}
    (h : ReachableUnder S ok s) : I s := by
  induction h with
  | init h => exact hinit _ h
  | step hr hok hst ih => exact hstep _ _ _ (hJ _ hr) ih hok hst

theorem mono (hle : ∀ s i, ok s i → ok' s i) {s : σ}
    (h : ReachableUnder S ok s) : ReachableUnder S ok' s := by
  induction h with
  | init h => exact .init h
  | step _ hok hst ih => exact .step ih (hle _ _ hok) hst

theorem reachable {s : σ} (h : ReachableUnder S ok s) : Reachable S s :=
  mono (fun _ _ _ => trivial) h

end ReachableUnder

theorem Reachable.next {S : System σ ι} {s t : σ} {i : ι}
    (h : Reachable S s) (hst : S.step s i t) : Reachable S t :=
  ReachableUnder.step h trivial hst

/-- The same steps, from one state on. -/
def System.onwards (S : System σ ι) (s : σ) : System σ ι := { S with init := (· = s) }

theorem Reachable.trans {S : System σ ι} {s t : σ} (h : Reachable S s)
    (ht : Reachable (S.onwards s) t) : Reachable S t :=
  ReachableUnder.invariant (S := S.onwards s) (I := Reachable S)
    (fun u hu => by rw [show u = s from hu]; exact h)
    (fun _ _ _ hu _ hst => hu.next hst) ht

/-- A run, by its steps: each label with the state it is taken from, oldest
first. -/
inductive Run (S : System σ ι) : List (σ × ι) → σ → Prop
  | init {s : σ} : S.init s → Run S [] s
  | step {trace : List (σ × ι)} {s t : σ} {i : ι} :
      Run S trace s → S.step s i t → Run S (trace ++ [(s, i)]) t

theorem Run.reachableUnder {S : System σ ι} {ok : σ → ι → Prop}
    {trace : List (σ × ι)} {s : σ} (h : Run S trace s)
    (hok : ∀ p ∈ trace, ok p.1 p.2) : ReachableUnder S ok s := by
  induction h with
  | init h => exact .init h
  | step _ hst ih =>
      refine .step (ih fun p hp => hok p (List.mem_append_left _ hp)) ?_ hst
      exact hok _ (List.mem_append_right _ (List.mem_singleton_self _))

theorem Run.reachable {S : System σ ι} {trace : List (σ × ι)} {s : σ}
    (h : Run S trace s) : Reachable S s :=
  h.reachableUnder fun _ _ => trivial

/-- Every step of a run is one of the system, from a state that is reached. -/
theorem Run.step_of_mem {S : System σ ι} {trace : List (σ × ι)} {s : σ} (h : Run S trace s) :
    ∀ p ∈ trace, Reachable S p.1 ∧ ∃ t, S.step p.1 p.2 t := by
  induction h with
  | init h => exact nofun
  | step hrun hst ih =>
      intro p hp
      rcases List.mem_append.mp hp with hold | hlast
      · exact ih p hold
      · obtain rfl := List.mem_singleton.mp hlast
        exact ⟨hrun.reachable, _, hst⟩

/-- Where every step hands on the first of what is held, or takes in more at the end, nothing
is lost or overtaken in a run. -/
theorem Run.conserves {α : Type*} {S : System σ ι} {ok : σ → ι → Prop} {held : σ → List α}
    {gives takes : σ → ι → List α} {before : List α} (hinit : ∀ s, S.init s → held s = before)
    (hstep : ∀ s i t, ReachableUnder S ok s → ok s i → S.step s i t →
      gives s i ++ held t = held s ++ takes s i)
    {trace : List (σ × ι)} {s : σ} (h : Run S trace s) (hok : ∀ p ∈ trace, ok p.1 p.2) :
    trace.flatMap (fun p => gives p.1 p.2) ++ held s =
      before ++ trace.flatMap fun p => takes p.1 p.2 := by
  induction h with
  | init hs => exact (hinit _ hs).trans (List.append_nil _).symm
  | @step trace s t i hrun hst ih =>
      rw [List.forall_mem_append, List.forall_mem_singleton] at hok
      have hlast := hstep s i t (hrun.reachableUnder hok.1) hok.2 hst
      rw [List.flatMap_append, List.flatMap_append, List.flatMap_singleton,
        List.flatMap_singleton, List.append_assoc, hlast, ← List.append_assoc, ih hok.1,
        List.append_assoc]

/-- Follows labels through a step function, which says `none` where a label
allows no step. -/
def follow (next : σ → ι → Option σ) (s : σ) : List ι → Option σ
  | [] => some s
  | i :: is => (next s i).bind fun t => follow next t is

/-- A step function that takes only admitted steps of the system stays in reachable
states. -/
theorem ReachableUnder.follow {S : System σ ι} {ok : σ → ι → Prop} {next : σ → ι → Option σ}
    (hnext : ∀ s i t, next s i = some t → ok s i ∧ S.step s i t) {is : List ι} :
    ∀ {s t : σ}, ReachableUnder S ok s → follow next s is = some t →
      ReachableUnder S ok t := by
  induction is with
  | nil =>
      intro s t h ht
      cases ht
      exact h
  | cons i is ih =>
      intro s t h ht
      rw [Machine.follow, Option.bind_eq_some_iff] at ht
      obtain ⟨u, hu, hrest⟩ := ht
      obtain ⟨hok, hst⟩ := hnext s i u hu
      exact ih (.step h hok hst) hrest

theorem Reachable.follow {S : System σ ι} {next : σ → ι → Option σ}
    (hnext : ∀ s i t, next s i = some t → S.step s i t) {is : List ι} {s t : σ}
    (h : Reachable S s) (ht : follow next s is = some t) : Reachable S t :=
  ReachableUnder.follow (fun s i t hsome => ⟨trivial, hnext s i t hsome⟩) h ht

/-- A run whose labels a protocol allows keeps what each step keeps together with the state
of the protocol. -/
theorem follow_foldl {τ : Type*} {next : σ → ι → Option σ} {f : τ → ι → τ} {I : σ → τ → Prop}
    {ok : ι → Prop} (hstep : ∀ p p' t i, I p t → ok i → next p i = some p' → I p' (f t i))
    {is : List ι} :
    ∀ {p p' : σ} {t : τ}, I p t → (∀ i ∈ is, ok i) → follow next p is = some p' →
      I p' (is.foldl f t) := by
  induction is with
  | nil =>
      intro p p' t h _ hp
      cases hp
      exact h
  | cons i is ih =>
      intro p p' t h hok hp
      obtain ⟨hi, his⟩ := List.forall_mem_cons.mp hok
      rw [Machine.follow, Option.bind_eq_some_iff] at hp
      obtain ⟨q, hq, hrest⟩ := hp
      rw [List.foldl_cons]
      exact ih (hstep p q t i h hi hq) his hrest

/-! ## Transducers -/

/-- One handler over a sequence of inputs: the state it ends in, and the output
of each input in order. -/
def runFrom (f : σ → ι → σ × ω) (s : σ) : List ι → σ × List ω
  | [] => (s, [])
  | i :: is =>
      let (s', o) := f s i
      let (s'', os) := runFrom f s' is
      (s'', o :: os)

@[simp] theorem runFrom_cons (f : σ → ι → σ × ω) (s : σ) (i : ι) (is : List ι) :
    runFrom f s (i :: is) =
      ((runFrom f (f s i).1 is).1, (f s i).2 :: (runFrom f (f s i).1 is).2) := rfl

/-- The steps of a run: each input with the state it is handled in. -/
def steps (f : σ → ι → σ × ω) (s : σ) : List ι → List (σ × ι)
  | [] => []
  | i :: is => (s, i) :: steps f (f s i).1 is

@[simp] theorem steps_cons (f : σ → ι → σ × ω) (s : σ) (i : ι) (is : List ι) :
    steps f s (i :: is) = (s, i) :: steps f (f s i).1 is := rfl

/-- The states a run passes through, the first and the last among them. -/
def states (f : σ → ι → σ × ω) (s : σ) : List ι → List σ
  | [] => [s]
  | i :: is => s :: states f (f s i).1 is

@[simp] theorem states_cons (f : σ → ι → σ × ω) (s : σ) (i : ι) (is : List ι) :
    states f s (i :: is) = s :: states f (f s i).1 is := rfl

theorem head_mem_states (f : σ → ι → σ × ω) (s : σ) (is : List ι) :
    s ∈ states f s is := by
  cases is <;> exact List.mem_cons_self

/-- Where it is known which steps keep an invariant, a run keeps it throughout
exactly when it takes no other steps. -/
theorem forall_states_iff {f : σ → ι → σ × ω} {I : σ → Prop} {legal ok : σ → ι → Prop}
    (hstep : ∀ s i, I s → legal s i → (I (f s i).1 ↔ ok s i)) :
    ∀ {is : List ι} {s : σ}, I s → (∀ p ∈ steps f s is, legal p.1 p.2) →
      ((∀ t ∈ states f s is, I t) ↔ ∀ p ∈ steps f s is, ok p.1 p.2) := by
  intro is
  induction is with
  | nil =>
      intro s hs _
      simp [states, steps, hs]
  | cons i is ih =>
      intro s hs hlegal
      rw [steps_cons, List.forall_mem_cons] at hlegal
      rw [states_cons, steps_cons, List.forall_mem_cons, List.forall_mem_cons]
      show I s ∧ (∀ t ∈ states f (f s i).1 is, I t) ↔ ok s i ∧ _
      constructor
      · intro h
        have hnext : I (f s i).1 := h.2 _ (head_mem_states f _ is)
        exact ⟨(hstep s i hs hlegal.1).mp hnext, (ih hnext hlegal.2).mp h.2⟩
      · intro h
        have hnext : I (f s i).1 := (hstep s i hs hlegal.1).mpr h.1
        exact ⟨hs, (ih hnext hlegal.2).mpr h.2⟩

theorem runFrom_outputs (f : σ → ι → σ × ω) (s : σ) (is : List ι) :
    (runFrom f s is).2 = (steps f s is).map fun p => (f p.1 p.2).2 := by
  induction is generalizing s with
  | nil => rfl
  | cons i is ih => simp only [runFrom_cons, steps_cons, List.map_cons, ih]

/-- Where related states give the same output exactly on the good inputs, and stay
related on these, two runs have the same outputs exactly if all inputs of the second are
good. -/
theorem outputs_eq_iff {τ : Type*} {f : σ → ι → σ × ω} {g : τ → ι → τ × ω}
    {R : σ → τ → Prop} {ok : τ → ι → Prop}
    (hsame : ∀ s t i, R s t → ((f s i).2 = (g t i).2 ↔ ok t i))
    (hkeep : ∀ s t i, R s t → ok t i → R (f s i).1 (g t i).1) :
    ∀ {is : List ι} {s : σ} {t : τ}, R s t →
      ((runFrom f s is).2 = (runFrom g t is).2 ↔ ∀ p ∈ steps g t is, ok p.1 p.2) := by
  intro is
  induction is with
  | nil =>
      intro s t _
      simp [runFrom, steps]
  | cons i is ih =>
      intro s t hst
      rw [runFrom_cons, runFrom_cons, steps_cons, List.forall_mem_cons, List.cons.injEq,
        hsame s t i hst]
      exact and_congr_right fun hok => ih (hkeep s t i hst hok)

/-- A function of the outputs, computed step by step, is right for the whole
run exactly when it is right at every step. -/
theorem map_outputs_eq_iff {β : Type*} (f : σ → ι → σ × ω) (g : ω → β)
    (due : σ → ι → β) (s : σ) (is : List ι) :
    (runFrom f s is).2.map g = (steps f s is).map (fun p => due p.1 p.2) ↔
      ∀ p ∈ steps f s is, g (f p.1 p.2).2 = due p.1 p.2 := by
  rw [runFrom_outputs, List.map_map, List.map_inj_left]
  rfl

end Machine
