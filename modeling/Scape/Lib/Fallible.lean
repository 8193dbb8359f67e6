import Mathlib.Logic.Basic
import Scape.Lib.Machine

/-!
# How a computation ends that may fail

Three things are asked of a computation that ends with a value or an error. `Avoids`
says which errors it does not end with, and `Ensures` what holds of its value if it
ends with one; both say nothing about the other outcome. `Succeeds` says that it ends
with a value. All three go through `>>=`.

`expect` is the usual way to get an error: a value that is not there.

A step function that may fail makes a system, and a sequence of inputs a run. The run
avoids an error exactly when each of the steps does that it gets to.
-/

namespace Fallible

variable {ε α β : Type*}

def expect (e : ε) : Option α → Except ε α
  | some a => .ok a
  | none => .error e

def Avoids (P : ε → Prop) (x : Except ε α) : Prop := ∀ e, x = .error e → ¬ P e

def Ensures (Q : α → Prop) (x : Except ε α) : Prop := ∀ a, x = .ok a → Q a

def Succeeds (x : Except ε α) : Prop := ∃ a, x = .ok a

variable {P : ε → Prop} {Q Q' : α → Prop} {a : α} {e : ε} {o : Option α} {x : Except ε α}

@[simp] theorem expect_some : expect e (some a) = .ok a := rfl

@[simp] theorem expect_none : expect e (none : Option α) = .error e := rfl

theorem expect_eq_ok_iff : expect e o = .ok a ↔ o = some a := by
  cases o <;> simp [expect]

theorem bind_eq_ok_iff {α β : Type _} {x : Except ε α} {f : α → Except ε β} {b : β} :
    x >>= f = .ok b ↔ ∃ a, x = .ok a ∧ f a = .ok b := by
  cases x with
  | error e => exact iff_of_false nofun fun ⟨_, h, _⟩ => nomatch h
  | ok a =>
      simp only [Except.ok.injEq, exists_eq_left']
      rfl

@[simp, grind ←] theorem avoids_ok : Avoids P (.ok a : Except ε α) := fun _ h => by cases h

@[simp, grind ←] theorem avoids_pure : Avoids P (pure a : Except ε α) := fun _ h => by cases h

@[simp, grind =] theorem avoids_error : Avoids P (.error e : Except ε α) ↔ ¬ P e :=
  ⟨fun h => h e rfl, fun h e' he => by cases he; exact h⟩

@[simp, grind =] theorem avoids_expect : Avoids P (expect e o) ↔ (P e → o.isSome) := by
  cases o <;> simp

@[grind =] theorem avoids_bind {α β : Type _} {x : Except ε α} {f : α → Except ε β} :
    Avoids P (x >>= f) ↔ Avoids P x ∧ ∀ a, x = .ok a → Avoids P (f a) := by
  cases x with
  | error e =>
      simp only [avoids_error, reduceCtorEq, false_implies, implies_true, and_true]
      exact avoids_error
  | ok a =>
      simp only [avoids_ok, Except.ok.injEq, forall_eq', true_and]
      rfl

/-- What is expected is there, or its absence is none of the errors. -/
theorem avoids_expect_bind {α β : Type _} {o : Option α} {f : α → Except ε β} :
    Avoids P (expect e o >>= f) ↔ (P e → o.isSome) ∧ ∀ a, o = some a → Avoids P (f a) := by
  simp only [avoids_bind, avoids_expect, expect_eq_ok_iff]

theorem Ensures.mono (h : Ensures Q x) (hle : ∀ a, Q a → Q' a) : Ensures Q' x :=
  fun a ha => hle a (h a ha)

@[simp] theorem ensures_ok : Ensures Q (.ok a : Except ε α) ↔ Q a :=
  ⟨fun h => h a rfl, fun h a' ha => by cases ha; exact h⟩

@[simp] theorem ensures_pure : Ensures Q (pure a : Except ε α) ↔ Q a := ensures_ok

@[simp] theorem ensures_error : Ensures Q (.error e : Except ε α) := fun _ h => by cases h

theorem ensures_bind {α β : Type _} {x : Except ε α} {f : α → Except ε β} {Q : β → Prop} :
    Ensures Q (x >>= f) ↔ ∀ a, x = .ok a → Ensures Q (f a) := by
  cases x with
  | error e =>
      simp only [reduceCtorEq, false_implies, implies_true, iff_true]
      exact ensures_error
  | ok a =>
      simp only [Except.ok.injEq, forall_eq']
      rfl

theorem ensures_expect_bind {α β : Type _} {o : Option α} {f : α → Except ε β}
    {Q : β → Prop} : Ensures Q (expect e o >>= f) ↔ ∀ a, o = some a → Ensures Q (f a) := by
  simp only [ensures_bind, expect_eq_ok_iff]

@[simp] theorem succeeds_ok : Succeeds (.ok a : Except ε α) := ⟨a, rfl⟩

@[simp] theorem succeeds_pure : Succeeds (pure a : Except ε α) := ⟨a, rfl⟩

@[simp] theorem not_succeeds_error : ¬ Succeeds (.error e : Except ε α) := nofun

theorem Succeeds.avoids (h : Succeeds x) : Avoids P x := by
  obtain ⟨a, rfl⟩ := h
  exact avoids_ok

theorem succeeds_bind {α β : Type _} {x : Except ε α} {f : α → Except ε β} :
    Succeeds (x >>= f) ↔ ∃ a, x = .ok a ∧ Succeeds (f a) := by
  cases x with
  | error e => exact iff_of_false nofun (by simp)
  | ok a =>
      simp only [Except.ok.injEq, exists_eq_left']
      rfl

theorem succeeds_expect_bind {α β : Type _} {o : Option α} {f : α → Except ε β} :
    Succeeds (expect e o >>= f) ↔ ∃ a, o = some a ∧ Succeeds (f a) := by
  simp only [succeeds_bind, expect_eq_ok_iff]

/-! ## Every item of a list -/

/-- A traversal for the effects alone. -/
theorem succeeds_forM {α : Type} {f : α → Except ε Unit} {items : List α} :
    Succeeds (items.forM f) ↔ ∀ item ∈ items, Succeeds (f item) := by
  induction items with
  | nil => simp
  | cons item items ih =>
      show Succeeds (f item >>= fun _ => items.forM f) ↔ _
      rw [succeeds_bind, List.forall_mem_cons, ih]
      exact exists_and_right

theorem mapM_eq_ok {α β : Type _} {f : α → Except ε β} {l : List α} {bs : List β}
    (h : l.mapM f = .ok bs) : ∀ a ∈ l, ∃ b, f a = .ok b := by
  induction l generalizing bs with
  | nil => exact fun _ ha => by cases ha
  | cons a l ih =>
      rw [List.mapM_cons, bind_eq_ok_iff] at h
      obtain ⟨b, hb, hrest⟩ := h
      obtain ⟨bs', hbs', -⟩ := bind_eq_ok_iff.mp hrest
      exact List.forall_mem_cons.mpr ⟨⟨b, hb⟩, ih hbs'⟩

theorem mapM_of_forall {α β : Type _} {f : α → Except ε β} {g : α → β} {l : List α}
    (h : ∀ a ∈ l, f a = .ok (g a)) : l.mapM f = .ok (l.map g) := by
  induction l with
  | nil => rfl
  | cons a l ih =>
      obtain ⟨ha, hl⟩ := List.forall_mem_cons.mp h
      rw [List.mapM_cons, ha, ih hl]
      rfl

/-! ## Runs -/

variable {σ ι : Type*} {f : σ → ι → Except ε σ}

/-- A step that fails leads nowhere. -/
def system (init : σ → Prop) (f : σ → ι → Except ε σ) : Machine.System σ ι where
  init := init
  step s i t := f s i = .ok t

def run (f : σ → ι → Except ε σ) (s : σ) : List ι → Except ε σ
  | [] => .ok s
  | i :: is =>
      match f s i with
      | .ok t => run f t is
      | .error e => .error e

/-- The steps of a run, each input with the state it comes in. If one fails, it is the
last. -/
def steps (f : σ → ι → Except ε σ) (s : σ) : List ι → List (σ × ι)
  | [] => []
  | i :: is =>
      match f s i with
      | .ok t => (s, i) :: steps f t is
      | .error _ => [(s, i)]

/-- The states a run passes through, the first and the last among them. -/
def states (f : σ → ι → Except ε σ) (s : σ) : List ι → List σ
  | [] => [s]
  | i :: is =>
      match f s i with
      | .ok t => s :: states f t is
      | .error _ => [s]

theorem avoids_run_iff {s : σ} {is : List ι} :
    Avoids P (run f s is) ↔ ∀ p ∈ steps f s is, Avoids P (f p.1 p.2) := by
  induction is generalizing s with
  | nil => simp [run, steps]
  | cons i is ih =>
      unfold run steps
      cases hf : f s i with
      | ok t => simp only [ih, List.forall_mem_cons, hf, avoids_ok, true_and]
      | error e => simp only [List.forall_mem_singleton, hf]

theorem run_cons_eq_ok_iff {s t : σ} {i : ι} {is : List ι} :
    run f s (i :: is) = .ok t ↔ ∃ u, f s i = .ok u ∧ run f u is = .ok t := by
  rw [run]
  cases hf : f s i with
  | ok u => simp
  | error e => simp

theorem steps_cons_of_ok {s u : σ} {i : ι} (h : f s i = .ok u) (is : List ι) :
    steps f s (i :: is) = (s, i) :: steps f u is := by
  rw [steps, h]

theorem steps_singleton (f : σ → ι → Except ε σ) (s : σ) (i : ι) : steps f s [i] = [(s, i)] := by
  rw [steps]
  split <;> rfl

theorem head_mem_states (f : σ → ι → Except ε σ) (s : σ) (is : List ι) : s ∈ states f s is := by
  cases is with
  | nil => exact List.mem_cons_self
  | cons i is =>
      rw [states]
      split <;> exact List.mem_cons_self

/-- Where it is known which steps keep an invariant, a run keeps it throughout exactly when
it takes no other steps. A step that fails breaks nothing. -/
theorem forall_states_iff {I : σ → Prop} {ok : σ → ι → Prop}
    (hstep : ∀ s i t, I s → f s i = .ok t → (I t ↔ ok s i))
    (hfails : ∀ s i e, f s i = .error e → ok s i) {is : List ι} :
    ∀ {s : σ}, I s → ((∀ t ∈ states f s is, I t) ↔ ∀ p ∈ steps f s is, ok p.1 p.2) := by
  induction is with
  | nil =>
      intro s hs
      simp [states, steps, hs]
  | cons i is ih =>
      intro s hs
      rw [states, steps]
      cases hf : f s i with
      | error e => simp [hs, hfails s i e hf]
      | ok u =>
          show (∀ t ∈ s :: states f u is, I t) ↔ ∀ p ∈ (s, i) :: steps f u is, _
          rw [List.forall_mem_cons, List.forall_mem_cons]
          constructor
          · intro h
            have hu : I u := h.2 _ (head_mem_states f u is)
            exact ⟨(hstep s i u hs hf).mp hu, (ih hu).mp h.2⟩
          · intro h
            have hu : I u := (hstep s i u hs hf).mpr h.1
            exact ⟨hs, (ih hu).mpr h.2⟩

/-- Where two conditions on a step agree under an invariant that good steps keep, they
agree on a run. -/
theorem forall_steps_iff {I : σ → Prop} {right ok : σ → ι → Prop}
    (hsame : ∀ s i, I s → (right s i ↔ ok s i))
    (hkeep : ∀ s i t, I s → ok s i → f s i = .ok t → I t) {is : List ι} :
    ∀ {s : σ}, I s →
      ((∀ p ∈ steps f s is, right p.1 p.2) ↔ ∀ p ∈ steps f s is, ok p.1 p.2) := by
  induction is with
  | nil =>
      intro s _
      simp [steps]
  | cons i is ih =>
      intro s hs
      rw [steps]
      cases hf : f s i with
      | error e => simp [hsame s i hs]
      | ok u =>
          show (∀ p ∈ (s, i) :: steps f u is, _) ↔ ∀ p ∈ (s, i) :: steps f u is, _
          rw [List.forall_mem_cons, List.forall_mem_cons, hsame s i hs]
          exact and_congr_right fun hok => ih (hkeep s i u hs hok hf)

/-- What every step keeps, for the inputs of a kind, is kept by a run of such inputs. -/
theorem run_invariant {I : σ → Prop} {ok : ι → Prop}
    (hstep : ∀ {s u i}, I s → ok i → f s i = .ok u → I u) {s t : σ} {is : List ι}
    (hs : I s) (hok : ∀ i ∈ is, ok i) (h : run f s is = .ok t) : I t := by
  induction is generalizing s with
  | nil =>
      cases h
      exact hs
  | cons i is ih =>
      obtain ⟨hi, his⟩ := List.forall_mem_cons.mp hok
      obtain ⟨u, hu, hrest⟩ := run_cons_eq_ok_iff.mp h
      exact ih (hstep hs hi hu) his hrest

/-- A run simulates what its steps simulate. -/
theorem run_simulates {τ : Type*} {g : τ → ι → τ} {R : σ → τ → Prop}
    (hstep : ∀ {s u t i}, R s t → f s i = .ok u → R u (g t i)) {is : List ι} :
    ∀ {s u : σ} {t : τ}, R s t → run f s is = .ok u → R u (is.foldl g t) := by
  induction is with
  | nil =>
      intro s u t h hrun
      cases hrun
      exact h
  | cons i is ih =>
      intro s u t h hrun
      obtain ⟨v, hv, hrest⟩ := run_cons_eq_ok_iff.mp hrun
      rw [List.foldl_cons]
      exact ih (hstep h hv) hrest

/-- A run that fails nowhere leads to a state that is reachable, under any guard that
admits its steps. -/
theorem reachableUnder_run {init : σ → Prop} {ok : σ → ι → Prop} {s t : σ} {is : List ι}
    (hs : Machine.ReachableUnder (system init f) ok s)
    (hok : ∀ p ∈ steps f s is, ok p.1 p.2) (h : run f s is = .ok t) :
    Machine.ReachableUnder (system init f) ok t := by
  induction is generalizing s with
  | nil =>
      cases h
      exact hs
  | cons i is ih =>
      obtain ⟨u, hu, hrest⟩ := run_cons_eq_ok_iff.mp h
      rw [steps_cons_of_ok hu, List.forall_mem_cons] at hok
      exact ih (.step hs hok.1 hu) hok.2 hrest

theorem run_append_eq_ok_iff {s t : σ} {is js : List ι} :
    run f s (is ++ js) = .ok t ↔ ∃ u, run f s is = .ok u ∧ run f u js = .ok t := by
  induction is generalizing s with
  | nil =>
      constructor
      · intro h
        exact ⟨s, rfl, h⟩
      · intro h
        obtain ⟨u, hu, ht⟩ := h
        cases hu
        exact ht
  | cons i is ih =>
      rw [List.cons_append, run_cons_eq_ok_iff]
      constructor
      · intro h
        obtain ⟨v, hv, hrest⟩ := h
        obtain ⟨u, hu, ht⟩ := ih.mp hrest
        exact ⟨u, run_cons_eq_ok_iff.mpr ⟨v, hv, hu⟩, ht⟩
      · intro h
        obtain ⟨u, hu, ht⟩ := h
        obtain ⟨v, hv, hrest⟩ := run_cons_eq_ok_iff.mp hu
        exact ⟨v, hv, ih.mpr ⟨u, hrest, ht⟩⟩

/-- A run that goes on after one that fails nowhere. -/
theorem run_append {s t : σ} {is js : List ι} (h : run f s is = .ok t) :
    run f s (is ++ js) = run f t js := by
  induction is generalizing s with
  | nil =>
      cases h
      rfl
  | cons i is ih =>
      obtain ⟨u, hu, hrest⟩ := run_cons_eq_ok_iff.mp h
      rw [List.cons_append, run, hu]
      exact ih hrest

/-- The steps of a run that goes on after one that fails nowhere. -/
theorem steps_append {s t : σ} {is js : List ι} (h : run f s is = .ok t) :
    steps f s (is ++ js) = steps f s is ++ steps f t js := by
  induction is generalizing s with
  | nil =>
      cases h
      rfl
  | cons i is ih =>
      obtain ⟨u, hu, hrest⟩ := run_cons_eq_ok_iff.mp h
      rw [List.cons_append, steps_cons_of_ok hu, steps_cons_of_ok hu, ih hrest,
        List.cons_append]

/-- A run that fails nowhere is one of a system that allows its steps. -/
theorem run_steps_of {S : Machine.System σ ι} {s t : σ} {is : List ι} {trace : List (σ × ι)}
    (hs : Machine.Run S trace s)
    (hstep : ∀ p ∈ steps f s is, ∀ u, f p.1 p.2 = .ok u → S.step p.1 p.2 u)
    (h : run f s is = .ok t) : Machine.Run S (trace ++ steps f s is) t := by
  induction is generalizing s trace with
  | nil =>
      cases h
      rw [steps, List.append_nil]
      exact hs
  | cons i is ih =>
      obtain ⟨u, hu, hrest⟩ := run_cons_eq_ok_iff.mp h
      rw [steps_cons_of_ok hu] at hstep ⊢
      obtain ⟨hfirst, hlater⟩ := List.forall_mem_cons.mp hstep
      have hrun := ih (hs.step (hfirst u hu)) hlater hrest
      rwa [List.append_assoc] at hrun

theorem run_steps {init : σ → Prop} {s t : σ} {is : List ι} {trace : List (σ × ι)}
    (hs : Machine.Run (system init f) trace s) (h : run f s is = .ok t) :
    Machine.Run (system init f) (trace ++ steps f s is) t :=
  run_steps_of hs (fun _ _ _ hstep => hstep) h

/-- Every step of a run begins in a state that is reachable. -/
theorem reachable_of_mem_steps {init : σ → Prop} {s : σ} {is : List ι} {p : σ × ι}
    (hs : Machine.Reachable (system init f) s) (h : p ∈ steps f s is) :
    Machine.Reachable (system init f) p.1 ∧ p.2 ∈ is := by
  induction is generalizing s with
  | nil => cases h
  | cons i is ih =>
      rw [steps] at h
      cases hf : f s i with
      | ok t =>
          rw [hf] at h
          rcases List.mem_cons.mp h with rfl | hrest
          · exact ⟨hs, List.mem_cons_self ..⟩
          · obtain ⟨hreach, hmem⟩ := ih (hs.next hf) hrest
            exact ⟨hreach, List.mem_cons_of_mem _ hmem⟩
      | error e =>
          rw [hf, List.mem_singleton] at h
          subst h
          exact ⟨hs, List.mem_cons_self ..⟩

end Fallible
