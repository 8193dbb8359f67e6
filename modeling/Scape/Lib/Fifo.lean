import Mathlib.Data.List.Basic

/-!
# Uses and revocations on one FIFO channel

One party holds names that a second party resolves. It sends `use` messages for
names it holds and a `revoke` message when it lets one go, and the second party
drops the name once the revocation arrives. With a single first-in-first-out
channel the two never get out of step, although either side may lag behind the
other: a use still in the queue is for a name that is held now, or its
revocation comes later in the same queue.

The messages of the channel are left open; two partial functions say which of
them use and which revoke a name.
-/

namespace Fifo

variable {μ ρ : Type*}

/-- Every queued use is of a held name, or ahead of that name's revocation. -/
def Covered (uses revokes : μ → Option ρ) (held : ρ → Prop) : List μ → Prop
  | [] => True
  | m :: queue =>
      (∀ r, uses m = some r → held r ∨ ∃ m' ∈ queue, revokes m' = some r) ∧
      Covered uses revokes held queue

variable {uses revokes : μ → Option ρ} {held held' : ρ → Prop} {queue : List μ}
  {m : μ} {r : ρ}

theorem Covered.head (h : Covered uses revokes held (m :: queue))
    (hu : uses m = some r) : held r ∨ ∃ m' ∈ queue, revokes m' = some r :=
  h.1 r hu

theorem Covered.tail (h : Covered uses revokes held (m :: queue)) :
    Covered uses revokes held queue := h.2

/-- Wherever in the queue the use is. -/
theorem Covered.of_mem (h : Covered uses revokes held queue) (hm : m ∈ queue)
    (hu : uses m = some r) : held r ∨ ∃ m' ∈ queue, revokes m' = some r := by
  induction queue with
  | nil => cases hm
  | cons m' queue ih =>
      have hlater : (∃ m'' ∈ queue, revokes m'' = some r) →
          ∃ m'' ∈ m' :: queue, revokes m'' = some r :=
        fun ⟨m'', hmem, hrev⟩ => ⟨m'', List.mem_cons_of_mem _ hmem, hrev⟩
      rcases List.mem_cons.mp hm with rfl | hm
      · exact (h.head hu).imp_right hlater
      · exact (ih h.tail hm).imp_right hlater

/-- A party may come to hold more. -/
theorem Covered.mono (h : Covered uses revokes held queue)
    (hle : ∀ r, held r → held' r) : Covered uses revokes held' queue := by
  induction queue with
  | nil => trivial
  | cons m queue ih =>
      exact ⟨fun r hu => (h.1 r hu).imp_left (hle r), ih h.2⟩

/-- A message may be sent if it revokes whatever its sender lets go of, and
uses only what its sender still holds. -/
theorem Covered.send (h : Covered uses revokes held queue)
    (hkept : ∀ r, held r → held' r ∨ revokes m = some r)
    (hused : ∀ r, uses m = some r → held' r) :
    Covered uses revokes held' (queue ++ [m]) := by
  induction queue with
  | nil => exact ⟨fun r hu => .inl (hused r hu), trivial⟩
  | cons m' queue ih =>
      refine ⟨fun r hu => ?_, ih h.2⟩
      rcases h.1 r hu with hheld | ⟨m'', hmem, hrev⟩
      · rcases hkept r hheld with hheld' | hrev
        · exact .inl hheld'
        · exact .inr ⟨m, by simp, hrev⟩
      · exact .inr ⟨m'', by simp [hmem], hrev⟩

end Fifo
