import Mathlib.Data.List.Basic
import Mathlib.Data.Option.Basic

/-!
# The topmost of what is hit

Things lie on top of one another, each is hit by a point or not, and what is hit
answers with a value. The right answer for a point is that of the topmost thing that
is hit (`first`). A program may not look through them all: it guesses one, by a test
that costs less, and asks only that one. If the guess is not hit, the answer is none.

Two guesses give the same answer exactly when they come to the same thing that is hit
(`bind_eq_bind_iff`), so that a guess is right exactly when it is the topmost thing
that is hit, or there is no such thing (`bind_guess_eq_iff`). Both ask for answers
that tell which thing gave them.

A chain of look-ups is compared link by link (`or_eq_or_iff`), if what one link finds
is never found by another.
-/

namespace Topmost

variable {α β γ : Type*} (hit : α → Option β)

/-- The topmost thing that is hit, in a list from the top. -/
def first (xs : List α) : Option α := xs.find? fun x => (hit x).isSome

/-- A guess, if it is hit. -/
def reached (guess : Option α) : Option α := guess.filter fun x => (hit x).isSome

/-- Of the things in question, no two give the same answer. -/
def Tells (among : α → Prop) : Prop :=
  ∀ x y b, among x → among y → hit x = some b → hit y = some b → x = y

variable {hit} {xs : List α} {x : α} {guess guess' : Option α} {among : α → Prop}

theorem first_eq_some (h : first hit xs = some x) : x ∈ xs ∧ (hit x).isSome := by
  rw [first] at h
  have hsome := List.find?_some h
  exact ⟨List.mem_of_find?_eq_some h, hsome⟩

theorem first_eq_none_iff : first hit xs = none ↔ ∀ x ∈ xs, hit x = none := by
  simp only [first, List.find?_eq_none, Option.not_isSome_iff_eq_none]

theorem findSome?_eq_bind_first : xs.findSome? hit = (first hit xs).bind hit := by
  induction xs with
  | nil => rfl
  | cons x xs ih =>
      rw [first, List.findSome?_cons, List.find?_cons]
      cases hx : hit x with
      | some b => simp [hx]
      | none => simpa [first] using ih

theorem reached_eq_some_iff :
    reached hit guess = some x ↔ guess = some x ∧ (hit x).isSome :=
  Option.filter_eq_some_iff

theorem reached_eq_none_iff : reached hit guess = none ↔ guess.bind hit = none := by
  cases guess with
  | none => simp [reached]
  | some x => simp [reached, Option.filter_some]

@[simp] theorem reached_first : reached hit (first hit xs) = first hit xs := by
  cases hf : first hit xs with
  | none => rfl
  | some x => exact Option.filter_eq_some_iff.mpr ⟨rfl, (first_eq_some hf).2⟩

theorem bind_reached : (reached hit guess).bind hit = guess.bind hit := by
  cases guess with
  | none => rfl
  | some x =>
      cases hx : hit x with
      | none => simp [reached, Option.filter_some, hx]
      | some b => simp [reached, Option.filter_some, hx]

theorem bind_eq_bind_iff (htells : Tells hit among) (hguess : ∀ x, guess = some x → among x)
    (hguess' : ∀ x, guess' = some x → among x) :
    guess.bind hit = guess'.bind hit ↔ reached hit guess = reached hit guess' := by
  constructor
  · intro h
    cases hr : reached hit guess with
    | none =>
        rw [reached_eq_none_iff, h] at hr
        exact (reached_eq_none_iff.mpr hr).symm
    | some x =>
        obtain ⟨hx, hsome⟩ := reached_eq_some_iff.mp hr
        obtain ⟨b, hb⟩ := Option.isSome_iff_exists.mp hsome
        rw [hx, Option.bind_some, hb] at h
        obtain ⟨y, hy, hyb⟩ := Option.bind_eq_some_iff.mp h.symm
        have hxy : x = y := htells x y b (hguess x hx) (hguess' y hy) hb hyb
        subst hxy
        exact (reached_eq_some_iff.mpr ⟨hy, hsome⟩).symm
  · intro h
    rw [← bind_reached, h, bind_reached]

/-- A guess among the things there are is right exactly when it is the topmost thing
that is hit, if there is one. -/
theorem bind_guess_eq_iff (htells : Tells hit (· ∈ xs)) (hguess : ∀ x, guess = some x → x ∈ xs) :
    guess.bind hit = xs.findSome? hit ↔ ∀ x, first hit xs = some x → guess = some x := by
  have hfirst : ∀ x, first hit xs = some x → x ∈ xs := fun x hx => (first_eq_some hx).1
  rw [findSome?_eq_bind_first, bind_eq_bind_iff htells hguess hfirst, reached_first]
  constructor
  · intro h x hx
    rw [hx] at h
    exact (reached_eq_some_iff.mp h).1
  · intro h
    cases hf : first hit xs with
    | some x => exact reached_eq_some_iff.mpr ⟨h x hf, (first_eq_some hf).2⟩
    | none =>
        rw [reached_eq_none_iff, Option.bind_eq_none_iff]
        exact fun x hx => first_eq_none_iff.mp hf x (hguess x hx)

/-- Chains of two look-ups. What the first link of one finds is not found by the second
link of the other. -/
theorem or_eq_or_iff {a a' b b' : Option γ} (hab : ∀ c, a = some c → b' ≠ some c)
    (hba : ∀ c, a' = some c → b ≠ some c) :
    a.or b = a'.or b' ↔ a = a' ∧ (a = none → b = b') := by
  cases a with
  | some c =>
      cases a' with
      | some c' => simp
      | none =>
          have hne := hab c rfl
          simp [Ne.symm hne]
  | none =>
      cases a' with
      | some c' =>
          have hne := hba c' rfl
          simp [hne]
      | none => simp

theorem or_left_eq_iff {a b b' : Option γ} : a.or b = a.or b' ↔ (a = none → b = b') := by
  cases a with
  | some c => simp
  | none => simp

/-! ## Look-ups in two lists that correspond -/

theorem find?_map_of_agree {f : α → γ} {p : α → Bool} {q : γ → Bool}
    (h : ∀ x ∈ xs, q (f x) = p x) : (xs.map f).find? q = (xs.find? p).map f := by
  induction xs with
  | nil => rfl
  | cons x xs ih =>
      have hrest := ih fun y hy => h y (List.mem_cons_of_mem _ hy)
      rw [List.map_cons, List.find?_cons, List.find?_cons, h x (List.mem_cons_self ..), hrest]
      cases p x with
      | true => rfl
      | false => rfl

/-- If nothing but one thing can be found, that one is found or nothing is. -/
theorem find?_only {p : α → Bool} (hx : x ∈ xs) (honly : ∀ y ∈ xs, p y → y = x) :
    xs.find? p = if p x then some x else none := by
  cases hf : xs.find? p with
  | some y =>
      have hy : p y := List.find?_some hf
      have he := honly y (List.mem_of_find?_eq_some hf) hy
      subst he
      rw [if_pos hy]
  | none =>
      rw [if_neg (List.find?_eq_none.mp hf x hx)]

end Topmost
