/-!
Where the indices of a draw come from.

A source is asked for an index below a bound and moves on to its next state. The bound is never
zero, and no index reaches it: both are part of the type.
-/

namespace BracketToken.StringToken

/-- Indices below a bound, one per state. -/
structure IndexSource (σ : Type) where
  next : (upper : Nat) → 0 < upper → σ → Fin upper × σ

variable {σ α : Type}

/-- Runs a step `n` times and puts what it yields after `done`, which is in reverse. -/
def collectOnto (step : σ → α × σ) : Nat → σ → List α → List α × σ
  | 0, s, done => (done.reverse, s)
  | n + 1, s, done => collectOnto step n (step s).2 ((step s).1 :: done)

/-- What a step yields when it runs `n` times, in order, and the state after it. -/
def collect (step : σ → α × σ) (n : Nat) (s : σ) : List α × σ := collectOnto step n s []

/-- What is done already comes first and changes nothing else. -/
theorem collectOnto_eq (step : σ → α × σ) (n : Nat) (s : σ) (done : List α) :
    collectOnto step n s done =
      (done.reverse ++ (collect step n s).1, (collect step n s).2) := by
  unfold collect
  induction n generalizing s done with
  | zero => simp [collectOnto]
  | succ n ih => rw [collectOnto, ih, collectOnto, ih _ [_]]; simp

@[simp] theorem collect_zero (step : σ → α × σ) (s : σ) : collect step 0 s = ([], s) := rfl

/-- The first yield comes first, and the rest starts from the state after it. -/
theorem collect_succ (step : σ → α × σ) (n : Nat) (s : σ) :
    collect step (n + 1) s =
      ((step s).1 :: (collect step n (step s).2).1, (collect step n (step s).2).2) := by
  rw [collect, collectOnto, collectOnto_eq]
  simp

/-- Each run of the step yields one item. -/
theorem length_collect (step : σ → α × σ) (n : Nat) (s : σ) :
    (collect step n s).1.length = n := by
  induction n generalizing s with
  | zero => rfl
  | succ n ih => simp [collect_succ, ih]

namespace IndexSource

/-- Gives the listed numbers in turn, over and over, each reduced to the bound. The state counts
the draws. -/
def replay (numbers : Array Nat) : IndexSource Nat where
  next upper pos k := (⟨numbers.getD (k % numbers.size) 0 % upper, Nat.mod_lt _ pos⟩, k + 1)

/-- The same indices, with the bounds asked for, the latest first. -/
def recorded (source : IndexSource σ) : IndexSource (σ × List Nat) where
  next upper pos s :=
    let drawn := source.next upper pos s.1
    (drawn.1, drawn.2, upper :: s.2)

def generator : IndexSource StdGen where
  next upper pos gen :=
    let drawn := randNat gen 0 (upper - 1)
    (⟨drawn.1 % upper, Nat.mod_lt _ pos⟩, drawn.2)

end IndexSource

end BracketToken.StringToken
