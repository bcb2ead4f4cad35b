import BracketToken.StringToken.Sample

/-!
Drawing characters from a pool, with and without promises about the indices.

An open source is asked for a number with any bound, and drawing from it fails on a bound of zero
and on an index past the pool. A source that keeps below its bounds never fails and draws what the
guarded source draws; a source that replays numbers draws any lines of the pool, from the positions
of their characters.
-/

namespace BracketToken.StringToken

variable {σ α β : Type}

/-- A number for any bound, one per state. -/
structure OpenSource (σ : Type) where
  next : Nat → σ → Nat × σ

namespace OpenSource

def Bounded (source : OpenSource σ) : Prop :=
  ∀ upper s, 0 < upper → (source.next upper s).1 < upper

/-- The same numbers, with the promise in their type. -/
def guarded (source : OpenSource σ) (h : source.Bounded) : IndexSource σ where
  next upper pos s := (⟨(source.next upper s).1, h upper s pos⟩, (source.next upper s).2)

/-- Draws a character, if the bound is not zero and the index is one of the pool. -/
def pick? (source : OpenSource σ) (pool : List Char) (s : σ) : Option (Char × σ) :=
  if pool.length = 0 then none
  else
    let drawn := source.next pool.length s
    pool[drawn.1]?.map (·, drawn.2)

end OpenSource

/-- What a step yields when it runs `n` times, if it never fails. -/
def collect? (step : σ → Option (α × σ)) : Nat → σ → Option (List α × σ)
  | 0, s => some ([], s)
  | n + 1, s => do
    let (a, s) ← step s
    let (rest, s) ← collect? step n s
    return (a :: rest, s)

namespace Request

/-- Draws a line from an open source. The pool as it is needs no draw. -/
def line? (r : Request) (source : OpenSource σ) (s : σ) : Option (List Char × σ) :=
  match r.length with
  | .all => some (r.pool, s)
  | .chars n => collect? (source.pick? r.pool) n s

/-- Draws a text from an open source, a line at a time. -/
def text? (r : Request) (source : OpenSource σ) (s : σ) : Option (String × σ) := do
  let (lines, s) ← collect? (r.line? source) r.lines s
  return (.ofList (lineBreak.intercalate lines), s)

end Request

theorem collect?_eq {step? : σ → Option (α × σ)} {step : σ → α × σ}
    (h : ∀ s, step? s = some (step s)) (n : Nat) (s : σ) :
    collect? step? n s = some (collect step n s) := by
  induction n generalizing s with
  | zero => rfl
  | succ n ih =>
      rw [collect?, h s, collect_succ]
      simp only [Option.bind_eq_bind, Option.bind_some, ih]
      rfl

theorem collect_map (step : σ → α × σ) (f : α → β) (n : Nat) (s : σ) :
    collect (fun s => (f (step s).1, (step s).2)) n s =
      ((collect step n s).1.map f, (collect step n s).2) := by
  induction n generalizing s with
  | zero => rfl
  | succ n ih => rw [collect_succ, collect_succ, ih, List.map_cons]

theorem collect_const (a : α) (n : Nat) (s : σ) :
    collect (fun s => (a, s)) n s = (List.replicate n a, s) := by
  induction n with
  | zero => rfl
  | succ n ih => rw [collect_succ, ih, List.replicate_succ]

/-- What holds of every yield holds of all that is collected. -/
theorem forall_mem_collect {step : σ → α × σ} {p : α → Prop} (h : ∀ s, p (step s).1) (n : Nat)
    (s : σ) : ∀ a ∈ (collect step n s).1, p a := by
  induction n generalizing s with
  | zero => exact fun a ha => nomatch ha
  | succ n ih =>
      intro a ha
      rw [collect_succ, List.mem_cons] at ha
      rcases ha with rfl | ha
      · exact h s
      · exact ih _ a ha

def drawChar (source : IndexSource σ) (pool : Array Char) (pos : 0 < pool.size) (s : σ) :
    Char × σ :=
  (pool[(source.next pool.size pos s).1], (source.next pool.size pos s).2)

/-- A line is drawn character by character. -/
theorem drawLine_eq (source : IndexSource σ) (pool : Array Char) (pos : 0 < pool.size) (n : Nat)
    (s : σ) : drawLine source pool pos n s = collect (drawChar source pool pos) n s :=
  (collect_map (source.next pool.size pos) (fun i => pool[i]) n s).symm

namespace Request

theorem pick?_eq (r : Request) (source : OpenSource σ) (h : source.Bounded) (s : σ) :
    source.pick? r.pool s =
      some (drawChar (source.guarded h) r.pool.toArray r.pool_size_pos s) := by
  have hpos : 0 < r.pool.length := r.pool_size_pos
  have hindex := h r.pool.length s hpos
  rw [OpenSource.pick?, if_neg (Nat.ne_of_gt hpos)]
  simp only [List.getElem?_eq_getElem hindex, Option.map_some]
  rfl

theorem line?_eq (r : Request) (source : OpenSource σ) (h : source.Bounded) (s : σ) :
    r.line? source s = some (match r.length with
      | .all => (r.pool, s)
      | .chars n => drawLine (source.guarded h) r.pool.toArray r.pool_size_pos n s) := by
  unfold line?
  cases r.length with
  | all => rfl
  | chars n =>
      simp only [drawLine_eq]
      exact collect?_eq (r.pick?_eq source h) n s

/-- Below its bounds an open source never makes a draw fail. -/
theorem text?_eq (r : Request) (source : OpenSource σ) (h : source.Bounded) (s : σ) :
    r.text? source s = some (r.sample (source.guarded h) s) := by
  rw [text?, collect?_eq (r.line?_eq source h), sample, sampleLines]
  simp only [Option.bind_eq_bind, Option.bind_some]
  cases r.length with
  | all =>
      simp only [collect_const]
      rfl
  | chars n => rfl

end Request

namespace IndexSource

/-- The same numbers without the promise. A bound of zero gets a number too. -/
def opened (source : IndexSource σ) : OpenSource σ where
  next upper s := if h : 0 < upper then ((source.next upper h s).1, (source.next upper h s).2)
    else (0, s)

theorem opened_bounded (source : IndexSource σ) : source.opened.Bounded := by
  intro upper s h
  simp only [opened, dif_pos h]
  exact (source.next upper h s).1.isLt

theorem guarded_opened (source : IndexSource σ) :
    source.opened.guarded source.opened_bounded = source := by
  obtain ⟨next⟩ := source
  simp only [OpenSource.guarded, mk.injEq]
  funext upper h s
  simp only [opened, dif_pos h]

variable {numbers : Array Nat}

theorem replay_next {front rest : List Nat} {k upper : Nat} (pos : 0 < upper) (hk : k < upper)
    (h : numbers.toList = front ++ k :: rest) :
    (replay numbers).next upper pos front.length = (⟨k, hk⟩, front.length + 1) := by
  have hsize : front.length < numbers.size := by
    rw [← Array.length_toList, h, List.length_append, List.length_cons]
    omega
  have hread : numbers.getD front.length 0 = k := by
    rw [Array.getD_eq_getD_getElem?, ← Array.getElem?_toList, h,
      List.getElem?_append_right (Nat.le_refl _), Nat.sub_self]
    rfl
  simp only [replay, Nat.mod_eq_of_lt hsize, hread, Nat.mod_eq_of_lt hk]

end IndexSource

theorem drawText_outcome (source : IndexSource σ) (token : String) (s : σ) :
    (drawText source token s).1.outcome =
      (read token).outcome.map fun r => (r.sample source s).1 := by
  rw [drawText]
  cases (read token).outcome with
  | error e => rfl
  | ok r => rfl

/-- A refused token leaves the source as it is. -/
theorem drawText_state (source : IndexSource σ) (token : String) (s : σ) :
    (drawText source token s).2 = match (read token).outcome with
      | .error _ => s
      | .ok r => (r.sample source s).2 := by
  rw [drawText]
  cases (read token).outcome with
  | error e => rfl
  | ok r => rfl

variable {numbers : Array Nat}

/-- The positions of a line's characters draw that line. -/
theorem drawLine_replay {pool : Array Char} (pos : 0 < pool.size) {line : List Char}
    (front : List Nat) {rest : List Nat} (hline : ∀ c ∈ line, c ∈ pool.toList)
    (h : numbers.toList = front ++ line.map pool.toList.idxOf ++ rest) :
    drawLine (.replay numbers) pool pos line.length front.length =
      (line, front.length + line.length) := by
  rw [drawLine_eq]
  induction line generalizing front with
  | nil => rfl
  | cons c line ih =>
      have hc : pool.toList.idxOf c < pool.size := by
        rw [← Array.length_toList]
        exact List.idxOf_lt_length_iff.2 (hline c List.mem_cons_self)
      rw [List.map_cons, List.append_assoc, List.cons_append] at h
      have hfirst : drawChar (.replay numbers) pool pos front.length = (c, front.length + 1) := by
        simp only [drawChar, IndexSource.replay_next pos hc h]
        exact congrArg (·, front.length + 1) (List.getElem_idxOf _)
      have hrest := ih (front ++ [pool.toList.idxOf c])
        (fun d hd => hline d (List.mem_cons_of_mem _ hd)) (by simp [h])
      rw [List.length_append, List.length_singleton] at hrest
      rw [List.length_cons, collect_succ, hfirst, hrest]
      simp only [Nat.add_assoc, Nat.add_comm 1]

/-- The positions of the characters of all lines draw these lines. -/
theorem collect_drawLine_replay {pool : Array Char} (pos : 0 < pool.size) {n : Nat}
    {lines : List (List Char)} (front : List Nat)
    (hlines : ∀ line ∈ lines, line.length = n ∧ ∀ c ∈ line, c ∈ pool.toList)
    (h : numbers.toList = front ++ lines.flatten.map pool.toList.idxOf) :
    (collect (drawLine (.replay numbers) pool pos n) lines.length front.length).1 = lines := by
  induction lines generalizing front with
  | nil => rfl
  | cons line lines ih =>
      obtain ⟨rfl, hline⟩ := hlines line List.mem_cons_self
      rw [List.flatten_cons, List.map_append, ← List.append_assoc] at h
      have hfirst := drawLine_replay pos front hline h
      have hrest := ih (front ++ line.map pool.toList.idxOf)
        (fun l hl => hlines l (List.mem_cons_of_mem _ hl)) h
      rw [List.length_append, List.length_map] at hrest
      rw [List.length_cons, collect_succ, hfirst, hrest]

end BracketToken.StringToken
