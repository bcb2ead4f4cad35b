import BracketToken.Proofs.Sampling
import Mathlib.Data.List.SplitLengths

/-!
What texts drawn in turn take from one source.

A source that notes its draws shows what each token takes: nothing if it is refused or asks for the
pool as it is, and else one draw for each character, in order and from where the token before left
the source. Main statement: `drawTexts_accounts`, which also says that nothing else counts for a
text: where the source goes on with the same indices, the text is the same.
-/

namespace BracketToken.StringToken

variable {σ τ α : Type}

/-- An index that a source gave, below the bound it was asked for. -/
structure Draw where
  upper : Nat
  index : Fin upper

namespace IndexSource

/-- The same indices, every draw noted in order. -/
def noted (source : IndexSource σ) : IndexSource (σ × List Draw) where
  next upper pos s :=
    let drawn := source.next upper pos s.1
    (drawn.1, drawn.2, s.2 ++ [⟨upper, drawn.1⟩])

/-- Draws that lead a source from one state to another, each from where the one before ends. -/
inductive Path (source : IndexSource σ) : σ → List Draw → σ → Prop
  | nil (s) : Path source s [] s
  | cons {upper pos s draws s'} : Path source (source.next upper pos s).2 draws s' →
      Path source s (⟨upper, (source.next upper pos s).1⟩ :: draws) s'

/-- The indices that a source gives from a state on, and the state after them. -/
def give (source : IndexSource σ) (r : Request) (count : Nat) (s : σ) :
    List (Fin r.pool.toArray.size) × σ :=
  collect (source.next r.pool.toArray.size r.pool_size_pos) count s

end IndexSource

/-- The outcomes of tokens, one after another: each finds the source as the one before leaves it. -/
def drawTexts (source : IndexSource σ) : List String → σ → List (Except Error String) × σ
  | [], s => ([], s)
  | token :: tokens, s =>
    let first := drawText source token s
    let rest := drawTexts source tokens first.2
    (first.1.outcome :: rest.1, rest.2)

/-- The outcome of a token, and the draws that it takes. -/
inductive Account (source : IndexSource σ) (token : String) (s : σ) :
    Except Error String → List Draw → σ → Prop
  | refused {e} : (read token).outcome = .error e → Account source token s (.error e) [] s
  | pool {r text} : (read token).outcome = .ok r → r.length = .all →
      r.AreLines (splitBreaks text.toList) → Account source token s (.ok text) [] s
  | drawn {r n text draws s'} : (read token).outcome = .ok r → r.length = .chars n →
      r.AreLines (splitBreaks text.toList) → draws.length = n * r.lines →
      (∀ d ∈ draws, d.upper = r.pool.length) →
      (∀ k : Nat, (splitBreaks text.toList).flatten[k]? =
        draws[k]?.bind fun draw : Draw => r.pool[draw.index.val]?) →
      source.Path s draws s' → Account source token s (.ok text) draws s'

/-- The accounts of tokens in turn, each with the draws of its own. -/
inductive Accounts (source : IndexSource σ) :
    List String → σ → List (Except Error String) → List (List Draw) → σ → Prop
  | nil (s) : Accounts source [] s [] [] s
  | cons {token tokens s outcome outcomes draws shares s' s''} :
      Account source token s outcome draws s' → Accounts source tokens s' outcomes shares s'' →
      Accounts source (token :: tokens) s (outcome :: outcomes) (draws :: shares) s''

theorem collect_add (step : σ → α × σ) (m n : Nat) (s : σ) :
    collect step (m + n) s =
      ((collect step m s).1 ++ (collect step n (collect step m s).2).1,
        (collect step n (collect step m s).2).2) := by
  induction m generalizing s with
  | zero => rw [Nat.zero_add, collect_zero, List.nil_append]
  | succ m ih => rw [Nat.add_right_comm, collect_succ, collect_succ, ih, List.cons_append]

theorem collect_collect (step : σ → α × σ) (n m : Nat) (s : σ) :
    collect (collect step n) m s =
      ((List.replicate m n).splitLengths (collect step (n * m) s).1,
        (collect step (n * m) s).2) := by
  induction m generalizing s with
  | zero => rfl
  | succ m ih =>
      have hlength := length_collect step n s
      rw [collect_succ, ih, Nat.mul_succ, Nat.add_comm (n * m), collect_add, List.replicate_succ,
        List.splitLengths_cons, List.take_left' hlength, List.drop_left' hlength]

namespace IndexSource

theorem noted_next (source : IndexSource σ) {upper : Nat} (pos : 0 < upper) (s : σ)
    (log : List Draw) :
    source.noted.next upper pos (s, log) = ((source.next upper pos s).1,
      (source.next upper pos s).2, log ++ [⟨upper, (source.next upper pos s).1⟩]) := rfl

theorem collect_noted (source : IndexSource σ) {upper : Nat} (pos : 0 < upper) (n : Nat) (s : σ)
    (log : List Draw) :
    collect (source.noted.next upper pos) n (s, log) =
      ((collect (source.next upper pos) n s).1, (collect (source.next upper pos) n s).2,
        log ++ (collect (source.next upper pos) n s).1.map (Draw.mk upper)) := by
  induction n generalizing s log with
  | zero => simp
  | succ n ih =>
      rw [collect_succ, collect_succ, noted_next, ih, List.map_cons, List.append_assoc]
      rfl

theorem path_collect (source : IndexSource σ) {upper : Nat} (pos : 0 < upper) (n : Nat) (s : σ) :
    source.Path s ((collect (source.next upper pos) n s).1.map (Draw.mk upper))
      (collect (source.next upper pos) n s).2 := by
  induction n generalizing s with
  | zero => exact .nil s
  | succ n ih =>
      rw [collect_succ, List.map_cons]
      exact .cons (ih _)

theorem Path.append {source : IndexSource σ} {s s' s'' : σ} {draws draws' : List Draw}
    (h : source.Path s draws s') (h' : source.Path s' draws' s'') :
    source.Path s (draws ++ draws') s'' := by
  induction h with
  | nil s => exact h'
  | cons _ ih => exact .cons (ih h')

end IndexSource

theorem Account.path {source : IndexSource σ} {token : String} {s s' : σ}
    {outcome : Except Error String} {draws : List Draw}
    (h : Account source token s outcome draws s') : source.Path s draws s' := by
  cases h with
  | refused hread => exact .nil s
  | pool hread hlength hlines => exact .nil s
  | drawn hread hlength hlines hcount hupper hchars hpath => exact hpath

/-- No draw is skipped between tokens, and none counts for two of them. -/
theorem Accounts.path {source : IndexSource σ} {tokens : List String} {s s' : σ}
    {outcomes : List (Except Error String)} {shares : List (List Draw)}
    (h : Accounts source tokens s outcomes shares s') : source.Path s shares.flatten s' := by
  induction h with
  | nil s => exact .nil s
  | cons hfirst _ ih => exact hfirst.path.append ih

namespace Request

/-- The lines that indices spell, `n` to a line. -/
def spelled (r : Request) (n : Nat) (indices : List (Fin r.pool.toArray.size)) :
    List (List Char) :=
  ((List.replicate r.lines n).splitLengths indices).map (List.map fun i => r.pool.toArray[i])

theorem sampleLines_of_chars {r : Request} {n : Nat} (h : r.length = .chars n)
    (source : IndexSource σ) (s : σ) :
    r.sampleLines source s =
      (r.spelled n (source.give r (n * r.lines) s).1, (source.give r (n * r.lines) s).2) := by
  have hline : drawLine source r.pool.toArray r.pool_size_pos n = fun s =>
      ((source.give r n s).1.map fun i => r.pool.toArray[i], (source.give r n s).2) := rfl
  have hcut : collect (source.give r n) r.lines s =
      ((List.replicate r.lines n).splitLengths (source.give r (n * r.lines) s).1,
        (source.give r (n * r.lines) s).2) := collect_collect _ n r.lines s
  rw [sampleLines, h]
  dsimp only
  rw [hline, collect_map (source.give r n) (List.map fun i => r.pool.toArray[i]), hcut]
  rfl

theorem flatten_spelled (r : Request) (n : Nat) {indices : List (Fin r.pool.toArray.size)}
    (h : indices.length = n * r.lines) :
    (r.spelled n indices).flatten = indices.map fun i => r.pool.toArray[i] := by
  have hsum : indices.length ≤ (List.replicate r.lines n).sum := by
    rw [List.sum_replicate_nat, h, Nat.mul_comm]
  rw [spelled, ← List.map_flatten, List.flatten_splitLengths _ _ hsum]

theorem splitBreaks_sample (r : Request) (source : IndexSource σ) (s : σ) :
    splitBreaks (r.sample source s).1.toList = (r.sampleLines source s).1 := by
  rw [sample, String.toList_ofList]
  exact (r.sampleLines_areLines source s).splitBreaks_eq

def draws (r : Request) (source : IndexSource σ) (s : σ) : List Draw :=
  match r.length with
  | .all => []
  | .chars n => (source.give r (n * r.lines) s).1.map (Draw.mk r.pool.toArray.size)

theorem sampleLines_of_all {r : Request} (h : r.length = .all) (source : IndexSource σ)
    (s : σ) : r.sampleLines source s = (List.replicate r.lines r.pool, s) := by
  rw [sampleLines, h]

theorem sample_noted (r : Request) (source : IndexSource σ) (s : σ) (log : List Draw) :
    r.sample source.noted (s, log) =
      ((r.sample source s).1, (r.sample source s).2, log ++ r.draws source s) := by
  rw [sample, sample, draws]
  cases hlength : r.length with
  | all =>
      rw [sampleLines_of_all hlength, sampleLines_of_all hlength, List.append_nil]
  | chars n =>
      have hgive := source.collect_noted r.pool_size_pos (n * r.lines) s log
      rw [sampleLines_of_chars hlength, sampleLines_of_chars hlength, IndexSource.give, hgive]
      rfl

end Request

theorem account_of_read {source : IndexSource σ} {token : String} {r : Request}
    (hread : (read token).outcome = .ok r) (s : σ) :
    Account source token s (.ok (r.sample source s).1) (r.draws source s)
      (r.sample source s).2 := by
  have hsplit := r.splitBreaks_sample source s
  have hlines := r.sampleLines_areLines source s
  rw [← hsplit] at hlines
  rw [Request.draws]
  cases hlength : r.length with
  | all =>
      have hstate : (r.sample source s).2 = s := by
        rw [Request.sample, Request.sampleLines_of_all hlength]
      rw [hstate]
      exact .pool hread hlength hlines
  | chars n =>
      have hcount : (source.give r (n * r.lines) s).1.length = n * r.lines := length_collect _ _ _
      refine .drawn hread hlength hlines ?_ ?_ ?_ ?_
      · rw [List.length_map, hcount]
      · intro draw hdraw
        obtain ⟨i, -, rfl⟩ := List.mem_map.1 hdraw
        rfl
      · intro k
        rw [hsplit, Request.sampleLines_of_chars hlength, r.flatten_spelled n hcount,
          List.getElem?_map, List.getElem?_map]
        cases (source.give r (n * r.lines) s).1[k]? with
        | none => rfl
        | some i => exact (List.getElem?_eq_getElem i.isLt).symm
      · rw [Request.sample, Request.sampleLines_of_chars hlength]
        exact source.path_collect r.pool_size_pos _ s

theorem exists_account (source : IndexSource σ) (token : String) (s : σ) :
    ∃ draws, Account source token s (drawText source token s).1.outcome draws
        (drawText source token s).2 ∧
      ∀ log, (drawText source.noted token (s, log)).1.outcome = (drawText source token s).1.outcome ∧
        (drawText source.noted token (s, log)).2 = ((drawText source token s).2, log ++ draws) := by
  simp only [drawText_outcome, drawText_state]
  cases hread : (read token).outcome with
  | error e =>
      refine ⟨[], .refused hread, fun log => ⟨rfl, ?_⟩⟩
      rw [List.append_nil]
  | ok r =>
      refine ⟨_, account_of_read hread s, fun log => ?_⟩
      obtain ⟨htext, hstate⟩ := Prod.ext_iff.1 (r.sample_noted source s log)
      exact ⟨congrArg Except.ok htext, hstate⟩

theorem exists_accounts (source : IndexSource σ) (tokens : List String) (s : σ) :
    ∃ shares, Accounts source tokens s (drawTexts source tokens s).1 shares
        (drawTexts source tokens s).2 ∧
      ∀ log, drawTexts source.noted tokens (s, log) =
        ((drawTexts source tokens s).1, (drawTexts source tokens s).2, log ++ shares.flatten) := by
  induction tokens generalizing s with
  | nil =>
      refine ⟨[], .nil s, fun log => ?_⟩
      rw [List.flatten_nil, List.append_nil]
      rfl
  | cons token tokens ih =>
      obtain ⟨draws, hfirst, hnoted⟩ := exists_account source token s
      obtain ⟨shares, hrest, hnotedRest⟩ := ih (drawText source token s).2
      refine ⟨draws :: shares, .cons hfirst hrest, fun log => ?_⟩
      -- What is noted before goes along, so the rest is noted behind the first token's draws.
      simp only [drawTexts, hnoted log, hnotedRest, List.flatten_cons, List.append_assoc]

theorem outcome_eq_of_give {source : IndexSource σ} {source' : IndexSource τ} {token : String}
    {s : σ} {s' : τ}
    (h : ∀ r n, (read token).outcome = .ok r → r.length = .chars n →
      (source.give r (n * r.lines) s).1 = (source'.give r (n * r.lines) s').1) :
    (drawText source token s).1.outcome = (drawText source' token s').1.outcome := by
  rw [drawText_outcome, drawText_outcome]
  cases hread : (read token).outcome with
  | error e => rfl
  | ok r =>
      have hlines : (r.sampleLines source s).1 = (r.sampleLines source' s').1 := by
        cases hlength : r.length with
        | all => rw [r.sampleLines_of_all hlength, r.sampleLines_of_all hlength]
        | chars n =>
            rw [r.sampleLines_of_chars hlength, r.sampleLines_of_chars hlength,
              h r n hread hlength]
      simp only [Except.map, Request.sample, hlines]

theorem drawTexts_append (source : IndexSource σ) (before after : List String) (s : σ) :
    drawTexts source (before ++ after) s =
      ((drawTexts source before s).1 ++ (drawTexts source after (drawTexts source before s).2).1,
        (drawTexts source after (drawTexts source before s).2).2) := by
  induction before generalizing s with
  | nil => rfl
  | cons token before ih => simp only [List.cons_append, drawTexts, ih]

theorem length_drawTexts (source : IndexSource σ) (tokens : List String) (s : σ) :
    (drawTexts source tokens s).1.length = tokens.length := by
  induction tokens generalizing s with
  | nil => rfl
  | cons token tokens ih => simp only [drawTexts, List.length_cons, ih]

theorem drawTexts_getElem? (source : IndexSource σ) (before : List String) (token : String)
    (after : List String) (s : σ) :
    (drawTexts source (before ++ token :: after) s).1[before.length]? =
      some (drawText source token (drawTexts source before s).2).1.outcome := by
  rw [drawTexts_append, ← length_drawTexts source before s, List.getElem?_append_right (Nat.le_refl _),
    Nat.sub_self]
  rfl

/-- Every token takes its own share of the draws, and its text comes from that share alone. -/
theorem drawTexts_accounts :
    (∀ {σ : Type} (source : IndexSource σ) (tokens : List String) (s : σ), ∃ shares,
        Accounts source tokens s (drawTexts source tokens s).1 shares
          (drawTexts source tokens s).2 ∧
        source.Path s shares.flatten (drawTexts source tokens s).2 ∧
        drawTexts source.noted tokens (s, []) =
          ((drawTexts source tokens s).1, (drawTexts source tokens s).2, shares.flatten)) ∧
      ∀ {σ τ : Type} (source : IndexSource σ) (source' : IndexSource τ) (s : σ) (s' : τ)
        (token : String) (before after before' after' : List String),
        (∀ r n, (read token).outcome = .ok r → r.length = .chars n →
          (source.give r (n * r.lines) (drawTexts source before s).2).1 =
            (source'.give r (n * r.lines) (drawTexts source' before' s').2).1) →
        ∃ outcome, (drawTexts source (before ++ token :: after) s).1[before.length]? = some outcome ∧
          (drawTexts source' (before' ++ token :: after') s').1[before'.length]? = some outcome := by
  refine ⟨?_, ?_⟩
  · intro σ source tokens s
    obtain ⟨shares, haccounts, hnoted⟩ := exists_accounts source tokens s
    exact ⟨shares, haccounts, haccounts.path, hnoted []⟩
  · intro σ τ source source' s s' token before after before' after' h
    refine ⟨_, drawTexts_getElem? source before token after s, ?_⟩
    rw [drawTexts_getElem?, outcome_eq_of_give h]

/-- A letter drawn before, or a token refused and a pool: the digits are those that come next. -/
theorem drawTexts_accounts_digitPairs :
    (∃ shares, Accounts (.replay #[7, 10, 19, 5, 15]) ["[ALPHA-1]", "[NUMERIC-2-LINES-2]"] 0
        [.ok "H", .ok "09\r\n55"] shares 5 ∧
      (drawTexts (IndexSource.replay #[7, 10, 19, 5, 15]).noted
        ["[ALPHA-1]", "[NUMERIC-2-LINES-2]"] (0, [])).2 = (5, shares.flatten)) ∧
      ∃ outcome,
        (drawTexts (.replay #[0, 9, 5, 5]) ["[NUMERIC-0]", "[NUMERIC-ALL]", "[NUMERIC-2-LINES-2]"]
          0).1[2]? = some outcome ∧
        (drawTexts (.replay #[7, 10, 19, 5, 15]) ["[ALPHA-1]", "[NUMERIC-2-LINES-2]"] 0).1[1]? =
          some outcome := by
  obtain ⟨haccounts, hdepends⟩ := drawTexts_accounts
  refine ⟨?_, ?_⟩
  · obtain ⟨shares, hshares, -, hnoted⟩ :=
      haccounts (.replay #[7, 10, 19, 5, 15]) ["[ALPHA-1]", "[NUMERIC-2-LINES-2]"] 0
    have hrun : drawTexts (.replay #[7, 10, 19, 5, 15]) ["[ALPHA-1]", "[NUMERIC-2-LINES-2]"] 0 =
        ([.ok "H", .ok "09\r\n55"], 5) := by
      decide +kernel
    rw [hrun] at hshares hnoted
    exact ⟨shares, hshares, congrArg Prod.snd hnoted⟩
  · refine hdepends (.replay #[0, 9, 5, 5]) (.replay #[7, 10, 19, 5, 15]) 0 0 "[NUMERIC-2-LINES-2]"
      ["[NUMERIC-0]", "[NUMERIC-ALL]"] [] ["[ALPHA-1]"] [] ?_
    intro r n hread hlength
    have hdigits : (read "[NUMERIC-2-LINES-2]").outcome = .ok digitPairs := by decide
    rw [hdigits, Except.ok.injEq] at hread
    subst hread
    cases hlength
    decide +kernel

end BracketToken.StringToken
