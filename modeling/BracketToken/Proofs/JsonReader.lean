import BracketToken.Json
import BracketToken.Proofs.Text
import Mathlib.Data.String.Basic
import Mathlib.Tactic.SplitIfs

/-!
Reading JSON back.

The reader takes a text character by character. Its values are those that reports are made of, so
there are no numbers and no lists. Main statements: `read?_text`, reading undoes writing, and
`visible_chars_and_fields`, no text that is written has a control character.
-/

namespace BracketToken.Json

/-- An object that is open: its fields up to now, the latest first, and the key of the next one. -/
structure Frame where
  done : List (String × Json)
  key : String

inductive Purpose
  | value
  | key (done : List (String × Json))

/-- Where a reader stands in a text in quotes. Characters outside the basic plane may be escaped as
two units, of which `high` is the first. -/
inductive Quoting
  | plain
  | escape (high : Option Nat)
  | digits (high : Option Nat) (left unit : Nat)
  | pair (high : Nat)
  deriving DecidableEq

/-- Where a reader stands in a text, and the objects that are open, the innermost first. -/
inductive State
  | atValue (frames : List Frame)
  | inWord (left : List Char) (value : Json) (frames : List Frame)
  | inQuotes (purpose : Purpose) (done : List Char) (quoting : Quoting) (frames : List Frame)
  | atKey (done : List (String × Json)) (frames : List Frame)
  | afterKey (done : List (String × Json)) (key : String) (frames : List Frame)
  | afterField (done : List (String × Json)) (frames : List Frame)
  | complete (value : Json)

def unescape? : Char → Option Char
  | '"' => some '"'
  | '\\' => some '\\'
  | '/' => some '/'
  | 'b' => some '\x08'
  | 'f' => some '\x0c'
  | 'n' => some '\n'
  | 'r' => some '\r'
  | 't' => some '\t'
  | _ => none

def hexDigit? (c : Char) : Option Nat :=
  if '0' ≤ c ∧ c ≤ '9' then some (c.toNat - '0'.toNat)
  else if 'a' ≤ c ∧ c ≤ 'f' then some (c.toNat - 'a'.toNat + 10)
  else if 'A' ≤ c ∧ c ≤ 'F' then some (c.toNat - 'A'.toNat + 10)
  else none

def isHigh (unit : Nat) : Bool := 0xd800 ≤ unit && unit < 0xdc00

def isLow (unit : Nat) : Bool := 0xdc00 ≤ unit && unit < 0xe000

/-- Takes a unit behind the characters `done`. No half of a pair stands alone. -/
def takeUnit? (done : List Char) : Option Nat → Nat → Option (List Char × Quoting)
  | none, unit =>
    if isHigh unit then some (done, .pair unit)
    else if isLow unit then none
    else some (.ofNat unit :: done, .plain)
  | some high, unit =>
    if isLow unit then
      some (.ofNat (0x10000 + (high - 0xd800) * 0x400 + (unit - 0xdc00)) :: done, .plain)
    else none

/-- Takes a character between quotes; `done` is what it stands behind, the latest first. -/
def Quoting.step? (done : List Char) : Quoting → Char → Option (List Char × Quoting)
  | plain, c =>
    if c = '\\' then some (done, escape none)
    else if c.toNat < 0x20 then none
    else some (c :: done, plain)
  | escape high, c =>
    if c = 'u' then some (done, digits high 4 0)
    else if high.isSome then none
    else (unescape? c).map fun c => (c :: done, plain)
  | digits high left unit, c => do
    let digit ← hexDigit? c
    if left = 1 then takeUnit? done high (16 * unit + digit)
    else some (done, digits high (left - 1) (16 * unit + digit))
  | pair high, c => if c = '\\' then some (done, escape (some high)) else none

namespace State

/-- A value is complete: it is all there is, or a field of the innermost object. -/
def put (value : Json) : List Frame → State
  | [] => complete value
  | frame :: frames => afterField ((frame.key, value) :: frame.done) frames

/-- A text in quotes is complete. -/
def close (text : String) (frames : List Frame) : Purpose → State
  | .value => put (.string text) frames
  | .key done => afterKey done text frames

def isGap (c : Char) : Bool := c = ' ' || c = '\t' || c = '\n' || c = '\r'

/-- Takes a character that opens, parts or closes something. -/
def mark? : State → Char → Option State
  | atValue frames, '"' => some (inQuotes .value [] .plain frames)
  | atValue frames, '{' => some (atKey [] frames)
  | atValue frames, 'n' => some (inWord "ull".toList .null frames)
  | atValue frames, 't' => some (inWord "rue".toList (.bool true) frames)
  | atValue frames, 'f' => some (inWord "alse".toList (.bool false) frames)
  | atKey done frames, '"' => some (inQuotes (.key done) [] .plain frames)
  | atKey [] frames, '}' => some (put (.object []) frames)
  | afterKey done key frames, ':' => some (atValue (⟨done, key⟩ :: frames))
  | afterField done frames, ',' => some (atKey done frames)
  | afterField done frames, '}' => some (put (.object done.reverse) frames)
  | _, _ => none

def step? : State → Char → Option State
  | inQuotes purpose done quoting frames, c =>
    if c = '"' ∧ quoting = .plain then some (close (.ofList done.reverse) frames purpose)
    else (quoting.step? done c).map fun (done, quoting) => inQuotes purpose done quoting frames
  | inWord left value frames, c =>
    match left with
    | [] => none
    | [last] => if c = last then some (put value frames) else none
    | next :: left => if c = next then some (inWord left value frames) else none
  | state, c => if isGap c then some state else state.mark? c

def run? (state : State) (text : List Char) : Option State := text.foldlM step? state

def result? : State → Option Json
  | complete value => some value
  | _ => none

end State

def read? (text : String) : Option Json :=
  (State.run? (.atValue []) text.toList).bind State.result?

namespace State

variable {frames : List Frame}

theorem run?_append {s t u : State} {front back : List Char} (hfront : run? s front = some t)
    (hback : run? t back = some u) : run? s (front ++ back) = some u := by
  rw [run?, List.foldlM_append]
  rw [run?] at hfront
  rw [hfront]
  exact hback

theorem run?_cons {s t u : State} {c : Char} {text : List Char} (hc : s.step? c = some t)
    (htext : run? t text = some u) : run? s (c :: text) = some u := by
  rw [run?, List.foldlM_cons, hc]
  exact htext

end State

theorem hexDigit?_digitChar : ∀ n < 16, hexDigit? (Nat.digitChar n) = some n := by decide

/-- A control character is written as one unit of four digits. -/
theorem takeUnit?_control (done : List Char) {c : Char} (h : c.toNat < 0x20) :
    takeUnit? done none (16 * (c.toNat / 16) + c.toNat % 16) = some (c :: done, .plain) := by
  have hhigh : isHigh c.toNat = false := by
    rw [isHigh, Bool.and_eq_false_iff, decide_eq_false_iff_not]
    omega
  have hlow : isLow c.toNat = false := by
    rw [isLow, Bool.and_eq_false_iff, decide_eq_false_iff_not]
    omega
  rw [Nat.div_add_mod, takeUnit?, hhigh, hlow, Char.ofNat_toNat]
  rfl

namespace State

variable {purpose : Purpose} {done : List Char} {frames : List Frame}

theorem step?_inQuotes {c : Char} {quoting next : Quoting} {front : List Char} (hc : c ≠ '"')
    (h : quoting.step? done c = some (front, next)) :
    (inQuotes purpose done quoting frames).step? c = some (inQuotes purpose front next frames) := by
  rw [step?, if_neg (fun hquote => hc hquote.1), h]
  rfl

theorem run?_plain {c : Char} (hquote : c ≠ '"') (hslash : c ≠ '\\') (hvisible : ¬ c.toNat < 0x20) :
    run? (inQuotes purpose done .plain frames) [c] =
      some (inQuotes purpose (c :: done) .plain frames) := by
  refine run?_cons (step?_inQuotes hquote ?_) rfl
  rw [Quoting.step?, if_neg hslash, if_neg hvisible]

theorem digitChar_ne_quote : ∀ n < 16, Nat.digitChar n ≠ '"' := by decide

theorem run?_control {c : Char} (h : c.toNat < 0x20) :
    run? (inQuotes purpose done .plain frames)
        ['\\', 'u', '0', '0', Nat.digitChar (c.toNat / 16), Nat.digitChar (c.toNat % 16)] =
      some (inQuotes purpose (c :: done) .plain frames) := by
  have hsixteen : c.toNat / 16 < 16 := by omega
  have hunit : c.toNat % 16 < 16 := by omega
  have hmarks : run? (inQuotes purpose done .plain frames) ['\\', 'u', '0', '0'] =
      some (inQuotes purpose done (.digits none 2 0) frames) := rfl
  have hthird : Quoting.step? done (.digits none 2 0) (Nat.digitChar (c.toNat / 16)) =
      some (done, .digits none 1 (c.toNat / 16)) := by
    simp [Quoting.step?, hexDigit?_digitChar _ hsixteen]
  have hfourth : Quoting.step? done (.digits none 1 (c.toNat / 16)) (Nat.digitChar (c.toNat % 16)) =
      some (c :: done, .plain) := by
    rw [Quoting.step?, hexDigit?_digitChar _ hunit]
    exact takeUnit?_control done h
  refine run?_append hmarks (run?_cons (step?_inQuotes (digitChar_ne_quote _ hsixteen) hthird) ?_)
  exact run?_cons (step?_inQuotes (digitChar_ne_quote _ hunit) hfourth) rfl

theorem run?_escape (c : Char) :
    run? (inQuotes purpose done .plain frames) (escape c) =
      some (inQuotes purpose (c :: done) .plain frames) := by
  unfold escape
  split_ifs with hquote hslash hback htab hline hfeed hreturn hcontrol
  any_goals
    subst c
    rfl
  · exact run?_control hcontrol
  · exact run?_plain hquote hslash hcontrol

theorem run?_escapes (text : List Char) :
    run? (inQuotes purpose done .plain frames) (text.flatMap escape) =
      some (inQuotes purpose (text.reverse ++ done) .plain frames) := by
  induction text generalizing done with
  | nil => rfl
  | cons c text ih =>
      rw [List.flatMap_cons, List.reverse_cons, List.append_assoc]
      exact run?_append (run?_escape c) ih

theorem run?_quotes (text : String) :
    run? (inQuotes purpose [] .plain frames) (text.toList.flatMap escape ++ ['"']) =
      some (close text frames purpose) := by
  have hclose : run? (inQuotes purpose (text.toList.reverse ++ []) .plain frames) ['"'] =
      some (close (.ofList (text.toList.reverse ++ []).reverse) frames purpose) := rfl
  rw [List.append_nil, List.reverse_reverse, String.ofList_toList] at hclose
  exact run?_append ((run?_escapes text.toList).trans (by rw [List.append_nil])) hclose

theorem run?_value (text : String) :
    run? (atValue frames) (quoted text) = some (put (.string text) frames) :=
  run?_cons rfl (run?_quotes text)

theorem run?_key (fields : List (String × Json)) (key : String) :
    run? (atKey fields frames) (quoted key) = some (afterKey fields key frames) :=
  run?_cons rfl (run?_quotes key)

/-- Reading starts a value where it is written, and fields where there are some. -/
theorem run?_chars_and_fields :
    (∀ (v : Json) (frames : List Frame),
      run? (atValue frames) v.chars = some (put v frames)) ∧
    ∀ (fields done : List (String × Json)) (frames : List Frame), fields ≠ [] →
      run? (atKey done frames) (fieldChars fields) =
        some (afterField (fields.reverse ++ done) frames) := by
  -- Values and fields are written by two functions that call each other, so neither part stands alone.
  refine chars.mutual_induct _ _ ?null ?yes ?no ?string ?object ?nil ?last ?more
  case null => exact fun frames => rfl
  case yes => exact fun frames => rfl
  case no => exact fun frames => rfl
  case string => exact fun text frames => run?_value text
  case object =>
    intro fields ih frames
    cases fields with
    | nil => rfl
    | cons field fields =>
        have hfields := ih [] frames (List.cons_ne_nil _ _)
        rw [List.append_nil] at hfields
        have hclose : run? (afterField (field :: fields).reverse frames) ['}'] =
            some (put (.object (field :: fields).reverse.reverse) frames) := rfl
        rw [List.reverse_reverse] at hclose
        rw [chars]
        exact run?_cons rfl (run?_append hfields hclose)
  case nil => exact fun done frames h => absurd rfl h
  case last =>
    intro key v ih done frames _
    rw [fieldChars]
    exact run?_append (run?_key done key) (run?_cons rfl (ih (⟨done, key⟩ :: frames)))
  case more =>
    intro key v rest hrest ih ihrest done frames _
    have hfields := ihrest ((key, v) :: done) frames hrest
    rw [List.reverse_cons, List.append_assoc, List.singleton_append]
    rw [fieldChars, List.append_assoc]
    · refine run?_append (run?_key done key) (run?_cons rfl (run?_append (ih (⟨done, key⟩ :: frames)) ?_))
      exact run?_cons rfl hfields
    · exact hrest

theorem run?_gaps (v : Json) {text : List Char} (h : ∀ c ∈ text, isGap c = true) :
    run? (complete v) text = some (complete v) := by
  induction text with
  | nil => rfl
  | cons c text ih =>
      obtain ⟨hc, htext⟩ := List.forall_mem_cons.1 h
      have hstep : (complete v).step? c = some (complete v) := if_pos hc
      exact run?_cons hstep (ih htext)

end State

/-- Reading undoes writing, whatever blanks follow. -/
theorem read?_text_append (v : Json) {gap : String} (h : ∀ c ∈ gap.toList, State.isGap c = true) :
    read? (v.text ++ gap) = some v := by
  have hvalue := State.run?_chars_and_fields.1 v []
  rw [read?, text, String.toList_append, String.toList_ofList,
    State.run?_append hvalue (State.run?_gaps v h)]
  rfl

theorem read?_text (v : Json) : read? v.text = some v := by
  have hnothing : ∀ c ∈ "".toList, State.isGap c = true := by simp
  have hread := read?_text_append v hnothing
  rwa [String.append_empty] at hread

example : read? "\x7b\"a\" : \x7b\x7d,\n\t\"b\":null \x7d" =
    some (.object [("a", .object []), ("b", .null)]) := rfl
example : read? "\"\\ud83d\\uDE00\\u00e9\\/\"\n" = some (.string "😀é/") := rfl
example : read? "\"\\ud83d\"" = none := rfl
example : read? "\x7b\"a\":true,\x7d" = none := rfl

/-- A text without the characters below U+0020. -/
def Visible (text : List Char) : Prop := ∀ c ∈ text, 0x20 ≤ c.toNat

instance (text : List Char) : Decidable (Visible text) :=
  decidable_of_iff (text.all (0x20 ≤ ·.toNat) = true) (by simp [Visible])

namespace Visible

theorem cons {c : Char} {text : List Char} (hc : 0x20 ≤ c.toNat) (htext : Visible text) :
    Visible (c :: text) := List.forall_mem_cons.2 ⟨hc, htext⟩

theorem append {front back : List Char} (hfront : Visible front) (hback : Visible back) :
    Visible (front ++ back) := List.forall_mem_append.2 ⟨hfront, hback⟩

end Visible

theorem visible_digitChar : ∀ n < 16, Visible [Nat.digitChar n] := by decide

theorem visible_escape (c : Char) : Visible (escape c) := by
  unfold escape
  split_ifs with hquote hslash hback htab hline hfeed hreturn hcontrol
  iterate 7 decide
  · have hmarks : Visible ['\\', 'u', '0', '0'] := by decide
    have hthird := visible_digitChar (c.toNat / 16) (by omega)
    have hfourth := visible_digitChar (c.toNat % 16) (by omega)
    exact hmarks.append (hthird.append hfourth)
  · exact Visible.cons (Nat.le_of_not_lt hcontrol) (by decide)

theorem visible_quoted (text : String) : Visible (quoted text) := by
  have hescapes : Visible (text.toList.flatMap escape) := by
    intro c hc
    obtain ⟨d, -, hd⟩ := List.mem_flatMap.1 hc
    exact visible_escape d c hd
  exact Visible.cons (by decide) (hescapes.append (by decide))

/-- What is written is one line, even where a text that it quotes is not. -/
theorem visible_chars_and_fields :
    (∀ v : Json, Visible v.chars) ∧ ∀ fields, Visible (fieldChars fields) := by
  refine chars.mutual_induct _ _ ?null ?yes ?no ?string ?object ?nil ?last ?more
  case null => decide
  case yes => decide
  case no => decide
  case string => exact visible_quoted
  case object =>
    intro fields ih
    rw [chars]
    exact Visible.cons (by decide) (ih.append (by decide))
  case nil => decide
  case last =>
    intro key v ih
    rw [fieldChars]
    exact (visible_quoted key).append (ih.cons (by decide))
  case more =>
    intro key v rest hrest ih ihrest
    rw [fieldChars]
    · exact ((visible_quoted key).append (ih.cons (by decide))).append (ihrest.cons (by decide))
    · exact hrest

end BracketToken.Json
