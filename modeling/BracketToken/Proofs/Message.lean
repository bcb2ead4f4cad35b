import BracketToken.Proofs.Canonical
import BracketToken.Proofs.DateFault
import BracketToken.Proofs.Draws
import BracketToken.Proofs.StringFault
import BracketToken.Proofs.Trim
import BracketToken.Proofs.Validation
import BracketToken.Response

/-!
What the errors of tokens quote, and how responses report them.

An error quotes the whole token or a word of it, so a message starts and ends with a character that
is no blank, and no message but that of a malformed token opens with the words that responses put in
front. Main statements: `withOpening_withOpening`, `DateToken.withOpening_message` and
`StringToken.withOpening_message`.
-/

namespace BracketToken

open Text

theorem not_prefix_append {α : Type} {opening front : List α} (rest : List α)
    (hlength : front.length ≤ opening.length) (h : ¬ front <+: opening) :
    ¬ opening <+: front ++ rest :=
  fun hopening => h (List.prefix_of_prefix_length_le (List.prefix_append front rest) hopening hlength)

namespace Response

structure IsMessage (message : String) : Prop where
  opening : malformedToken.toList <+: message.toList
  finish : SolidEnd message.toList

/-- A reason that a response reports behind its opening words, and as it is. -/
structure IsReason (reason : String) : Prop where
  ne : reason.toList ≠ []
  start : SolidStart reason.toList
  finish : SolidEnd reason.toList
  not_opening : ¬ malformedToken.toList <+: reason.toList

theorem malformedToken_solid :
    malformedToken.toList ≠ [] ∧ SolidStart malformedToken.toList ∧
      SolidEnd malformedToken.toList := by
  decide

theorem IsMessage.start {message : String} (h : IsMessage message) : SolidStart message.toList := by
  obtain ⟨rest, hrest⟩ := h.opening
  rw [← hrest]
  exact malformedToken_solid.2.1.append malformedToken_solid.1 rest

theorem IsMessage.withOpening_eq {message : String} (h : IsMessage message) :
    withOpening message = message := by
  have htrim := trim_eq_self h.start h.finish
  have hne : message.toList.isEmpty = false := by
    rw [List.isEmpty_eq_false_iff]
    intro hnil
    have hopening := h.opening
    rw [hnil, List.prefix_nil] at hopening
    exact malformedToken_solid.1 hopening
  simp only [withOpening, htrim, hne, List.isPrefixOf_iff_prefix.2 h.opening, Bool.false_eq_true,
    if_false, if_true, String.ofList_toList]

theorem isMessage_withOpening (reason : String) : IsMessage (withOpening reason) := by
  have hfinish := solidEnd_trim reason.toList
  rw [withOpening]
  split
  · exact ⟨List.prefix_refl _, malformedToken_solid.2.2⟩
  · next hne =>
      rw [List.isEmpty_iff] at hne
      split
      · next hopening =>
          rw [List.isPrefixOf_iff_prefix] at hopening
          exact ⟨by rwa [String.toList_ofList], by rwa [String.toList_ofList]⟩
      · refine ⟨?_, ?_⟩
        · rw [String.toList_append, String.toList_append, List.append_assoc]
          exact List.prefix_append _ _
        · rw [String.toList_append, String.toList_ofList]
          exact hfinish.append hne _

theorem withOpening_withOpening (reason : String) :
    withOpening (withOpening reason) = withOpening reason :=
  (isMessage_withOpening reason).withOpening_eq

theorem IsReason.withOpening_eq {reason : String} (h : IsReason reason) :
    withOpening reason = malformedToken ++ ": " ++ reason := by
  have htrim := trim_eq_self h.start h.finish
  have hopening : malformedToken.toList.isPrefixOf reason.toList = false := by
    rw [Bool.eq_false_iff, ne_eq, List.isPrefixOf_iff_prefix]
    exact h.not_opening
  simp only [withOpening, htrim, hopening, List.isEmpty_eq_false_iff.2 h.ne, Bool.false_eq_true,
    if_false, String.ofList_toList]

/-- What already opens as messages do loses the blanks at its end, and nothing else. -/
theorem withOpening_malformed {token : String} (h : trimEnd token.toList ≠ []) :
    withOpening (malformedToken ++ ": " ++ token) =
      malformedToken ++ ": " ++ .ofList (trimEnd token.toList) := by
  have hsolid := malformedToken_solid
  have hstart := hsolid.2.1.append hsolid.1 (": ".toList ++ token.toList)
  have htrim : trim (malformedToken.toList ++ (": ".toList ++ token.toList)) =
      malformedToken.toList ++ (": ".toList ++ trimEnd token.toList) := by
    rw [trim, trimStart_eq_self hstart, ← List.append_assoc, trimEnd_append _ h, List.append_assoc]
  have hopening : malformedToken.toList.isPrefixOf
      (malformedToken.toList ++ (": ".toList ++ trimEnd token.toList)) = true := by
    rw [List.isPrefixOf_iff_prefix]
    exact List.prefix_append _ _
  have hne : (malformedToken.toList ++ (": ".toList ++ trimEnd token.toList)).isEmpty = false := by
    rw [List.isEmpty_eq_false_iff]
    exact List.append_ne_nil_of_left_ne_nil hsolid.1 _
  rw [withOpening]
  simp only [String.toList_append, List.append_assoc, htrim, hopening, hne, Bool.false_eq_true,
    if_false, if_true]
  rw [← String.toList_inj]
  simp only [String.toList_append, String.toList_ofList, List.append_assoc]

/-- What a response says of a message: the opening words and a reason behind them. -/
structure Shows (message reason : String) : Prop where
  eq : withOpening message = malformedToken ++ ": " ++ reason
  not_blank : reason.toList.all isBlank = false

theorem IsReason.shows {reason : String} (h : IsReason reason) : Shows reason reason :=
  ⟨h.withOpening_eq, all_isBlank_eq_false h.ne h.finish⟩

theorem shows_malformed {token : String} (h : token.toList.all isBlank = false) :
    Shows (malformedToken ++ ": " ++ token) (.ofList (trimEnd token.toList)) := by
  have hne := trimEnd_ne_nil h
  refine ⟨withOpening_malformed hne, ?_⟩
  rw [String.toList_ofList]
  exact all_isBlank_eq_false hne (solidEnd_trimEnd _)

theorem append_solid (front : String) {text : String} (h : text.toList ≠ [] ∧ SolidEnd text.toList) :
    (front ++ text).toList ≠ [] ∧ SolidEnd (front ++ text).toList := by
  rw [String.toList_append]
  exact ⟨List.append_ne_nil_of_right_ne_nil _ h.1, h.2.append h.1 _⟩

/-- Words in front that differ from the opening words make a reason of what ends as one. -/
theorem isReason_append {front text : String}
    (hfront : front.toList ≠ [] ∧ SolidStart front.toList ∧ front.length ≤ malformedToken.length ∧
      ¬ front.toList <+: malformedToken.toList)
    (htext : text.toList ≠ [] ∧ SolidEnd text.toList) : IsReason (front ++ text) := by
  obtain ⟨hne, hstart, hlength, hdiffers⟩ := hfront
  obtain ⟨hne', hend⟩ := append_solid front htext
  refine ⟨hne', ?_, hend, ?_⟩ <;> rw [String.toList_append]
  · exact hstart.append hne _
  · exact not_prefix_append _ hlength hdiffers

theorem isBlankToken_eq (token : String) : isBlankToken token = token.toList.all isBlank := by
  rw [Bool.eq_iff_iff, isBlankToken, List.isEmpty_iff, trim_eq_nil_iff, List.all_eq_true]

end Response

namespace DateToken

open Calendar Numeral Response

/-- What an error shows of a token: all of it, or a word. -/
def Error.Quotes (token : String) : Error → Prop
  | .invalidFormat quoted => quoted = token
  | .invalidMonth word => IsWord word.toList
  | .invalidYear word => IsWord word.toList
  | .invalidUnit word => IsWord word.toList
  | .outOfRange _ => True

theorem isBlank_of_isWordChar {c : Char} (h : isWordChar c = true) : isBlank c = false := by
  apply isBlank_of_visible
  simp only [isWordChar, Char.isAlphanum, Bool.or_eq_true, decide_eq_true_eq, isAlpha_iff] at h
  rcases h with (hletter | hdigit) | rfl
  · omega
  · have hmem := toNat_mem_of_isDigit hdigit
    omega
  · decide

theorem FirstMisfit.quotes {token : String} {text : List Char} {e : Error}
    (h : FirstMisfit token text e) : e.Quotes token := by
  induction h with
  | here h =>
      cases h with
      | shape hne hopens => rfl
      | unit hopens hunit =>
          rw [Error.Quotes, String.toList_ofList]
          exact hopens.word.isWord
      | amount hopens hlarge => trivial
  | later hc hrest _ ih => exact ih

theorem BoundaryFault.quotes {token : String} {body : List Char} {e : Error}
    (h : BoundaryFault token body e) : e.Quotes token := by
  cases h with
  | shape hshaped => rfl
  | month hshaped hmonth =>
      rw [Error.Quotes, String.toList_ofList]
      exact hshaped.name
  | year hshaped hmonth hyear =>
      rw [Error.Quotes, String.toList_ofList]
      exact isWord_of_isDigits hshaped.year

theorem quotes_of_read {token : String} {e : Error} (h : (read token).outcome = .error e) :
    e.Quotes token := by
  rw [read_outcome] at h
  split at h
  · cases h
    rfl
  · next body hinner =>
      split at h
      · exact (clauses_eq_error_iff.1 (map_eq_error_iff.1 h)).quotes
      · exact (boundary_eq_error_iff.1 (map_eq_error_iff.1 h)).quotes

theorem quotes_of_evaluate {token : String} {now : Instant} {e : Error}
    (h : (evaluate token now).outcome = .error e) : e.Quotes token := by
  cases hread : (read token).outcome with
  | error e' =>
      rw [evaluate_of_read_error hread, Except.error.injEq] at h
      exact h ▸ quotes_of_read hread
  | ok tree =>
      cases tree with
      | relative anchor adjustments =>
          rw [evaluate_of_read_relative hread] at h
          obtain ⟨cause, rfl⟩ := isOutOfRange_of_relative h
          trivial
      | monthBoundary b =>
          obtain ⟨instant, hinstant⟩ := exists_instant_of_read_boundary hread
          rw [hinstant now] at h
          cases h

theorem IsWord.solidStart {text : List Char} (h : IsWord text) : SolidStart text :=
  (solid_of_forall fun c hc => isBlank_of_isWordChar (h.2 c hc)).1

/-- The opening words hold a word of letters and then another, which no reason with a colon after
its first word does. -/
theorem IsWord.not_opening {text : List Char} (h : IsWord text) (rest : List Char) :
    ¬ malformedToken.toList <+: text ++ ' ' :: ':' :: rest := by
  rintro ⟨back, hback⟩
  have hopening : malformedToken.toList = "Invalid".toList ++ " string token format".toList := by
    decide
  have hword : (text ++ ' ' :: ':' :: rest).dropWhile isWordChar = ' ' :: ':' :: rest := by
    refine (span_append h.2 ?_).2
    rintro c ⟨⟩
    decide
  have hinvalid : ("Invalid".toList ++ (" string token format".toList ++ back)).dropWhile isWordChar =
      " string token format".toList ++ back := by
    refine (span_append (List.all_eq_true.1 (by decide)) ?_).2
    rintro c ⟨⟩
    decide
  rw [hopening, List.append_assoc] at hback
  rw [← hback, hinvalid] at hword
  cases hword

theorem isReason_unrecognized {word : String} (h : IsWord word.toList) (tail : String)
    (htail : [' ', ':'] <+: tail.toList) (hend : SolidEnd tail.toList) :
    IsReason (word ++ tail) := by
  obtain ⟨rest, hrest⟩ := htail
  have hopening := h.not_opening rest
  rw [List.cons_append, List.singleton_append] at hrest
  have hne : tail.toList ≠ [] := by
    rw [← hrest]
    exact List.cons_ne_nil _ _
  rw [hrest] at hopening
  refine ⟨?_, ?_, ?_, ?_⟩ <;> rw [String.toList_append]
  · exact List.append_ne_nil_of_left_ne_nil h.1 _
  · exact h.solidStart.append h.1 _
  · exact hend.append hne _
  · exact hopening

theorem padded_solid (width n : Nat) : padded width n ≠ [] ∧ SolidEnd (padded width n) := by
  have hdigits := isDigits_padded width n
  exact ⟨hdigits.1, (solid_of_forall fun c hc => isBlank_of_isDigit (hdigits.2 c hc)).2⟩

theorem date_solid (d : Date) : d.text.toList ≠ [] ∧ SolidEnd d.text.toList := by
  have hday := padded_solid 2 d.day
  rw [Date.text, String.toList_ofList, Date.chars, List.append_cons]
  exact ⟨List.append_ne_nil_of_right_ne_nil _ hday.1, hday.2.append hday.1 _⟩

theorem RangeCause.message_solid (cause : RangeCause) :
    cause.message.toList ≠ [] ∧ SolidEnd cause.message.toList := by
  cases cause with
  | amount digits unit =>
      obtain ⟨hne, hletters⟩ := unit.isLetters_keyword
      have hsolid := solid_of_forall fun c hc => isBlank_of_isWordChar
        (isWordChar_of_isAlpha (hletters c hc))
      exact append_solid _ ⟨hne, hsolid.2⟩
  | anchor start today => exact append_solid _ (date_solid today)
  | adjustment step date => exact append_solid _ (date_solid date)
  | year date => exact append_solid _ (by decide)

theorem Error.Quotes.isReason {token : String} {e : Error} (h : e.Quotes token)
    (hformat : ∀ quoted, e ≠ .invalidFormat quoted) : IsReason e.message := by
  cases e with
  | invalidFormat quoted => exact absurd rfl (hformat quoted)
  | invalidMonth word =>
      exact isReason_unrecognized h " : UNRECOGNISED - Invalid month" (by decide) (by decide)
  | invalidYear word =>
      exact isReason_unrecognized h " : UNRECOGNISED - Invalid year" (by decide) (by decide)
  | invalidUnit word =>
      exact isReason_unrecognized h " : UNRECOGNISED - Invalid date section" (by decide) (by decide)
  | outOfRange cause => exact isReason_append (by decide) cause.message_solid

/-- What is said of an error behind the opening words: a malformed token is shown without the blanks
at its end, and every other message as it is. -/
def Error.reason (token : String) : Error → String
  | .invalidFormat _ => .ofList (Text.trimEnd token.toList)
  | e => e.message

theorem Error.Quotes.shows {token : String} {e : Error} (h : e.Quotes token)
    (hblank : token.toList.all Text.isBlank = false) : Shows e.message (e.reason token) := by
  cases e with
  | invalidFormat quoted =>
      rw [Quotes] at h
      rw [h]
      exact shows_malformed hblank
  | invalidMonth word => exact (h.isReason (by simp)).shows
  | invalidYear word => exact (h.isReason (by simp)).shows
  | invalidUnit word => exact (h.isReason (by simp)).shows
  | outOfRange cause => exact (h.isReason (by simp)).shows

end DateToken

namespace StringToken

open Response

/-- The token that an error shows. Every error shows one. -/
def Error.quoted : Error → String
  | .invalidFormat token => token
  | .unknownAlphabet _ token => token
  | .invalidLength token => token
  | .invalidLineCount token => token
  | .emptyPool token => token

theorem SegmentsFault.quoted_eq {token : String} {segments : List (List Char)} {e : Error}
    (h : SegmentsFault token segments e) : e.quoted = token := by
  cases h <;> rfl

/-- Only what is between brackets can be refused for more than its shape. -/
theorem quoted_of_read {token : String} {e : Error} (h : (read token).outcome = .error e) :
    e.quoted = token ∧ (e = .invalidFormat token ∨ SolidEnd token.toList) := by
  rw [read_outcome] at h
  split at h
  · cases h
    exact ⟨rfl, .inl rfl⟩
  · next body hinner =>
      refine ⟨(ofSegments_eq_error_iff.1 h).quoted_eq, .inr ?_⟩
      rw [(Bracket.inner?_eq_some_iff.1 hinner).1]
      exact SolidEnd.append (by decide) (by decide) _

/-- No message but that of a malformed token opens as one. -/
theorem Error.isReason_message {e : Error} (htoken : e.quoted.toList ≠ [] ∧ SolidEnd e.quoted.toList)
    (hformat : ∀ quoted, e ≠ .invalidFormat quoted) : IsReason e.message := by
  cases e with
  | invalidFormat quoted => exact absurd rfl (hformat quoted)
  | unknownAlphabet name token =>
      have hmessage : (unknownAlphabet name token).message =
          "Invalid character type '" ++ (name ++ ("' in token: " ++ token)) := by
        rw [← String.append_assoc, ← String.append_assoc]
        rfl
      rw [hmessage]
      exact isReason_append (by decide) (append_solid _ (append_solid _ htoken))
  | invalidLength token =>
      change IsReason ("Invalid length in token: " ++ token)
      exact isReason_append (by decide) htoken
  | invalidLineCount token =>
      have hmessage : (invalidLineCount token).message =
          "Invalid line" ++ (" count in token: " ++ token) := by
        rw [← String.append_assoc]
        rfl
      rw [hmessage]
      exact isReason_append (by decide) (append_solid _ htoken)
  | emptyPool token =>
      have hmessage : (emptyPool token).message =
          "No valid" ++ (" character types found in token: " ++ token) := by
        rw [← String.append_assoc]
        rfl
      rw [hmessage]
      exact isReason_append (by decide) (append_solid _ htoken)

def Error.reason (token : String) : Error → String
  | .invalidFormat _ => .ofList (Text.trimEnd token.toList)
  | e => e.message

theorem Error.shows_of_read {token : String} {e : Error} (h : (read token).outcome = .error e)
    (hblank : token.toList.all Text.isBlank = false) : Shows e.message (e.reason token) := by
  obtain ⟨hquoted, hend⟩ := quoted_of_read h
  have hne : token.toList ≠ [] := by
    rintro hnil
    rw [hnil] at hblank
    cases hblank
  have hreason (hformat : ∀ quoted, e ≠ .invalidFormat quoted) : IsReason e.message := by
    apply isReason_message _ hformat
    rw [hquoted]
    exact ⟨hne, hend.resolve_left (hformat token)⟩
  cases e with
  | invalidFormat quoted =>
      rw [Error.quoted] at hquoted
      rw [hquoted]
      exact shows_malformed hblank
  | unknownAlphabet name quoted => exact (hreason (by simp)).shows
  | invalidLength quoted => exact (hreason (by simp)).shows
  | invalidLineCount quoted => exact (hreason (by simp)).shows
  | emptyPool quoted => exact (hreason (by simp)).shows

end StringToken

end BracketToken
