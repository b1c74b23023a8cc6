import FittingSchlongs.Foundation.Segments
import FittingSchlongs.Foundation.SeparatedWords
import FittingSchlongs.Text.SearchText

/-! # Normalisation as tokenisation

The one-pass loop that normalises a field writes the maximal tokens of the field,
lowercased, with one space between them. Where a token ends is decided by the dropped
bytes and by the two or three bytes around a position.
-/

namespace FittingSchlongs.Text
open Foundation.Segments Foundation.SeparatedWords

/-! ## Tokens -/

/-- ASCII bytes that are neither letters nor digits are dropped. -/
def isKeptByte (ch : Byte) : Bool := isAsciiAlphaNumeric ch || 0x80 ≤ ch

/-- A token ends between `before` and `ch`, where `next` may follow `ch`. -/
def CutBetween (before ch : Byte) (next : Option Byte) : Prop :=
  isAsciiAlphaNumeric before = true ∧ isAsciiAlphaNumeric ch = true ∧
    (isAsciiAlpha before = true ∧ isAsciiDigit ch = true ∨
      isAsciiDigit before = true ∧ isAsciiAlpha ch = true ∨
      (isAsciiLower before = true ∨ isAsciiDigit before = true) ∧ isAsciiUpper ch = true ∨
      isAsciiUpper before = true ∧ isAsciiUpper ch = true ∧ ∃ z ∈ next, isAsciiLower z = true)

instance (before ch : Byte) (next : Option Byte) : Decidable (CutBetween before ch next) :=
  inferInstanceAs (Decidable (_ ∧ _ ∧ (_ ∨ _ ∨ _ ∨ _)))

def KeptAt (value : Bytes) (i : ℕ) : Prop := ∃ ch ∈ value[i]?, isKeptByte ch = true

def CutAt (value : Bytes) (i : ℕ) : Prop :=
  0 < i ∧ ∃ before ∈ value[i - 1]?, ∃ ch ∈ value[i]?, CutBetween before ch value[i + 1]?

instance (value : Bytes) (i : ℕ) : Decidable (CutAt value i) :=
  inferInstanceAs (Decidable (0 < i ∧ ∃ before ∈ value[i - 1]?, ∃ ch ∈ value[i]?,
    CutBetween before ch value[i + 1]?))

/-- The bytes from `a` to before `b` are a maximal token of the text. -/
def IsToken (value : Bytes) (a b : ℕ) : Prop :=
  IsSegment (KeptAt value) (CutAt value) value.length a b

/-- The lowercased bytes of a span. -/
def token (value : Bytes) (span : ℕ × ℕ) : Bytes := toLower ((value.take span.2).drop span.1)

def joinTokens (value : Bytes) (spans : List (ℕ × ℕ)) : Bytes :=
  [space].intercalate (spans.map (token value))

/-! ## Bytes -/

theorem digit_not_alpha : ∀ ch : Byte, isAsciiDigit ch = true → isAsciiAlpha ch = false := by decide

theorem toLowerByte_kept : ∀ ch : Byte, isKeptByte ch = true →
    isAsciiLower (toLowerByte ch) = true ∨ isAsciiDigit (toLowerByte ch) = true ∨
      0x80 ≤ toLowerByte ch := by decide

theorem toLowerByte_ne_space : ∀ ch : Byte, isKeptByte ch = true → toLowerByte ch ≠ space := by
  decide

theorem alphaNumeric_of_upper {ch : Byte} (h : isAsciiUpper ch = true) :
    isAsciiAlphaNumeric ch = true := by
  have halpha : isAsciiAlpha ch = true := Bool.or_eq_true_iff.mpr (Or.inl h)
  simp [isAsciiAlphaNumeric, halpha]

theorem alphaNumeric_of_lower {ch : Byte} (h : isAsciiLower ch = true) :
    isAsciiAlphaNumeric ch = true := by
  have halpha : isAsciiAlpha ch = true := Bool.or_eq_true_iff.mpr (Or.inr h)
  simp [isAsciiAlphaNumeric, halpha]

theorem alphaNumeric_of_digit {ch : Byte} (h : isAsciiDigit ch = true) :
    isAsciiAlphaNumeric ch = true := by
  simp [isAsciiAlphaNumeric, h]

theorem alphaDigit_iff {before ch : Byte} :
    (isAsciiAlphaNumeric ch && isAsciiAlphaNumeric before &&
        (isAsciiDigit ch != isAsciiDigit before)) = true ↔
      isAsciiAlpha before = true ∧ isAsciiDigit ch = true ∨
        isAsciiDigit before = true ∧ isAsciiAlpha ch = true := by
  have hch := digit_not_alpha ch
  have hbefore := digit_not_alpha before
  simp only [isAsciiAlphaNumeric]
  cases hdigit : isAsciiDigit ch <;> cases hdigit' : isAsciiDigit before <;> simp_all

theorem splitsBefore_iff {before ch : Byte} {next : Option Byte} :
    splitsBefore before ch (next.getD 0) = true ↔ CutBetween before ch next := by
  have hnext : isAsciiLower (next.getD 0) = true ↔ ∃ z ∈ next, isAsciiLower z = true := by
    cases next with
    | none => simp [isAsciiLower]
    | some z => simp
  simp only [splitsBefore, CutBetween]
  rw [Bool.or_eq_true, alphaDigit_iff]
  simp only [Bool.and_eq_true, Bool.or_eq_true, hnext]
  constructor
  · rintro (⟨hupper, (hbefore | hbefore) | hbefore⟩ | hdigit | hdigit)
    · exact ⟨alphaNumeric_of_lower hbefore, alphaNumeric_of_upper hupper,
        Or.inr (Or.inr (Or.inl ⟨Or.inl hbefore, hupper⟩))⟩
    · exact ⟨alphaNumeric_of_digit hbefore, alphaNumeric_of_upper hupper,
        Or.inr (Or.inr (Or.inl ⟨Or.inr hbefore, hupper⟩))⟩
    · exact ⟨alphaNumeric_of_upper hbefore.1, alphaNumeric_of_upper hupper,
        Or.inr (Or.inr (Or.inr ⟨hbefore.1, hupper, hbefore.2⟩))⟩
    · exact ⟨by simp [isAsciiAlphaNumeric, hdigit.1], alphaNumeric_of_digit hdigit.2, Or.inl hdigit⟩
    · exact ⟨alphaNumeric_of_digit hdigit.1, by simp [isAsciiAlphaNumeric, hdigit.2],
        Or.inr (Or.inl hdigit)⟩
  · rintro ⟨-, -, hdigit | hdigit | ⟨hbefore, hupper⟩ | ⟨hbefore, hupper, hlower⟩⟩
    · exact Or.inr (Or.inl hdigit)
    · exact Or.inr (Or.inr hdigit)
    · exact Or.inl ⟨hupper, Or.inl hbefore⟩
    · exact Or.inl ⟨hupper, Or.inr ⟨hbefore, hlower⟩⟩

/-! ## One step of the loop -/

theorem toLowerByte_nonAscii : ∀ ch : Byte, 0x80 ≤ ch → toLowerByte ch = ch := by decide

theorem splitsBefore_of_not_alphaNumeric {previous ch next : Byte}
    (h : isAsciiAlphaNumeric previous = false ∨ isAsciiAlphaNumeric ch = false) :
    splitsBefore previous ch next = false := by
  rw [Bool.eq_false_iff]
  intro hsplit
  have hcut : CutBetween previous ch (some next) := splitsBefore_iff.mp hsplit
  cases h with
  | inl hprevious => exact Bool.false_ne_true (hprevious.symm.trans hcut.1)
  | inr hch => exact Bool.false_ne_true (hch.symm.trans hcut.2.1)

theorem splitsBefore_dropped {previous ch next : Byte} (h : isKeptByte ch = false) :
    splitsBefore previous ch next = false :=
  splitsBefore_of_not_alphaNumeric (Or.inr (Bool.or_eq_false_iff.mp h).1)

theorem searchTextStep_kept {previous ch next : Byte} (h : isKeptByte ch = true) (output : Bytes) :
    searchTextStep previous ch next output =
      (if output ≠ [] ∧ splitsBefore previous ch next = true then output ++ [space] else output) ++
        [toLowerByte ch] := by
  have hguard : (!output.isEmpty && splitsBefore previous ch next) = true ↔
      output ≠ [] ∧ splitsBefore previous ch next = true := by simp
  simp only [searchTextStep, hguard]
  by_cases hnumeric : isAsciiAlphaNumeric ch = true
  · rw [if_pos hnumeric]
  · have hnonAscii : 0x80 ≤ ch := by simpa [isKeptByte, hnumeric] using h
    rw [if_neg hnumeric, if_pos hnonAscii, toLowerByte_nonAscii ch hnonAscii]

theorem searchTextStep_dropped {previous ch next : Byte} (h : isKeptByte ch = false)
    (output : Bytes) :
    searchTextStep previous ch next output =
      if output ≠ [] ∧ output.getLast? ≠ some space then output ++ [space] else output := by
  obtain ⟨hnumeric, hascii⟩ := Bool.or_eq_false_iff.mp h
  have hascii' : ¬0x80 ≤ ch := by simpa using hascii
  simp only [searchTextStep, splitsBefore_dropped h, hnumeric, Bool.and_false, Bool.false_eq_true,
    ↓reduceIte]
  rw [if_neg hascii']
  simp

/-! ## The joined tokens -/

theorem joinTokens_concat (value : Bytes) {spans : List (ℕ × ℕ)} (hspans : spans ≠ [])
    (span : ℕ × ℕ) :
    joinTokens value (spans ++ [span]) = joinTokens value spans ++ space :: token value span := by
  have hwords : spans.map (token value) ≠ [] := by simpa using hspans
  rw [joinTokens, List.map_append, List.map_singleton, intercalate_concat hwords]
  rfl

theorem joinTokens_singleton (value : Bytes) (span : ℕ × ℕ) :
    joinTokens value [span] = token value span :=
  List.intercalate_singleton

section Positions

variable {value : Bytes} {a n : ℕ} {ch : Byte}

theorem token_extend (ha : a ≤ n) (hch : value[n]? = some ch) :
    token value (a, n + 1) = token value (a, n) ++ [toLowerByte ch] := by
  have hn := (List.getElem?_eq_some_iff.mp hch).1
  have hlength : a ≤ (value.take n).length := by
    rw [List.length_take]
    omega
  simp only [token, toLower]
  rw [List.take_add_one, hch, Option.toList_some, List.drop_append_of_le_length hlength,
    List.map_append, List.map_singleton]

theorem token_start (hch : value[n]? = some ch) : token value (n, n + 1) = [toLowerByte ch] := by
  rw [token_extend (le_refl n) hch]
  simp [token, toLower]

theorem joinTokens_extend (ha : a ≤ n) (hch : value[n]? = some ch) (done : List (ℕ × ℕ)) :
    joinTokens value (done ++ [(a, n + 1)]) =
      joinTokens value (done ++ [(a, n)]) ++ [toLowerByte ch] := by
  by_cases hdone : done = []
  · rw [hdone, List.nil_append, List.nil_append, joinTokens_singleton, joinTokens_singleton,
      token_extend ha hch]
  · rw [joinTokens_concat value hdone, joinTokens_concat value hdone, token_extend ha hch]
    simp

theorem token_spec {b : ℕ} (h : IsSegment (KeptAt value) (CutAt value) n a b)
    (hn : n ≤ value.length) : token value (a, b) ≠ [] ∧ space ∉ token value (a, b) := by
  have hlt := h.lt
  have hle := h.le
  apply And.intro
  · intro hempty
    have hlength := congrArg List.length hempty
    simp [token, toLower] at hlength
    omega
  · simp only [token, toLower, List.mem_map, not_exists, not_and]
    intro ch hch
    obtain ⟨i, hi⟩ := List.mem_iff_getElem?.mp hch
    rw [List.getElem?_drop, List.getElem?_take] at hi
    split_ifs at hi with hib
    obtain ⟨kept, hkept, hbyte⟩ := h.all_kept (a + i) (Nat.le_add_right a i) hib
    rw [Option.mem_def, hi] at hkept
    rw [Option.some.inj hkept]
    exact toLowerByte_ne_space kept hbyte

end Positions

theorem joinTokens_words {value : Bytes} {n : ℕ} {spans : List (ℕ × ℕ)}
    (h : AllSegments (KeptAt value) (CutAt value) n spans) (hn : n ≤ value.length) :
    Separated space (spans.map (token value)) ∧ [] ∉ spans.map (token value) := by
  have hspec : ∀ span ∈ spans, token value span ≠ [] ∧ space ∉ token value span := fun span hmem =>
    token_spec ((h.mem_iff span.1 span.2).mp hmem) hn
  apply And.intro
  · intro word hword
    obtain ⟨span, hmem, rfl⟩ := List.mem_map.mp hword
    exact (hspec span hmem).2
  · intro hempty
    obtain ⟨span, hmem, hnil⟩ := List.mem_map.mp hempty
    exact (hspec span hmem).1 hnil

theorem joinTokens_ne_nil {value : Bytes} {spans : List (ℕ × ℕ)} (hspans : spans ≠ [])
    (hwords : [] ∉ spans.map (token value)) : joinTokens value spans ≠ [] :=
  intercalate_ne_nil (List.map_eq_nil_iff.not.mpr hspans) hwords

/-! ## The loop -/

/-- After `n` bytes the loop has written their tokens, and a space if the last byte was dropped. -/
def Written (value : Bytes) (n : ℕ) (output : Bytes) : Prop :=
  ∃ spans, AllSegments (KeptAt value) (CutAt value) n spans ∧
    (output = joinTokens value spans ∧ (spans = [] ∨ KeptAt value (n - 1)) ∨
      output = joinTokens value spans ++ [space] ∧ spans ≠ [] ∧ ¬KeptAt value (n - 1))

section Step

variable {value done rest : Bytes} {ch : Byte}

theorem keptAt_iff (hvalue : value = done ++ ch :: rest) :
    KeptAt value done.length ↔ isKeptByte ch = true := by
  simp [KeptAt, hvalue]

theorem keptAt_of_cutAt {i : ℕ} (h : CutAt value i) : KeptAt value (i - 1) := by
  obtain ⟨-, before, hbefore, ch, -, hnumeric, -⟩ := h
  exact ⟨before, hbefore, by simp [isKeptByte, hnumeric]⟩

theorem cutAt_iff (hvalue : value = done ++ ch :: rest) (hdone : done ≠ []) :
    CutAt value done.length ↔ splitsBefore (done.getLastD 0) ch (rest.headD 0) = true := by
  cases done using List.reverseRecOn with
  | nil => exact absurd rfl hdone
  | append_singleton earlier before =>
    have hbefore : value[(earlier ++ [before]).length - 1]? = some before := by simp [hvalue]
    have hch : value[(earlier ++ [before]).length]? = some ch := by simp [hvalue]
    have hnext : value[(earlier ++ [before]).length + 1]? = rest.head? := by
      rw [hvalue, List.getElem?_append_right (Nat.le_succ _)]
      simp [List.head?_eq_getElem?]
    have hlast : (earlier ++ [before]).getLastD 0 = before := by simp
    have hhead : rest.headD 0 = rest.head?.getD 0 := by cases rest <;> rfl
    rw [hlast, hhead, splitsBefore_iff]
    simp only [CutAt, hbefore, hch, hnext, Option.mem_def, Option.some.injEq, exists_eq_left']
    simp

theorem Written.dropped {output : Bytes} (hvalue : value = done ++ ch :: rest)
    (hch : isKeptByte ch = false) (previous next : Byte) (h : Written value done.length output) :
    Written value (done.length + 1) (searchTextStep previous ch next output) := by
  obtain ⟨spans, hspans, hout⟩ := h
  have hn : done.length ≤ value.length := by simp [hvalue]
  have hnow : ¬KeptAt value done.length := by simp [keptAt_iff hvalue, hch]
  obtain ⟨hseparated, hwords⟩ := joinTokens_words hspans hn
  refine ⟨spans, hspans.skip hnow, ?_⟩
  rw [searchTextStep_dropped hch]
  rcases hout with ⟨rfl, -⟩ | ⟨rfl, hsome, -⟩
  · by_cases hnone : spans = []
    · left
      simp [hnone, joinTokens, List.intercalate]
    · right
      have hlast := (intercalate_tidy hseparated hwords).2.1
      rw [if_pos ⟨joinTokens_ne_nil hnone hwords, hlast⟩]
      exact ⟨rfl, hnone, hnow⟩
  · right
    rw [if_neg (by simp)]
    exact ⟨rfl, hsome, hnow⟩

theorem Written.extended {output : Bytes} (hvalue : value = done ++ ch :: rest)
    (hch : isKeptByte ch = true) (hzero : 0 < done.length) (hlast : KeptAt value (done.length - 1))
    (hcut : ¬CutAt value done.length) (h : Written value done.length output) :
    Written value (done.length + 1)
      (searchTextStep (done.getLastD 0) ch (rest.headD 0) output) := by
  obtain ⟨spans, hspans, hout⟩ := h
  have hbyte : value[done.length]? = some ch := by simp [hvalue]
  have hnow : KeptAt value done.length := (keptAt_iff hvalue).mpr hch
  obtain ⟨earlier, a, rfl⟩ := hspans.last hzero hlast
  have ha := ((hspans.mem_iff a done.length).mp (by simp)).lt
  have hsplit := (cutAt_iff hvalue (List.ne_nil_of_length_pos hzero)).not.mp hcut
  refine ⟨_, hspans.extend hnow hcut, Or.inl ⟨?_, Or.inr hnow⟩⟩
  rw [searchTextStep_kept hch, if_neg fun hguard => hsplit hguard.2, joinTokens_extend ha.le hbyte]
  rcases hout with ⟨rfl, -⟩ | ⟨-, -, hdropped⟩
  · rfl
  · exact absurd hlast hdropped

theorem Written.started {output : Bytes} (hvalue : value = done ++ ch :: rest)
    (hch : isKeptByte ch = true)
    (hbegins : done.length = 0 ∨ ¬KeptAt value (done.length - 1) ∨ CutAt value done.length)
    (h : Written value done.length output) :
    Written value (done.length + 1)
      (searchTextStep (done.getLastD 0) ch (rest.headD 0) output) := by
  obtain ⟨spans, hspans, hout⟩ := h
  have hn : done.length ≤ value.length := by simp [hvalue]
  have hbyte : value[done.length]? = some ch := by simp [hvalue]
  have hnow : KeptAt value done.length := (keptAt_iff hvalue).mpr hch
  refine ⟨_, hspans.start hnow hbegins, Or.inl ⟨?_, Or.inr hnow⟩⟩
  rw [searchTextStep_kept hch]
  by_cases hnone : spans = []
  · subst hnone
    rcases hout with ⟨rfl, -⟩ | ⟨-, hsome, -⟩
    · rw [List.nil_append, joinTokens_singleton, token_start hbyte]
      simp [joinTokens, List.intercalate]
    · exact absurd rfl hsome
  · obtain ⟨span, hmem⟩ := List.exists_mem_of_ne_nil spans hnone
    have hspan := (hspans.mem_iff span.1 span.2).mp hmem
    have hdone : 0 < done.length := (Nat.zero_le _).trans_lt (hspan.lt.trans_le hspan.le)
    have hcut := cutAt_iff hvalue (List.ne_nil_of_length_pos hdone)
    obtain ⟨-, hwords⟩ := joinTokens_words hspans hn
    rw [joinTokens_concat value hnone, token_start hbyte]
    rcases hout with ⟨rfl, hkept⟩ | ⟨rfl, -, hdropped⟩
    · have hcuts := (hbegins.resolve_left hdone.ne').resolve_left
        (not_not_intro (hkept.resolve_left hnone))
      rw [if_pos ⟨joinTokens_ne_nil hnone hwords, hcut.mp hcuts⟩, List.append_assoc,
        List.singleton_append]
    · -- The space behind the dropped byte is already there.
      have hsplit : ¬splitsBefore (done.getLastD 0) ch (rest.headD 0) = true := fun hsplit =>
        hdropped (keptAt_of_cutAt (hcut.mpr hsplit))
      rw [if_neg fun hguard => hsplit hguard.2, List.append_assoc, List.singleton_append]

theorem Written.step {output : Bytes} (hvalue : value = done ++ ch :: rest)
    (h : Written value done.length output) :
    Written value (done.length + 1)
      (searchTextStep (done.getLastD 0) ch (rest.headD 0) output) := by
  cases hch : isKeptByte ch with
  | false => exact h.dropped hvalue hch _ _
  | true =>
    by_cases hbegins : done.length = 0 ∨ ¬KeptAt value (done.length - 1) ∨ CutAt value done.length
    · exact h.started hvalue hch hbegins
    · simp only [not_or, not_not] at hbegins
      exact h.extended hvalue hch (Nat.pos_of_ne_zero hbegins.1) hbegins.2.1 hbegins.2.2

theorem Written.loop {output : Bytes} (hvalue : value = done ++ rest)
    (h : Written value done.length output) :
    Written value value.length (searchTextLoop (done.getLastD 0) rest output) := by
  induction rest generalizing done output with
  | nil =>
    rw [List.append_nil] at hvalue
    rw [hvalue] at h ⊢
    exact h
  | cons ch rest ih =>
    have hnext : value = (done ++ [ch]) ++ rest := by simp [hvalue]
    have hstep := h.step hvalue
    have hlength : (done ++ [ch]).length = done.length + 1 := by simp
    rw [← hlength] at hstep
    have hloop := ih hnext hstep
    rw [List.getLastD_concat] at hloop
    exact hloop

end Step

theorem written_nil (value : Bytes) : Written value 0 [] :=
  ⟨[], allSegments_zero, Or.inl ⟨rfl, Or.inl rfl⟩⟩

theorem buildSearchTextPart_of_space {value text : Bytes}
    (h : searchTextLoop 0 value [] = text ++ [space]) : buildSearchTextPart value = text := by
  simp only [buildSearchTextPart, h]
  rw [if_pos (by simp), List.dropLast_concat]

theorem buildSearchTextPart_of_tidy {value : Bytes}
    (h : (searchTextLoop 0 value []).getLast? ≠ some space) :
    buildSearchTextPart value = searchTextLoop 0 value [] := by
  rw [buildSearchTextPart]
  exact if_neg fun hguard => h (beq_iff_eq.mp (Bool.and_eq_true_iff.mp hguard).2)

/-- The loop writes the joined tokens, with a space behind them if the last byte was dropped. -/
theorem searchTextLoop_tokens (value : Bytes) :
    ∃ spans, AllSegments (KeptAt value) (CutAt value) value.length spans ∧
      (searchTextLoop 0 value [] = joinTokens value spans ∨
        searchTextLoop 0 value [] = joinTokens value spans ++ [space] ∧ spans ≠ []) := by
  have hvalue : value = [] ++ value := rfl
  obtain ⟨spans, hspans, hout⟩ := Written.loop hvalue (written_nil value)
  refine ⟨spans, hspans, ?_⟩
  cases hout with
  | inl hkept => exact Or.inl hkept.1
  | inr hdropped => exact Or.inr ⟨hdropped.1, hdropped.2.1⟩

theorem joinTokens_tidy {value : Bytes} {spans : List (ℕ × ℕ)}
    (h : AllSegments (KeptAt value) (CutAt value) value.length spans) :
    (joinTokens value spans).head? ≠ some space ∧ (joinTokens value spans).getLast? ≠ some space ∧
      ¬[space, space] <:+: joinTokens value spans := by
  obtain ⟨hseparated, hwords⟩ := joinTokens_words h (le_refl _)
  exact intercalate_tidy hseparated hwords

theorem buildSearchTextPart_eq (value : Bytes) :
    ∃ spans, AllSegments (KeptAt value) (CutAt value) value.length spans ∧
      buildSearchTextPart value = joinTokens value spans := by
  obtain ⟨spans, hspans, hout⟩ := searchTextLoop_tokens value
  refine ⟨spans, hspans, ?_⟩
  cases hout with
  | inl htidy =>
    have hlast := (joinTokens_tidy hspans).2.1
    rw [← htidy] at hlast ⊢
    exact buildSearchTextPart_of_tidy hlast
  | inr hspace => exact buildSearchTextPart_of_space hspace.1

/-! ## Nothing is lost or repeated -/

theorem searchTextStep_filter (previous ch next : Byte) (output : Bytes) :
    (searchTextStep previous ch next output).filter (· ≠ space) =
      output.filter (· ≠ space) ++ toLower ([ch].filter isKeptByte) := by
  cases hch : isKeptByte ch with
  | false =>
    rw [searchTextStep_dropped hch]
    split_ifs <;> simp [hch, toLower]
  | true =>
    have hne := toLowerByte_ne_space ch hch
    rw [searchTextStep_kept hch]
    split_ifs <;> simp [hch, hne, toLower]

theorem searchTextLoop_filter (previous : Byte) (rest output : Bytes) :
    (searchTextLoop previous rest output).filter (· ≠ space) =
      output.filter (· ≠ space) ++ toLower (rest.filter isKeptByte) := by
  induction rest generalizing previous output with
  | nil => simp [searchTextLoop, toLower]
  | cons ch rest ih =>
    rw [searchTextLoop, ih, searchTextStep_filter, List.append_assoc, toLower, toLower, toLower,
      ← List.map_append, ← List.filter_append, List.singleton_append]

theorem buildSearchTextPart_filter (value : Bytes) :
    (buildSearchTextPart value).filter (· ≠ space) = toLower (value.filter isKeptByte) := by
  have hloop := searchTextLoop_filter 0 value []
  rw [List.filter_nil, List.nil_append] at hloop
  by_cases hlast : (searchTextLoop 0 value []).getLast? = some space
  · obtain ⟨text, htext⟩ := List.getLast?_eq_some_iff.mp hlast
    rw [htext] at hloop
    rw [buildSearchTextPart_of_space htext, ← hloop]
    simp
  · rw [buildSearchTextPart_of_tidy hlast, hloop]

/-- The normalised field is the lowercased maximal tokens with single spaces between them, and
nothing else. -/
theorem buildSearchTextPart_tokens (value : Bytes) :
    (∃ spans : List (ℕ × ℕ), (∀ a b, (a, b) ∈ spans ↔ IsToken value a b) ∧
      spans.Pairwise (fun s t => s.2 ≤ t.1) ∧
      buildSearchTextPart value = [space].intercalate (spans.map (token value))) ∧
    (buildSearchTextPart value).head? ≠ some space ∧
    (buildSearchTextPart value).getLast? ≠ some space ∧
    ¬[space, space] <:+: buildSearchTextPart value ∧
    (∀ ch ∈ buildSearchTextPart value, isAsciiLower ch = true ∨ isAsciiDigit ch = true ∨
      ch = space ∨ 0x80 ≤ ch) ∧
    (buildSearchTextPart value).filter (· ≠ space) = toLower (value.filter isKeptByte) := by
  obtain ⟨spans, hspans, hbuild⟩ := buildSearchTextPart_eq value
  obtain ⟨hhead, hlast, hdouble⟩ := joinTokens_tidy hspans
  have hfilter := buildSearchTextPart_filter value
  refine ⟨⟨spans, hspans.mem_iff, hspans.ordered, hbuild⟩, ?_, ?_, ?_, ?_, hfilter⟩
  · rwa [hbuild]
  · rwa [hbuild]
  · rwa [hbuild]
  · intro ch hch
    by_cases hspace : ch = space
    · exact Or.inr (Or.inr (Or.inl hspace))
    · have hmem : ch ∈ (buildSearchTextPart value).filter (· ≠ space) :=
        List.mem_filter.mpr ⟨hch, by simpa using hspace⟩
      rw [hfilter, toLower, List.mem_map] at hmem
      obtain ⟨byte, hbyte, rfl⟩ := hmem
      rcases toLowerByte_kept byte (List.mem_filter.mp hbyte).2 with hlower | hdigit | hnonAscii
      · exact Or.inl hlower
      · exact Or.inr (Or.inl hdigit)
      · exact Or.inr (Or.inr (Or.inr hnonAscii))

/-- The capital that begins the word behind an acronym begins a token. -/
example : (List.range 6).filter (fun i => decide (CutAt (stringView "SOSAr2") i)) = [3, 5] := by
  decide

end FittingSchlongs.Text
