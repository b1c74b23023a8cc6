import FittingSchlongs.Text.Tokens

/-! # Normalising joined and normalised fields

A space in a field closes the text in front of it, and the loop goes on behind it as if the
field began there. So fields can be normalised one by one or joined first, and a normalised
text, whose words are left as they are, is normalised to itself.
-/

namespace FittingSchlongs.Text
open Foundation.Segments Foundation.SeparatedWords

/-! ## The loop at a space -/

theorem isKeptByte_space : isKeptByte space = false := by decide

theorem searchTextStep_next_space (previous ch : Byte) (output : Bytes) :
    searchTextStep previous ch space output = searchTextStep previous ch 0 output := by
  have hspace : isAsciiLower space = isAsciiLower 0 := by decide
  have hsplits : splitsBefore previous ch space = splitsBefore previous ch 0 := by
    rw [splitsBefore, splitsBefore, hspace]
  rw [searchTextStep, searchTextStep, hsplits]

theorem searchTextLoop_previous_space (rest output : Bytes) :
    searchTextLoop space rest output = searchTextLoop 0 rest output := by
  cases rest with
  | nil => rfl
  | cons ch rest =>
    have hspace : splitsBefore space ch (rest.headD 0) = false :=
      splitsBefore_of_not_alphaNumeric (Or.inl (by decide))
    have hzero : splitsBefore 0 ch (rest.headD 0) = false :=
      splitsBefore_of_not_alphaNumeric (Or.inl (by decide))
    simp only [searchTextLoop, searchTextStep, hspace, hzero]

/-- What the loop has written once it has read a space. -/
def closeText (output : Bytes) : Bytes :=
  if output ≠ [] ∧ output.getLast? ≠ some space then output ++ [space] else output

theorem searchTextLoop_append_space (front back : Bytes) (previous : Byte) (output : Bytes) :
    searchTextLoop previous (front ++ space :: back) output =
      searchTextLoop 0 back (closeText (searchTextLoop previous front output)) := by
  induction front generalizing previous output with
  | nil =>
    change searchTextLoop space back (searchTextStep previous space (back.headD 0) output) = _
    rw [searchTextStep_dropped isKeptByte_space, searchTextLoop_previous_space]
    rfl
  | cons ch front ih =>
    cases front with
    | nil =>
      have hstep := searchTextStep_next_space previous ch output
      rw [List.cons_append, searchTextLoop, ih]
      simp [searchTextLoop, hstep]
    | cons next front =>
      rw [List.cons_append, searchTextLoop, ih]
      rfl

/-! ## Text in front of the loop's output -/

theorem getLast?_closed_append (text : Bytes) {output : Bytes} (h : output ≠ []) :
    (text ++ space :: output).getLast? = output.getLast? := by
  rw [List.getLast?_append_of_ne_nil _ (List.cons_ne_nil _ _), List.getLast?_cons_of_ne_nil h]

theorem searchTextStep_closed_append (text : Bytes) {previous : Byte} (ch next : Byte)
    {output : Bytes} (h : output ≠ [] ∨ isAsciiAlphaNumeric previous = false) :
    searchTextStep previous ch next (text ++ space :: output) =
      text ++ space :: searchTextStep previous ch next output := by
  have hne : text ++ space :: output ≠ [] := by simp
  cases hch : isKeptByte ch with
  | true =>
    rw [searchTextStep_kept hch, searchTextStep_kept hch]
    cases h with
    | inl houtput =>
      simp only [ne_eq, hne, houtput, not_false_eq_true, true_and]
      split_ifs <;> simp
    | inr hprevious =>
      rw [splitsBefore_of_not_alphaNumeric (Or.inl hprevious)]
      simp
  | false =>
    rw [searchTextStep_dropped hch, searchTextStep_dropped hch]
    by_cases hempty : output = []
    · simp [hempty]
    · rw [getLast?_closed_append text hempty]
      simp only [ne_eq, hne, hempty, not_false_eq_true, true_and]
      split_ifs <;> simp

theorem searchTextStep_ne_nil_or (previous ch next : Byte) (output : Bytes) :
    searchTextStep previous ch next output ≠ [] ∨ isAsciiAlphaNumeric ch = false := by
  cases hnumeric : isAsciiAlphaNumeric ch with
  | false => exact Or.inr rfl
  | true =>
    have hkept : isKeptByte ch = true := by simp [isKeptByte, hnumeric]
    rw [searchTextStep_kept hkept]
    exact Or.inl (by simp)

theorem searchTextLoop_closed_append (text rest : Bytes) {previous : Byte} {output : Bytes}
    (h : output ≠ [] ∨ isAsciiAlphaNumeric previous = false) :
    searchTextLoop previous rest (text ++ space :: output) =
      text ++ space :: searchTextLoop previous rest output := by
  -- Without output the byte in front is no letter or digit, so no step splits there.
  induction rest generalizing previous output with
  | nil => rfl
  | cons ch rest ih =>
    rw [searchTextLoop, searchTextStep_closed_append text ch (rest.headD 0) h,
      ih (searchTextStep_ne_nil_or previous ch (rest.headD 0) output)]
    rfl

/-! ## The output of the loop and the normalised field -/

theorem getLast?_buildSearchTextPart (value : Bytes) :
    (buildSearchTextPart value).getLast? ≠ some space := by
  obtain ⟨spans, hspans, hbuild⟩ := buildSearchTextPart_eq value
  rw [hbuild]
  exact (joinTokens_tidy hspans).2.1

theorem searchTextLoop_eq (value : Bytes) :
    searchTextLoop 0 value [] = buildSearchTextPart value ∨
      searchTextLoop 0 value [] = buildSearchTextPart value ++ [space] ∧
        buildSearchTextPart value ≠ [] := by
  obtain ⟨spans, hspans, hout⟩ := searchTextLoop_tokens value
  obtain ⟨-, hwords⟩ := joinTokens_words hspans (le_refl _)
  cases hout with
  | inl htidy =>
    have hlast := (joinTokens_tidy hspans).2.1
    rw [← htidy] at hlast
    exact Or.inl (buildSearchTextPart_of_tidy hlast).symm
  | inr hspace =>
    rw [buildSearchTextPart_of_space hspace.1]
    exact Or.inr ⟨hspace.1, joinTokens_ne_nil hspace.2 hwords⟩

theorem closeText_searchTextLoop (value : Bytes) :
    closeText (searchTextLoop 0 value []) =
      if buildSearchTextPart value = [] then [] else buildSearchTextPart value ++ [space] := by
  have htidy := getLast?_buildSearchTextPart value
  cases searchTextLoop_eq value with
  | inl h =>
    rw [h]
    by_cases hempty : buildSearchTextPart value = []
    · simp [closeText, hempty]
    · simp [closeText, hempty, htidy]
  | inr h =>
    rw [h.1]
    simp [closeText, h.2]

theorem searchTextLoop_eq_nil_iff (value : Bytes) :
    searchTextLoop 0 value [] = [] ↔ buildSearchTextPart value = [] := by
  cases searchTextLoop_eq value with
  | inl h => rw [h]
  | inr h =>
    rw [h.1]
    exact iff_of_false (by simp) h.2

/-- What is left of the output after the loop. -/
def trimText (output : Bytes) : Bytes :=
  if output.getLast? = some space then output.dropLast else output

theorem buildSearchTextPart_eq_trimText (value : Bytes) :
    buildSearchTextPart value = trimText (searchTextLoop 0 value []) := by
  by_cases hlast : (searchTextLoop 0 value []).getLast? = some space
  · obtain ⟨text, htext⟩ := List.getLast?_eq_some_iff.mp hlast
    rw [buildSearchTextPart_of_space htext, trimText, if_pos hlast, htext, List.dropLast_concat]
  · rw [buildSearchTextPart_of_tidy hlast, trimText, if_neg hlast]

theorem trimText_closed (text : Bytes) : trimText (text ++ [space]) = text := by
  simp [trimText]

theorem trimText_closed_append (text : Bytes) {output : Bytes} (h : output ≠ []) :
    trimText (text ++ space :: output) = text ++ space :: trimText output := by
  rw [trimText, trimText, getLast?_closed_append text h]
  split_ifs
  · rw [List.dropLast_append_of_ne_nil (List.cons_ne_nil _ _), List.dropLast_cons_of_ne_nil h]
  · rfl

/-! ## Joined fields -/

theorem appendSearchText_nil (value : Bytes) :
    appendSearchText [] value = buildSearchTextPart value := by
  by_cases hempty : buildSearchTextPart value = []
  · simp [appendSearchText, hempty]
  · simp [appendSearchText, hempty]

theorem appendSearchText_of_ne_nil {output : Bytes} (houtput : output ≠ []) (value : Bytes) :
    appendSearchText output value =
      if buildSearchTextPart value = [] then output
      else output ++ space :: buildSearchTextPart value := by
  simp [appendSearchText, houtput]

theorem buildSearchTextPart_append_space (front back : Bytes) :
    buildSearchTextPart (front ++ space :: back) =
      appendSearchText (buildSearchTextPart front) back := by
  rw [buildSearchTextPart_eq_trimText, searchTextLoop_append_space, closeText_searchTextLoop]
  by_cases hfront : buildSearchTextPart front = []
  · rw [if_pos hfront, hfront, appendSearchText_nil, ← buildSearchTextPart_eq_trimText]
  · have hzero : ([] : Bytes) ≠ [] ∨ isAsciiAlphaNumeric 0 = false := Or.inr (by decide)
    rw [if_neg hfront, searchTextLoop_closed_append _ back hzero, appendSearchText_of_ne_nil hfront]
    by_cases hback : buildSearchTextPart back = []
    · rw [if_pos hback, (searchTextLoop_eq_nil_iff back).mpr hback, trimText_closed]
    · have hloop : searchTextLoop 0 back [] ≠ [] := (searchTextLoop_eq_nil_iff back).not.mpr hback
      rw [if_neg hback, trimText_closed_append _ hloop, ← buildSearchTextPart_eq_trimText]

/-- The accumulated text is the normalised form of the fields with spaces between them. -/
theorem foldl_appendSearchText_eq (fields : List Bytes) :
    fields.foldl appendSearchText [] = buildSearchTextPart ([space].intercalate fields) := by
  induction fields using List.reverseRecOn with
  | nil => rfl
  | append_singleton earlier last ih =>
    rw [List.foldl_append, List.foldl_cons, List.foldl_nil]
    by_cases hearlier : earlier = []
    · rw [hearlier, List.nil_append, List.intercalate_singleton, List.foldl_nil,
        appendSearchText_nil]
    · rw [ih, intercalate_concat hearlier, buildSearchTextPart_append_space]

/-! ## Normalised fields -/

theorem toLowerByte_idem : ∀ ch : Byte, toLowerByte (toLowerByte ch) = toLowerByte ch := by decide

theorem isKeptByte_toLowerByte : ∀ ch : Byte, isKeptByte (toLowerByte ch) = isKeptByte ch := by
  decide

theorem toLowerByte_class : ∀ ch : Byte, isAsciiUpper (toLowerByte ch) = false ∧
    isAsciiAlpha (toLowerByte ch) = isAsciiAlpha ch ∧
    isAsciiDigit (toLowerByte ch) = isAsciiDigit ch := by decide

/-- A lowercased text is only cut between a letter and a digit, where the text itself is. -/
theorem CutBetween.of_toLower {before ch : Byte} {next next' : Option Byte}
    (h : CutBetween (toLowerByte before) (toLowerByte ch) next) : CutBetween before ch next' := by
  obtain ⟨hbefore, halpha, hdigit⟩ := toLowerByte_class before
  obtain ⟨hch, halpha', hdigit'⟩ := toLowerByte_class ch
  simp only [CutBetween, isAsciiAlphaNumeric, halpha, hdigit, hch, halpha', hdigit',
    Bool.false_eq_true, false_and, and_false, or_false] at h
  simp only [CutBetween, isAsciiAlphaNumeric]
  tauto

/-- One token in lower case. -/
structure IsWord (value : Bytes) : Prop where
  ne_nil : value ≠ []
  kept : ∀ ch ∈ value, isKeptByte ch = true
  lower : ∀ ch ∈ value, toLowerByte ch = ch
  no_cut : ∀ i, ¬CutAt value i

theorem IsWord.loop_eq {value done rest : Bytes} (h : IsWord value)
    (hvalue : value = done ++ rest) : searchTextLoop (done.getLastD 0) rest done = value := by
  induction rest generalizing done with
  | nil =>
    rw [List.append_nil] at hvalue
    exact hvalue.symm
  | cons ch rest ih =>
    have hmem : ch ∈ value := by simp [hvalue]
    have hstep : searchTextStep (done.getLastD 0) ch (rest.headD 0) done = done ++ [ch] := by
      rw [searchTextStep_kept (h.kept ch hmem), h.lower ch hmem, if_neg]
      intro hguard
      exact h.no_cut done.length ((cutAt_iff hvalue hguard.1).mpr hguard.2)
    have hnext : value = (done ++ [ch]) ++ rest := by simp [hvalue]
    have hloop := ih hnext
    rw [List.getLastD_concat] at hloop
    rw [searchTextLoop, hstep, hloop]

theorem IsWord.buildSearchTextPart_eq {value : Bytes} (h : IsWord value) :
    buildSearchTextPart value = value := by
  have hvalue : value = [] ++ value := rfl
  have hloop : searchTextLoop 0 value [] = value := h.loop_eq hvalue
  have hlast : value.getLast? ≠ some space := by
    intro hspace
    have hkept := h.kept space (List.mem_of_getLast? hspace)
    rw [isKeptByte_space] at hkept
    exact Bool.false_ne_true hkept
  rw [← hloop] at hlast
  rw [buildSearchTextPart_of_tidy hlast, hloop]

theorem isWord_token {value : Bytes} {a b : ℕ} (h : IsToken value a b) :
    IsWord (token value (a, b)) := by
  have hbyte : ∀ i ch, (token value (a, b))[i]? = some ch →
      a + i < b ∧ ∃ byte, value[a + i]? = some byte ∧ toLowerByte byte = ch := by
    intro i ch hch
    simp only [token, toLower, List.getElem?_map, List.getElem?_drop, List.getElem?_take] at hch
    split_ifs at hch with hib
    · exact ⟨hib, Option.map_eq_some_iff.mp hch⟩
    · simp at hch
  refine ⟨(token_spec h (le_refl _)).1, ?_, ?_, ?_⟩
  · intro ch hch
    obtain ⟨i, hi⟩ := List.mem_iff_getElem?.mp hch
    obtain ⟨hib, byte, hvalue, rfl⟩ := hbyte i ch hi
    obtain ⟨kept, hkept, htrue⟩ := h.all_kept (a + i) (Nat.le_add_right a i) hib
    rw [Option.mem_def, hvalue, Option.some.injEq] at hkept
    rw [isKeptByte_toLowerByte, hkept, htrue]
  · intro ch hch
    obtain ⟨i, hi⟩ := List.mem_iff_getElem?.mp hch
    obtain ⟨-, byte, -, rfl⟩ := hbyte i ch hi
    exact toLowerByte_idem byte
  · rintro i ⟨hi, before, hbefore, ch, hch, hcut⟩
    obtain ⟨-, x, hx, rfl⟩ := hbyte (i - 1) before hbefore
    obtain ⟨hib, y, hy, rfl⟩ := hbyte i ch hch
    have hprevious : a + i - 1 = a + (i - 1) := by omega
    refine h.no_cut (a + i) (by omega) hib ⟨by omega, x, ?_, y, hy, hcut.of_toLower⟩
    rwa [hprevious]

theorem foldl_appendSearchText_words {words : List Bytes} (h : ∀ word ∈ words, IsWord word) :
    words.foldl appendSearchText [] = [space].intercalate words := by
  induction words using List.reverseRecOn with
  | nil => rfl
  | append_singleton earlier last ih =>
    have hlast := h last (by simp)
    have hearlier : ∀ word ∈ earlier, IsWord word := fun word hmem => h word (by simp [hmem])
    rw [List.foldl_append, List.foldl_cons, List.foldl_nil, ih hearlier]
    by_cases hnone : earlier = []
    · rw [hnone, List.nil_append, List.intercalate_singleton]
      exact (appendSearchText_nil last).trans hlast.buildSearchTextPart_eq
    · have hwords : [] ∉ earlier := fun hmem => (hearlier [] hmem).ne_nil rfl
      rw [appendSearchText_of_ne_nil (intercalate_ne_nil hnone hwords),
        hlast.buildSearchTextPart_eq, if_neg hlast.ne_nil, intercalate_concat hnone]

/-- Normalising twice is normalising once, and normalising the fields one by one is normalising
them joined. -/
theorem buildSearchTextPart_normalises :
    (∀ value : Bytes,
      buildSearchTextPart (buildSearchTextPart value) = buildSearchTextPart value) ∧
    ∀ fields : List Bytes,
      fields.foldl appendSearchText [] = buildSearchTextPart ([space].intercalate fields) := by
  apply And.intro
  · intro value
    obtain ⟨spans, hspans, hbuild⟩ := buildSearchTextPart_eq value
    have hwords : ∀ word ∈ spans.map (token value), IsWord word := by
      intro word hword
      obtain ⟨span, hmem, rfl⟩ := List.mem_map.mp hword
      exact isWord_token ((hspans.mem_iff span.1 span.2).mp hmem)
    rw [hbuild, joinTokens, ← foldl_appendSearchText_eq, foldl_appendSearchText_words hwords]
  · exact foldl_appendSearchText_eq

end FittingSchlongs.Text
