import FittingSchlongs.Foundation.Codes
import FittingSchlongs.Text.Boundaries
import FittingSchlongs.Text.Dictionary
import FittingSchlongs.Text.Tokens

/-! # Code points through the byte-wise search

Normalisation and search work on bytes. The bytes of a character beyond ASCII are copied as
they are and everything inserted, replaced or dropped is ASCII, so valid UTF-8 stays valid.
The encoding synchronises itself, so a term with such a character is found only on the
boundaries of characters.
-/

namespace FittingSchlongs.Text
open Foundation.Codes

/-! ## The encoding -/

/-- The UTF-8 encoding of one code point. -/
def utf8Char (c : Char) : Bytes := (String.utf8EncodeChar c).map UInt8.toBitVec

/-- The UTF-8 encoding of a text. -/
def utf8 (text : List Char) : Bytes := text.flatMap utf8Char

def isNonAscii (c : Char) : Bool := 0x80 ≤ c.toNat

@[simp] theorem utf8_nil : utf8 [] = [] := rfl

@[simp] theorem utf8_cons (c : Char) (text : List Char) :
    utf8 (c :: text) = utf8Char c ++ utf8 text := rfl

@[simp] theorem utf8_append (front back : List Char) :
    utf8 (front ++ back) = utf8 front ++ utf8 back := List.flatMap_append

/-- The bytes are valid UTF-8, by Lean's own definition. -/
def IsUtf8 (value : Bytes) : Prop := (value.map UInt8.ofBitVec).toByteArray.IsValidUTF8

instance (value : Bytes) : Decidable (IsUtf8 value) :=
  inferInstanceAs (Decidable (ByteArray.IsValidUTF8 _))

theorem isUtf8_iff {value : Bytes} : IsUtf8 value ↔ ∃ text, value = utf8 text := by
  have hbytes : ∀ text, utf8 text = (text.flatMap String.utf8EncodeChar).map UInt8.toBitVec := by
    intro text
    rw [List.map_flatMap]
    rfl
  constructor
  · rintro ⟨text, htext⟩
    have hdata := congrArg (fun bytes : ByteArray => bytes.data.toList) htext
    simp only [List.utf8Encode, List.toList_data_toByteArray] at hdata
    refine ⟨text, ?_⟩
    rw [hbytes, ← hdata]
    simp [Function.comp_def]
  · rintro ⟨text, rfl⟩
    refine ⟨text, ?_⟩
    rw [hbytes, List.utf8Encode]
    simp [Function.comp_def]

/-! ## The encoding synchronises itself -/

/-- A byte that can begin the encoding of a code point. -/
def IsLeadByte (ch : Byte) : Prop := (UInt8.ofBitVec ch).IsUTF8FirstByte

theorem ofBitVec_utf8Char (c : Char) :
    (utf8Char c).map UInt8.ofBitVec = String.utf8EncodeChar c := by
  simp [utf8Char, Function.comp_def]

theorem utf8Char_prefix_free {c d : Char} (h : utf8Char c <+: utf8Char d) : c = d := by
  obtain ⟨rest, hrest⟩ := h
  have hencoded := congrArg (List.map UInt8.ofBitVec) hrest
  rw [List.map_append, ofBitVec_utf8Char, ofBitVec_utf8Char] at hencoded
  have harray : [c].utf8Encode ++ (rest.map UInt8.ofBitVec).toByteArray = [d].utf8Encode := by
    rw [List.utf8Encode_singleton, List.utf8Encode_singleton, ← List.toByteArray_append, hencoded]
  simpa using List.isPrefix_of_utf8Encode_append_eq_utf8Encode _ harray

theorem selfSync_utf8Char : SelfSync utf8Char IsLeadByte where
  begins c := by
    obtain ⟨b, rest, hcode⟩ := List.exists_cons_of_ne_nil (String.utf8EncodeChar_ne_nil (c := c))
    have hlead : ∀ (i : ℕ) (hi : i < (b :: rest).length),
        (b :: rest)[i].IsUTF8FirstByte ↔ i = 0 := by
      rw [← hcode]
      exact fun i hi => UInt8.isUTF8FirstByte_getElem_utf8EncodeChar
    refine ⟨b.toBitVec, rest.map UInt8.toBitVec, by simp [utf8Char, hcode], ?_, ?_⟩
    · exact (hlead 0 (by simp)).mpr rfl
    · intro x hx
      obtain ⟨byte, hbyte, rfl⟩ := List.mem_map.mp hx
      obtain ⟨i, hi, rfl⟩ := List.mem_iff_getElem.mp hbyte
      intro hfirst
      have hzero := (hlead (i + 1) (by simpa using hi)).mp hfirst
      omega
  prefix_free c d h := utf8Char_prefix_free h

/-! ## ASCII and other code points -/

theorem utf8Char_ascii {c : Char} (h : isNonAscii c = false) :
    ∃ ch : Byte, utf8Char c = [ch] ∧ ch < 0x80 := by
  have hlt : c.toNat < 128 := by simpa [isNonAscii] using h
  have hle : c.toNat ≤ 127 := by omega
  refine ⟨BitVec.ofNat 8 c.toNat, ?_, ?_⟩
  · simp only [utf8Char, String.utf8EncodeChar, Char.toNat_val, if_pos hle]
    rfl
  · have hmod : c.toNat % 2 ^ 8 = c.toNat := Nat.mod_eq_of_lt (by omega)
    rw [BitVec.lt_def, BitVec.toNat_ofNat, hmod]
    exact hlt

theorem utf8Char_nonAscii {c : Char} (h : isNonAscii c = true) :
    ∀ ch ∈ utf8Char c, 0x80 ≤ ch := by
  have hge : 128 ≤ c.toNat := by simpa [isNonAscii] using h
  have hnot : ¬c.toNat ≤ 127 := by omega
  have hbyte : ∀ n : ℕ, 128 ≤ n → n < 256 → (0x80 : Byte) ≤ (UInt8.ofNat n).toBitVec := by
    intro n hn hlt
    have hmod : n % 2 ^ 8 = n := Nat.mod_eq_of_lt hlt
    change 128 ≤ n % 2 ^ 8
    rw [hmod]
    exact hn
  intro ch hch
  simp only [utf8Char, String.utf8EncodeChar, Char.toNat_val, if_neg hnot] at hch
  split_ifs at hch <;>
    simp only [List.map_cons, List.map_nil, List.mem_cons, List.not_mem_nil, or_false] at hch
  · rcases hch with rfl | rfl <;> exact hbyte _ (by omega) (by omega)
  · rcases hch with rfl | rfl | rfl <;> exact hbyte _ (by omega) (by omega)
  · rcases hch with rfl | rfl | rfl | rfl <;> exact hbyte _ (by omega) (by omega)

theorem utf8Char_ofNat : ∀ ch : Byte, ch < 0x80 →
    utf8Char (Char.ofNat ch.toNat) = [ch] ∧ isNonAscii (Char.ofNat ch.toNat) = false := by decide

theorem exists_utf8_of_ascii {bytes : Bytes} (h : ∀ ch ∈ bytes, ch < 0x80) :
    ∃ text, bytes = utf8 text ∧ text.filter isNonAscii = [] := by
  induction bytes with
  | nil => exact ⟨[], rfl, rfl⟩
  | cons ch bytes ih =>
    obtain ⟨text, htext, hfilter⟩ := ih (fun x hx => h x (List.mem_cons_of_mem ch hx))
    obtain ⟨hchar, hascii⟩ := utf8Char_ofNat ch (h ch List.mem_cons_self)
    refine ⟨Char.ofNat ch.toNat :: text, ?_, ?_⟩
    · rw [utf8_cons, hchar, ← htext, List.singleton_append]
    · rw [List.filter_cons_of_neg (by simp [hascii]), hfilter]

theorem containsNonAscii_utf8 (text : List Char) :
    containsNonAscii (utf8 text) = text.any isNonAscii := by
  induction text with
  | nil => rfl
  | cons c text ih =>
    have happend : containsNonAscii (utf8Char c ++ utf8 text) =
        (containsNonAscii (utf8Char c) || containsNonAscii (utf8 text)) := List.any_append
    rw [utf8_cons, happend, ih, List.any_cons]
    apply congrArg (· || text.any isNonAscii)
    cases hc : isNonAscii c with
    | false =>
      obtain ⟨ch, hchar, hch⟩ := utf8Char_ascii hc
      rw [hchar]
      simpa [containsNonAscii] using hch
    | true =>
      obtain ⟨ch, hmem⟩ := List.exists_mem_of_ne_nil _ (selfSync_utf8Char.code_ne_nil c)
      exact containsNonAscii_iff.mpr ⟨ch, hmem, utf8Char_nonAscii hc ch hmem⟩

/-! ## Normalisation copies the non-ASCII code points -/

theorem nonAscii_not_alphaNumeric : ∀ ch : Byte, 0x80 ≤ ch → isAsciiAlphaNumeric ch = false := by
  decide

theorem searchTextLoop_nonAscii {bytes : Bytes} (h : ∀ ch ∈ bytes, 0x80 ≤ ch) (rest : Bytes)
    (previous : Byte) (output : Bytes) :
    ∃ last, searchTextLoop previous (bytes ++ rest) output =
      searchTextLoop last rest (output ++ bytes) := by
  induction bytes generalizing previous output with
  | nil => exact ⟨previous, by simp⟩
  | cons ch bytes ih =>
    have hch := h ch List.mem_cons_self
    have hkept : isKeptByte ch = true := Bool.or_eq_true_iff.mpr (Or.inr (decide_eq_true hch))
    have hsplit : splitsBefore previous ch ((bytes ++ rest).headD 0) = false :=
      splitsBefore_of_not_alphaNumeric (Or.inr (nonAscii_not_alphaNumeric ch hch))
    obtain ⟨last, hlast⟩ := ih (fun x hx => h x (List.mem_cons_of_mem ch hx)) ch (output ++ [ch])
    refine ⟨last, ?_⟩
    rw [List.cons_append, searchTextLoop, searchTextStep_kept hkept, hsplit,
      toLowerByte_nonAscii ch hch]
    simpa using hlast

theorem space_ascii : space < 0x80 := by decide

theorem toLowerByte_ascii : ∀ ch : Byte, ch < 0x80 → toLowerByte ch < 0x80 := by decide

theorem searchTextStep_ascii {ch : Byte} (h : ch < 0x80) (previous next : Byte) (output : Bytes) :
    ∃ written, searchTextStep previous ch next output = output ++ written ∧
      ∀ x ∈ written, x < 0x80 := by
  have hlower := toLowerByte_ascii ch h
  cases hch : isKeptByte ch with
  | true =>
    rw [searchTextStep_kept hch]
    split_ifs
    · refine ⟨[space, toLowerByte ch], by simp, ?_⟩
      exact List.forall_mem_cons.mpr ⟨space_ascii, List.forall_mem_singleton.mpr hlower⟩
    · exact ⟨[toLowerByte ch], rfl, List.forall_mem_singleton.mpr hlower⟩
  | false =>
    rw [searchTextStep_dropped hch]
    split_ifs
    · exact ⟨[space], rfl, List.forall_mem_singleton.mpr space_ascii⟩
    · exact ⟨[], by simp, by simp⟩

/-- The loop turns code points into code points and copies those beyond ASCII. -/
theorem searchTextLoop_utf8 (rest done : List Char) (previous : Byte) :
    ∃ text, searchTextLoop previous (utf8 rest) (utf8 done) = utf8 (done ++ text) ∧
      text.filter isNonAscii = rest.filter isNonAscii := by
  induction rest generalizing done previous with
  | nil => exact ⟨[], by simp [searchTextLoop], rfl⟩
  | cons c rest ih =>
    cases hc : isNonAscii c with
    | true =>
      obtain ⟨last, hloop⟩ := searchTextLoop_nonAscii (utf8Char_nonAscii hc) (utf8 rest) previous
        (utf8 done)
      obtain ⟨text, htext, hfilter⟩ := ih (done ++ [c]) last
      refine ⟨c :: text, ?_, by simp [hc, hfilter]⟩
      rw [utf8_append, utf8_cons, utf8_nil, List.append_nil] at htext
      rw [utf8_cons, hloop, htext, ← List.append_cons]
    | false =>
      obtain ⟨ch, hchar, hch⟩ := utf8Char_ascii hc
      obtain ⟨written, hstep, hwritten⟩ := searchTextStep_ascii hch previous
        ((utf8 rest).headD 0) (utf8 done)
      obtain ⟨added, rfl, hadded⟩ := exists_utf8_of_ascii hwritten
      obtain ⟨text, htext, hfilter⟩ := ih (done ++ added) ch
      refine ⟨added ++ text, ?_, by simp [hc, hadded, hfilter]⟩
      rw [utf8_cons, hchar, List.singleton_append, searchTextLoop, hstep, ← utf8_append, htext,
        List.append_assoc]

theorem utf8_space : utf8 [' '] = [space] := by decide

theorem utf8_injective : Function.Injective utf8 := selfSync_utf8Char.flatMap_injective

theorem utf8_eq_nil_iff {text : List Char} : utf8 text = [] ↔ text = [] :=
  selfSync_utf8Char.flatMap_eq_nil_iff

theorem exists_of_utf8_eq_concat_space {text : List Char} {bytes : Bytes}
    (h : utf8 text = bytes ++ [space]) : ∃ front, bytes = utf8 front ∧ text = front ++ [' '] := by
  have hsplit : utf8 text = bytes ++ utf8 [' '] ++ [] := by rw [h, utf8_space, List.append_nil]
  obtain ⟨front, back, rfl, rfl, hback⟩ :=
    selfSync_utf8Char.split_of_occurrence (List.cons_ne_nil _ _) hsplit
  have hnil : back = [] := utf8_eq_nil_iff.mp hback.symm
  exact ⟨front, rfl, by rw [hnil, List.append_nil]⟩

theorem buildSearchTextPart_utf8 (field : List Char) :
    ∃ text, buildSearchTextPart (utf8 field) = utf8 text ∧
      text.filter isNonAscii = field.filter isNonAscii := by
  obtain ⟨text, htext, hfilter⟩ := searchTextLoop_utf8 field [] 0
  rw [utf8_nil, List.nil_append] at htext
  by_cases hlast : (searchTextLoop 0 (utf8 field) []).getLast? = some space
  · obtain ⟨bytes, hbytes⟩ := List.getLast?_eq_some_iff.mp hlast
    obtain ⟨front, rfl, rfl⟩ := exists_of_utf8_eq_concat_space (htext.symm.trans hbytes)
    refine ⟨front, buildSearchTextPart_of_space hbytes, ?_⟩
    rw [← hfilter, List.filter_append]
    simp [isNonAscii]
  · exact ⟨text, (buildSearchTextPart_of_tidy hlast).trans htext, hfilter⟩

theorem appendSearchText_utf8 (output field : List Char) :
    ∃ text, appendSearchText (utf8 output) (utf8 field) = utf8 (output ++ text) ∧
      text.filter isNonAscii = field.filter isNonAscii := by
  obtain ⟨text, htext, hfilter⟩ := buildSearchTextPart_utf8 field
  simp only [appendSearchText, htext]
  split_ifs with hempty hfirst
  · have hnil : text = [] := utf8_eq_nil_iff.mp (List.isEmpty_iff.mp hempty)
    exact ⟨text, by simp [hnil], hfilter⟩
  · have hnil : output = [] := utf8_eq_nil_iff.mp (List.isEmpty_iff.mp hfirst)
    exact ⟨text, by simp [hnil], hfilter⟩
  · refine ⟨' ' :: text, ?_, ?_⟩
    · have hjoined : utf8 (' ' :: text) = [space] ++ utf8 text := by
        rw [← utf8_space, ← utf8_append, List.singleton_append]
      rw [utf8_append, hjoined, List.append_assoc]
    · rw [← hfilter]
      simp [isNonAscii]

theorem foldl_appendSearchText_utf8 (fields : List (List Char)) (output : List Char) :
    ∃ text, (fields.map utf8).foldl appendSearchText (utf8 output) = utf8 (output ++ text) ∧
      text.filter isNonAscii = fields.flatten.filter isNonAscii := by
  induction fields generalizing output with
  | nil => exact ⟨[], by simp, rfl⟩
  | cons field fields ih =>
    obtain ⟨first, hfirst, hfilter⟩ := appendSearchText_utf8 output field
    obtain ⟨text, htext, hrest⟩ := ih (output ++ first)
    refine ⟨first ++ text, ?_, by simp [hfilter, hrest]⟩
    rw [List.map_cons, List.foldl_cons, hfirst, htext, List.append_assoc]

/-! ## Lookups of terms with a non-ASCII code point -/

section Lookup

variable {text term : List Char}

theorem containsSearchTerm_utf8_iff (hterm : ∃ c ∈ term, isNonAscii c = true) :
    containsSearchTerm (utf8 text) (utf8 term) = true ↔ term <:+: text := by
  have hascii : containsNonAscii (utf8 term) = true := by
    rw [containsNonAscii_utf8, List.any_eq_true]
    exact hterm
  rw [containsSearchTerm_nonAscii_iff hascii]
  exact selfSync_utf8Char.flatMap_infix_iff

/-- Valid fields accumulate to one valid text, with their non-ASCII code points in order. A term
with a non-ASCII code point is found in a valid text exactly where its code points are, and its
bytes stand nowhere but on the boundaries of characters. -/
theorem search_utf8_sound :
    (∀ fields : List (List Char), ∃! text,
      (fields.map utf8).foldl appendSearchText [] = utf8 text ∧
        text.filter isNonAscii = fields.flatten.filter isNonAscii) ∧
    ∀ text term : List Char, (∃ c ∈ term, isNonAscii c = true) →
      (containsSearchTerm (utf8 text) (utf8 term) = true ↔ term <:+: text) ∧
        ∀ front back, utf8 text = front ++ utf8 term ++ back →
          ∃ before after, text = before ++ term ++ after ∧ front = utf8 before ∧
            back = utf8 after := by
  apply And.intro
  · intro fields
    obtain ⟨text, htext, hfilter⟩ := foldl_appendSearchText_utf8 fields []
    rw [utf8_nil, List.nil_append] at htext
    refine ⟨text, ⟨htext, hfilter⟩, ?_⟩
    intro other hother
    exact utf8_injective (hother.1.symm.trans htext)
  · intro text term hterm
    apply And.intro
    · exact containsSearchTerm_utf8_iff hterm
    · intro front back hsplit
      have hne : term ≠ [] := by
        rintro rfl
        simp at hterm
      exact selfSync_utf8Char.split_of_occurrence hne hsplit

/-- A Korean term is found behind an ASCII word. -/
theorem search_utf8_sound_korean :
    containsSearchTerm (stringView "red " ++ [0xED, 0x83, 0x91]) [0xED, 0x83, 0x91] = true := by
  have hlookup := (search_utf8_sound.2 ['r', 'e', 'd', ' ', Char.ofNat 0xD0D1]
    [Char.ofNat 0xD0D1] ⟨Char.ofNat 0xD0D1, by decide, by decide⟩).1
  exact hlookup.mpr ⟨['r', 'e', 'd', ' '], [], by decide⟩

end Lookup

/-! ## Dictionaries -/

set_option maxRecDepth 20000 in
theorem dictionaries_utf8 :
    ∀ term ∈ kLowerBodyTerms ++ kExplicitUpperOnlyTerms ++ kLowerBodyBlockers ++ kUpperBodyTerms,
      IsUtf8 term := by decide

/-- A dictionary term with a non-ASCII byte has code points, and is found in a valid text exactly
where these are. -/
theorem dictionary_lookup_utf8 {term : Bytes}
    (hterm : term ∈ kLowerBodyTerms ++ kExplicitUpperOnlyTerms ++ kLowerBodyBlockers ++ kUpperBodyTerms)
    (hascii : containsNonAscii term = true) :
    ∃ word, term = utf8 word ∧
      ∀ text, containsSearchTerm (utf8 text) term = true ↔ word <:+: text := by
  obtain ⟨word, rfl⟩ := isUtf8_iff.mp (dictionaries_utf8 term hterm)
  rw [containsNonAscii_utf8, List.any_eq_true] at hascii
  exact ⟨word, rfl, fun text => containsSearchTerm_utf8_iff hascii⟩

end FittingSchlongs.Text
