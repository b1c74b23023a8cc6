import Mathlib.Data.List.Infix
import Mathlib.Tactic

/-! # Search text: normalised fields and dictionary lookups in them

Names reach the plugin as C strings. Every field is normalised to lowercase
words with single spaces, the fields are accumulated with a space between them,
and a dictionary term is searched in the accumulated text.
-/

namespace FittingSchlongs.Text

/-- One `unsigned char` of a string. -/
abbrev Byte := BitVec 8

/-- A `std::string` or `std::string_view`. -/
abbrev Bytes := List Byte

/-- The bytes of a string literal. -/
def stringView (literal : String) : Bytes :=
  literal.toByteArray.data.toList.map UInt8.toBitVec

/-- The byte `' '`. -/
def space : Byte := 0x20

/-- `text.find(term) != std::string::npos`: the term stands at some position. -/
def contains (text term : Bytes) : Bool := text.tails.any fun rest => term.isPrefixOf rest

theorem contains_iff {text term : Bytes} : contains text term = true ↔ term <:+: text := by
  simp only [contains, List.any_eq_true, List.mem_tails, List.isPrefixOf_iff_prefix,
    List.infix_iff_prefix_suffix]
  exact exists_congr fun rest => and_comm

/-- A C string up to its terminator; a null pointer is `none`. -/
def copyCString : Option Bytes → Bytes
  | none => []
  | some text => text.takeWhile (· ≠ 0)

/-! ## Bytes -/

def isAsciiAlpha (ch : Byte) : Bool :=
  (0x41 ≤ ch && ch ≤ 0x5A) || (0x61 ≤ ch && ch ≤ 0x7A)

def isAsciiUpper (ch : Byte) : Bool := 0x41 ≤ ch && ch ≤ 0x5A

def isAsciiLower (ch : Byte) : Bool := 0x61 ≤ ch && ch ≤ 0x7A

def isAsciiDigit (ch : Byte) : Bool := 0x30 ≤ ch && ch ≤ 0x39

def isAsciiAlphaNumeric (ch : Byte) : Bool := isAsciiAlpha ch || isAsciiDigit ch

/-- `std::tolower` in the C locale. -/
def toLowerByte (ch : Byte) : Byte := if isAsciiUpper ch then ch + 0x20 else ch

def toLower (value : Bytes) : Bytes := value.map toLowerByte

/-! ## Normalising one field -/

/-- A separator is due between `previous` and `ch`, where `next` follows `ch`. -/
def splitsBefore (previous ch next : Byte) : Bool :=
  let splitCamelCase := isAsciiUpper ch &&
    ((isAsciiLower previous || isAsciiDigit previous) ||
      (isAsciiUpper previous && isAsciiLower next))
  let splitAlphaDigit := isAsciiAlphaNumeric ch && isAsciiAlphaNumeric previous &&
    (isAsciiDigit ch != isAsciiDigit previous)
  splitCamelCase || splitAlphaDigit

/-- The body of the loop of `BuildSearchTextPart` at the byte `ch`. -/
def searchTextStep (previous ch next : Byte) (output : Bytes) : Bytes :=
  let output := if !output.isEmpty && splitsBefore previous ch next then output ++ [space] else output
  if isAsciiAlphaNumeric ch then output ++ [toLowerByte ch]
  else if 0x80 ≤ ch then output ++ [ch]
  else if !output.isEmpty && output.getLast? != some space then output ++ [space]
  else output

/-- The loop of `BuildSearchTextPart`; the byte after the last one reads as zero. -/
def searchTextLoop (previous : Byte) : Bytes → Bytes → Bytes
  | [], output => output
  | ch :: rest, output =>
      searchTextLoop ch rest (searchTextStep previous ch (rest.headD 0) output)

def buildSearchTextPart (value : Bytes) : Bytes :=
  let output := searchTextLoop 0 value []
  if !output.isEmpty && output.getLast? == some space then output.dropLast else output

/-! ## Accumulating fields and searching them -/

def appendSearchText (output value : Bytes) : Bytes :=
  let text := buildSearchTextPart value
  if text.isEmpty then output
  else if output.isEmpty then text
  else output ++ [space] ++ text

def containsNonAscii (value : Bytes) : Bool := value.any (fun ch => 0x80 ≤ ch)

/-- Terms that are also found inside a word. -/
def kEmbeddedTerms : List Bytes := [
  stringView "bikini", stringView "lingerie",
  stringView "monokini", stringView "pantie",
  stringView "panties", stringView "pantsu",
  stringView "panty", stringView "panrty",
  stringView "swimsuit", stringView "swimwear",
  stringView "tankini", stringView "thong",
  stringView "thongs"]

def containsSearchTerm (text term : Bytes) : Bool :=
  if text.isEmpty || term.isEmpty then false
  else if containsNonAscii term then contains text term
  else
    let paddedText := space :: (text ++ [space])
    let paddedTerm := space :: (term ++ [space])
    if contains paddedText paddedTerm then true
    else if term.length < 4 then false
    else
      let prefixTerm := space :: term
      if contains paddedText prefixTerm then true
      else if kEmbeddedTerms.contains term then contains text term
      else false

def containsAnySearchTerm (text : Bytes) (terms : List Bytes) : Bool :=
  terms.any (fun term => containsSearchTerm text term)

example : buildSearchTextPart (stringView "SOS_RevealingArmor2") =
    stringView "sos revealing armor 2" := by decide

end FittingSchlongs.Text
