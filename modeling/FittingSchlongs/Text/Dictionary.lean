import FittingSchlongs.Text.SearchText

/-! # The outfit-name dictionaries

The four term tables of the armor classifiers. Korean and Chinese terms are
given by their UTF-8 bytes, as in the source.
-/

namespace FittingSchlongs.Text

/-- Slot 49 terms of `IsLikelyGenitalConcealingPelvisArmor`. -/
def kLowerBodyTerms : List Bytes := [
  stringView "bikini", stringView "bot", stringView "bottom", stringView "bottoms",
  stringView "bathing", stringView "brief", stringView "briefs", stringView "bustle",
  stringView "culotte", stringView "culottes", stringView "dress", stringView "boxer",
  stringView "boxers", stringView "falda", stringView "fundoshi", stringView "hotpants",
  stringView "inner", stringView "jean", stringView "jeans", stringView "knicker",
  stringView "knickers", stringView "legging", stringView "leggings", stringView "lingerie",
  stringView "loincloth", stringView "low", stringView "lower", stringView "maillot",
  stringView "monokini", stringView "one piece", stringView "pantie", stringView "panties",
  stringView "pants", stringView "pantsmp", stringView "pantsu", stringView "panty",
  stringView "panrty", stringView "pussy", stringView "short", stringView "shorts",
  stringView "skirt", stringView "string", stringView "strings", stringView "swim",
  stringView "swimsuit", stringView "swimwear", stringView "tankini", stringView "thong",
  stringView "thongs", stringView "trouser", stringView "trousers", stringView "underpant",
  stringView "underpants", stringView "underwear", stringView "undies", stringView "uw",
  stringView "body suit", stringView "bodysuit", stringView "cat suit", stringView "catsuit",
  stringView "jump suit", stringView "jumpsuit", stringView "leotard", stringView "unitard",
  stringView "yoga", [0xEB, 0xA0, 0x88, 0xEC, 0x98, 0xA4, 0xED, 0x83, 0x80, 0xEB, 0x93, 0x9C],
  [0xEB, 0xA0, 0x88, 0xEA, 0xB9, 0x85, 0xEC, 0x8A, 0xA4],
  [0xEB, 0x9E, 0x80, 0xEC, 0xA0, 0x9C, 0xEB, 0xA6, 0xAC],
  [0xEB, 0xB0, 0x94, 0xEB, 0x94, 0x94, 0xEC, 0x88, 0x98, 0xED, 0x8A, 0xB8],
  [0xEC, 0x9C, 0xA0, 0xEB, 0x8B, 0x88, 0xED, 0x83, 0x80, 0xEB, 0x93, 0x9C],
  [0xEC, 0xBA, 0xA3, 0xEC, 0x88, 0x98, 0xED, 0x8A, 0xB8], [0xEB, 0xB0, 0x94, 0xEC, 0xA7, 0x80],
  [0xEB, 0xB9, 0x84, 0xED, 0x82, 0xA4, 0xEB, 0x8B, 0x88], [0xEB, 0xB3, 0xB4, 0xEC, 0xA7, 0x80],
  [0xEB, 0xB7, 0xB0, 0xEC, 0xA7, 0x80], [0xEB, 0x93, 0x9C, 0xEB, 0xA0, 0x88, 0xEC, 0x8A, 0xA4],
  [0xEB, 0xAA, 0xA8, 0xEB, 0x85, 0xB8, 0xED, 0x82, 0xA4, 0xEB, 0x8B, 0x88],
  [0xEC, 0x88, 0x98, 0xEC, 0x98, 0x81, 0xEB, 0xB3, 0xB5],
  [0xEC, 0x86, 0x8D, 0xEB, 0xB0, 0x94, 0xEC, 0xA7, 0x80], [0xEC, 0x86, 0x8D, 0xEC, 0x98, 0xB7],
  [0xEC, 0x8A, 0xA4, 0xEC, 0xBB, 0xA4, 0xED, 0x8A, 0xB8], [0xEC, 0x87, 0xBC, 0xEC, 0xB8, 0xA0],
  [0xEC, 0x88, 0x8F, 0xED, 0x8C, 0xAC, 0xEC, 0xB8, 0xA0],
  [0xEC, 0xA0, 0x90, 0xED, 0x94, 0x84, 0xEC, 0x88, 0x98, 0xED, 0x8A, 0xB8],
  [0xEC, 0x8A, 0xA4, 0xED, 0x8A, 0xB8, 0xEB, 0xA7, 0x81],
  [0xEC, 0x8A, 0xA4, 0xED, 0x8A, 0xB8, 0xEB, 0xA7, 0x81, 0xEC, 0x8A, 0xA4], [0xEC, 0x88, 0x8F],
  [0xEC, 0x9A, 0x94, 0xEA, 0xB0, 0x80], [0xEC, 0x9B, 0x90, 0xED, 0x94, 0xBC, 0xEC, 0x8A, 0xA4],
  [0xEC, 0xB9, 0x98, 0xEB, 0xA7, 0x88], [0xED, 0x8C, 0xAC, 0xEC, 0xB8, 0xA0],
  [0xED, 0x8C, 0xAC, 0xED, 0x8B, 0xB0], [0xED, 0x95, 0x98, 0xEC, 0x9D, 0x98],
  [0xE4, 0xB8, 0x8B, 0xE8, 0xA3, 0x85], [0xE4, 0xB8, 0x8B, 0xE8, 0xA1, 0xA3],
  [0xE5, 0x86, 0x85, 0xE8, 0xA3, 0xA4], [0xE5, 0xBA, 0x95, 0xE8, 0xA3, 0xA4],
  [0xE5, 0x86, 0x85, 0xE8, 0xA1, 0xA3, 0xE4, 0xB8, 0x8B],
  [0xE5, 0x86, 0x85, 0xE8, 0xA1, 0xA3, 0x20, 0xE4, 0xB8, 0x8B],
  [0xE8, 0xBF, 0x9E, 0xE4, 0xBD, 0x93, 0xE8, 0xA1, 0xA3],
  [0xE8, 0xBF, 0x9E, 0xE4, 0xBD, 0x93, 0xE7, 0xB4, 0xA7, 0xE8, 0xBA, 0xAB, 0xE8, 0xA1, 0xA3],
  [0xE7, 0xB4, 0xA7, 0xE8, 0xBA, 0xAB, 0xE8, 0xBF, 0x9E, 0xE4, 0xBD, 0x93, 0xE8, 0xA1, 0xA3],
  [0xE5, 0x85, 0xA8, 0xE8, 0xBA, 0xAB, 0xE7, 0xB4, 0xA7, 0xE8, 0xBA, 0xAB, 0xE8, 0xA1, 0xA3],
  [0xE8, 0xBF, 0x9E, 0xE4, 0xBD, 0x93, 0xE8, 0xA3, 0xA4], [0xE6, 0xB3, 0xB3, 0xE8, 0xA3, 0x85],
  [0xE6, 0xB3, 0xB3, 0xE8, 0xA3, 0xA4], [0xE8, 0xA3, 0xA4], [0xE8, 0xA3, 0xA4, 0xE5, 0xAD, 0x90],
  [0xE7, 0x9F, 0xAD, 0xE8, 0xA3, 0xA4], [0xE7, 0x83, 0xAD, 0xE8, 0xA3, 0xA4],
  [0xE7, 0x89, 0x9B, 0xE4, 0xBB, 0x94, 0xE8, 0xA3, 0xA4],
  [0xE6, 0x89, 0x93, 0xE5, 0xBA, 0x95, 0xE8, 0xA3, 0xA4],
  [0xE7, 0xB4, 0xA7, 0xE8, 0xBA, 0xAB, 0xE8, 0xA3, 0xA4], [0xE8, 0xA3, 0x99],
  [0xE8, 0xA3, 0x99, 0xE5, 0xAD, 0x90], [0xE7, 0x9F, 0xAD, 0xE8, 0xA3, 0x99],
  [0xE8, 0xBF, 0xB7, 0xE4, 0xBD, 0xA0, 0xE8, 0xA3, 0x99],
  [0xE5, 0x8D, 0x8A, 0xE8, 0xBA, 0xAB, 0xE8, 0xA3, 0x99],
  [0xE8, 0xBF, 0x9E, 0xE8, 0xA1, 0xA3, 0xE8, 0xA3, 0x99], [0xE6, 0x97, 0x97, 0xE8, 0xA2, 0x8D],
  [0xE6, 0xAF, 0x94, 0xE5, 0x9F, 0xBA, 0xE5, 0xB0, 0xBC, 0xE4, 0xB8, 0x8B, 0xE8, 0xA3, 0x85],
  [0xE6, 0xAF, 0x94, 0xE5, 0x9F, 0xBA, 0xE5, 0xB0, 0xBC, 0xE4, 0xB8, 0x8B, 0xE8, 0xA1, 0xA3]]

/-- Terms that decide for upper-only clothing before any blocker is read. -/
def kExplicitUpperOnlyTerms : List Bytes := [
  stringView "bikini top", stringView "bikini upper", stringView "dress top",
  stringView "dress upper", stringView "swim top", stringView "swim upper",
  stringView "swimsuit top", stringView "swimsuit upper", stringView "upper bikini",
  stringView "upper dress", stringView "upper swim", stringView "upper swimsuit",
  [0xEB, 0xB9, 0x84, 0xED, 0x82, 0xA4, 0xEB, 0x8B, 0x88, 0x20, 0xEC, 0x83, 0x81, 0xEC, 0x9D, 0x98],
  [0xEB, 0x93, 0x9C, 0xEB, 0xA0, 0x88, 0xEC, 0x8A, 0xA4, 0x20, 0xEC, 0x83, 0x81, 0xEC, 0x9D, 0x98],
  [0xEC, 0x88, 0x98, 0xEC, 0x98, 0x81, 0xEB, 0xB3, 0xB5, 0x20, 0xEC, 0x83, 0x81, 0xEC, 0x9D, 0x98],
  [0xEC, 0x83, 0x81, 0xEC, 0x9D, 0x98, 0x20, 0xEB, 0xB9, 0x84, 0xED, 0x82, 0xA4, 0xEB, 0x8B, 0x88],
  [0xEC, 0x83, 0x81, 0xEC, 0x9D, 0x98, 0x20, 0xEB, 0x93, 0x9C, 0xEB, 0xA0, 0x88, 0xEC, 0x8A, 0xA4],
  [0xEC, 0x83, 0x81, 0xEC, 0x9D, 0x98, 0x20, 0xEC, 0x88, 0x98, 0xEC, 0x98, 0x81, 0xEB, 0xB3, 0xB5],
  [0xE5, 0x86, 0x85, 0xE8, 0xA1, 0xA3, 0xE4, 0xB8, 0x8A],
  [0xE5, 0x86, 0x85, 0xE8, 0xA1, 0xA3, 0x20, 0xE4, 0xB8, 0x8A],
  [0xE6, 0xAF, 0x94, 0xE5, 0x9F, 0xBA, 0xE5, 0xB0, 0xBC, 0xE4, 0xB8, 0x8A, 0xE8, 0xA1, 0xA3],
  [0xE6, 0xB3, 0xB3, 0xE8, 0xA3, 0x85, 0xE4, 0xB8, 0x8A, 0xE8, 0xA1, 0xA3],
  [0xE6, 0xB3, 0xB3, 0xE8, 0xA1, 0xA3, 0xE4, 0xB8, 0x8A, 0xE8, 0xA1, 0xA3]]

/-- Terms that rule upper-only clothing out. -/
def kLowerBodyBlockers : List Bytes := [
  stringView "bottom", stringView "bottoms", stringView "boxer", stringView "boxers",
  stringView "brief", stringView "briefs", stringView "culotte", stringView "culottes",
  stringView "dress", stringView "falda", stringView "fundoshi", stringView "hotpants",
  stringView "jean", stringView "jeans", stringView "knicker", stringView "knickers",
  stringView "legging", stringView "leggings", stringView "loincloth", stringView "low",
  stringView "lower", stringView "maillot", stringView "monokini", stringView "one piece",
  stringView "onepiece", stringView "pantie", stringView "panties", stringView "pants",
  stringView "pantsmp", stringView "pantsu", stringView "panty", stringView "panrty",
  stringView "short", stringView "shorts", stringView "skirt", stringView "thong",
  stringView "thongs", stringView "trouser", stringView "trousers", stringView "underpant",
  stringView "underpants", stringView "undies",
  [0xEB, 0xA0, 0x88, 0xEA, 0xB9, 0x85, 0xEC, 0x8A, 0xA4], [0xEB, 0xB0, 0x94, 0xEC, 0xA7, 0x80],
  [0xEB, 0x93, 0x9C, 0xEB, 0xA0, 0x88, 0xEC, 0x8A, 0xA4],
  [0xEC, 0x86, 0x8D, 0xEB, 0xB0, 0x94, 0xEC, 0xA7, 0x80],
  [0xEC, 0x8A, 0xA4, 0xEC, 0xBB, 0xA4, 0xED, 0x8A, 0xB8], [0xEC, 0x87, 0xBC, 0xEC, 0xB8, 0xA0],
  [0xEC, 0x88, 0x8F, 0xED, 0x8C, 0xAC, 0xEC, 0xB8, 0xA0],
  [0xEC, 0x9B, 0x90, 0xED, 0x94, 0xBC, 0xEC, 0x8A, 0xA4], [0xEC, 0xB9, 0x98, 0xEB, 0xA7, 0x88],
  [0xED, 0x8C, 0xAC, 0xEC, 0xB8, 0xA0], [0xED, 0x8C, 0xAC, 0xED, 0x8B, 0xB0],
  [0xED, 0x95, 0x98, 0xEC, 0x9D, 0x98], [0xED, 0x95, 0x98, 0xEC, 0xB2, 0xB4],
  [0xE4, 0xB8, 0x8B, 0xE8, 0xA3, 0x85], [0xE4, 0xB8, 0x8B, 0xE8, 0xA1, 0xA3],
  [0xE5, 0x86, 0x85, 0xE8, 0xA3, 0xA4], [0xE5, 0xBA, 0x95, 0xE8, 0xA3, 0xA4],
  [0xE5, 0x86, 0x85, 0xE8, 0xA1, 0xA3, 0xE4, 0xB8, 0x8B],
  [0xE5, 0x86, 0x85, 0xE8, 0xA1, 0xA3, 0x20, 0xE4, 0xB8, 0x8B],
  [0xE6, 0xB3, 0xB3, 0xE8, 0xA3, 0xA4], [0xE8, 0xA3, 0xA4], [0xE8, 0xA3, 0xA4, 0xE5, 0xAD, 0x90],
  [0xE7, 0x9F, 0xAD, 0xE8, 0xA3, 0xA4], [0xE7, 0x83, 0xAD, 0xE8, 0xA3, 0xA4],
  [0xE7, 0x89, 0x9B, 0xE4, 0xBB, 0x94, 0xE8, 0xA3, 0xA4],
  [0xE6, 0x89, 0x93, 0xE5, 0xBA, 0x95, 0xE8, 0xA3, 0xA4],
  [0xE7, 0xB4, 0xA7, 0xE8, 0xBA, 0xAB, 0xE8, 0xA3, 0xA4], [0xE8, 0xA3, 0x99],
  [0xE8, 0xA3, 0x99, 0xE5, 0xAD, 0x90], [0xE7, 0x9F, 0xAD, 0xE8, 0xA3, 0x99],
  [0xE8, 0xBF, 0xB7, 0xE4, 0xBD, 0xA0, 0xE8, 0xA3, 0x99],
  [0xE5, 0x8D, 0x8A, 0xE8, 0xBA, 0xAB, 0xE8, 0xA3, 0x99],
  [0xE8, 0xBF, 0x9E, 0xE8, 0xA1, 0xA3, 0xE8, 0xA3, 0x99], [0xE6, 0x97, 0x97, 0xE8, 0xA2, 0x8D],
  [0xE8, 0xBF, 0x9E, 0xE4, 0xBD, 0x93, 0xE8, 0xA1, 0xA3],
  [0xE8, 0xBF, 0x9E, 0xE4, 0xBD, 0x93, 0xE7, 0xB4, 0xA7, 0xE8, 0xBA, 0xAB, 0xE8, 0xA1, 0xA3],
  [0xE7, 0xB4, 0xA7, 0xE8, 0xBA, 0xAB, 0xE8, 0xA1, 0xA3], [0xE7, 0xA4, 0xBC, 0xE6, 0x9C, 0x8D]]

def kUpperBodyTerms : List Bytes := [
  stringView "blouse", stringView "bodice", stringView "bolero", stringView "bra",
  stringView "bralette", stringView "brassiere", stringView "breast", stringView "bustier",
  stringView "camisole", stringView "chest", stringView "crop", stringView "croptop",
  stringView "halter", stringView "hoodie", stringView "jacket", stringView "shirt",
  stringView "sweater", stringView "top", stringView "tube", stringView "upper", stringView "vest",
  [0xEA, 0xB0, 0x80, 0xEC, 0x8A, 0xB4], [0xEB, 0xB8, 0x8C, 0xEB, 0x9D, 0xBC],
  [0xEB, 0xB8, 0x8C, 0xEB, 0x9E, 0x98, 0xEC, 0xA7, 0x80, 0xEC, 0x96, 0xB4],
  [0xEB, 0xB8, 0x94, 0xEB, 0x9D, 0xBC, 0xEC, 0x9A, 0xB0, 0xEC, 0x8A, 0xA4],
  [0xEC, 0x83, 0x81, 0xEC, 0x9D, 0x98], [0xEC, 0x85, 0x94, 0xEC, 0xB8, 0xA0],
  [0xEC, 0x9E, 0x90, 0xEC, 0xBC, 0x93], [0xEC, 0x9E, 0xAC, 0xED, 0x82, 0xB7],
  [0xEC, 0xA1, 0xB0, 0xEB, 0x81, 0xBC], [0xED, 0x83, 0x91], [0xED, 0x81, 0xAC, 0xEB, 0xA1, 0xAD],
  [0xE4, 0xB8, 0x8A, 0xE8, 0xA3, 0x85], [0xE4, 0xB8, 0x8A, 0xE8, 0xA1, 0xA3],
  [0xE5, 0x86, 0x85, 0xE8, 0xA1, 0xA3, 0xE4, 0xB8, 0x8A],
  [0xE5, 0x86, 0x85, 0xE8, 0xA1, 0xA3, 0x20, 0xE4, 0xB8, 0x8A],
  [0xE5, 0xA4, 0xB9, 0xE5, 0x85, 0x8B], [0xE5, 0xA4, 0x96, 0xE5, 0xA5, 0x97],
  [0xE6, 0x96, 0x87, 0xE8, 0x83, 0xB8], [0xE8, 0x83, 0xB8, 0xE7, 0xBD, 0xA9],
  [0xE4, 0xB9, 0xB3, 0xE7, 0xBD, 0xA9], [0xE6, 0x8A, 0xB9, 0xE8, 0x83, 0xB8],
  [0xE8, 0x83, 0x8C, 0xE5, 0xBF, 0x83], [0xE8, 0xA1, 0xAC, 0xE8, 0xA1, 0xAB],
  [0xE5, 0x90, 0x8A, 0xE5, 0xB8, 0xA6]]

end FittingSchlongs.Text
