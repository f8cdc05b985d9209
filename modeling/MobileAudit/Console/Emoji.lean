import MobileAudit.Console.EmojiCode
import MobileAudit.Pattern.Match
import MobileAudit.Text.Split

namespace MobileAudit.Console

/-! Pictographs by their short codes, such as `:bug:`. -/

open Pattern

/-- A code between colons.  A hyphen and a word at its end ask for a variant. -/
def emojiPattern : Pattern :=
  lit ":" ++ (.group 1 CharSet.notSpace.manyShort ++
    (optional (lit "-" ++ .group 2 (words ["emoji", "text"])) ++ lit ":"))

def emojiOf? (name : List Char) : Option (List Char) :=
  let lead := Text.lowerChars name ++ [' ']
  (Text.tableItems emojiCodes).findSome? fun item =>
    if lead.isPrefixOf item.toList then some (item.toList.drop lead.length) else none

/-- The mark after a pictograph that asks for its variant as text or as a picture. -/
def variantMark (word : List Char) : List Char :=
  if word == "text".toList then [Char.ofNat 0xfe0e]
  else if word == "emoji".toList then [Char.ofNat 0xfe0f]
  else []

def withEmoji (text : List Char) : List Char :=
  emojiPattern.replaceAll (fun m =>
    match emojiOf? (m.groupText 1) with
    | some shown => shown ++ variantMark (m.groupText 2)
    | none => m.text) text

end MobileAudit.Console
