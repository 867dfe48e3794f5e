/-
Emoji by their names.

The name of an emoji between colons stands for it.  Behind the name a variant may be
told, which is a character of its own behind the emoji.  What is between colons and
names no emoji stays, and its second colon begins no further name.
-/
import SpokenIndex.Display.EmojiNames
import SpokenIndex.Text.Blank
import SpokenIndex.Text.Lowercase

namespace SpokenIndex.Display

/-- The emoji of a lowercase name. -/
def emoji? (name : List Char) : Option (List Char) :=
  (emojiNames.find? fun (n, _) => n == String.ofList name).map fun (_, codes) =>
    codes.map Char.ofNat

/-- The variants of an emoji and the characters that tell them. -/
def emojiVariants : List (List Char × Char) :=
  [("-text".toList, '\ufe0e'), ("-emoji".toList, '\ufe0f')]

/-- What stands between colons: a name, and the character of a variant. -/
def nameAndVariant (inside : List Char) : List Char × List Char :=
  match emojiVariants.find? fun (ending, _) => ending.isSuffixOf inside with
  | some (ending, mark) => (inside.take (inside.length - ending.length), [mark])
  | none => (inside, [])

/-- What a text between colons stands for, colons included. -/
def emojiOrSelf (inside : List Char) : List Char :=
  let (name, variant) := nameAndVariant inside
  match emoji? (Text.lower name) with
  | some found => found ++ variant
  | none => ':' :: inside ++ [':']

/-- The characters up to a colon and those behind it, if no blank comes before the colon. -/
def upToColon : List Char → Option (List Char × List Char)
  | [] => none
  | c :: rest =>
    if c == ':' then some ([], rest)
    else if Text.isBlank c then none
    else (upToColon rest).map fun (inside, after) => (c :: inside, after)

/-- A text with names of emoji replaced; `limit` bounds its length. -/
def replaceEmojiWithin : (limit : Nat) → List Char → List Char
  | 0, s => s
  | _ + 1, [] => []
  | limit + 1, c :: rest =>
    if c == ':' then
      match upToColon rest with
      | some (inside, after) => emojiOrSelf inside ++ replaceEmojiWithin limit after
      | none => c :: replaceEmojiWithin limit rest
    else c :: replaceEmojiWithin limit rest

/-- A text with names of emoji replaced. -/
def replaceEmoji (s : List Char) : List Char :=
  replaceEmojiWithin s.length s

end SpokenIndex.Display
