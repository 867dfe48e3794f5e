/-
The names of styles in marked text.

A style is named by its attributes and colours, each in any place and attributes also by
their first letters; so a style has several names, of which one is canonical.  A name
that tells no style is its own canonical name, up to case.
-/
import SpokenIndex.Number.Digits
import SpokenIndex.Text.Basic
import SpokenIndex.Text.Blank
import SpokenIndex.Text.Lowercase

namespace SpokenIndex.Display

/-- The attributes of styles with their other names, in their canonical order. -/
def attributes : List (String × List String) :=
  [("bold", ["b"]), ("dim", ["d"]), ("italic", ["i"]), ("underline", ["u"]), ("blink", []),
    ("blink2", []), ("reverse", ["r"]), ("conceal", ["c"]), ("strike", ["s"]),
    ("underline2", ["uu"]), ("frame", []), ("encircle", []), ("overline", ["o"])]

/-- The attribute of a name. -/
def attribute? (name : String) : Option String :=
  (attributes.find? fun (a, others) => a == name || others.contains name).map (·.1)

/-- The names of colours: the numbers with which some begin, and those. -/
def colourNames : List (List String × List String) := [
  ([""], ["black", "white", "bright_black", "bright_red", "bright_green", "bright_yellow",
    "bright_blue", "bright_magenta", "bright_cyan", "bright_white", "navy_blue", "dark_blue",
    "dark_green", "dark_cyan", "light_sea_green", "dark_turquoise", "medium_spring_green",
    "dark_red", "blue_violet", "cornflower_blue", "cadet_blue", "medium_turquoise",
    "dark_magenta", "dark_violet", "light_slate_grey", "light_slate_gray", "light_slate_blue",
    "light_green", "medium_violet_red", "dark_goldenrod", "rosy_brown", "dark_khaki",
    "green_yellow", "violet", "tan", "light_coral", "sandy_brown"]),
  (["", "1", "3"], ["red", "blue", "steel_blue", "medium_orchid", "light_steel_blue"]),
  (["", "1", "3", "4"], ["green"]),
  (["", "1", "2", "3", "4"], ["yellow", "medium_purple", "dark_sea_green"]),
  (["", "1", "2", "3"], ["magenta", "cyan"]),
  (["0", "3", "7", "11", "15", "19", "23", "27", "30", "35", "37", "39", "42", "46", "50",
    "53", "54", "58", "62", "63", "66", "69", "70", "74", "78", "82", "84", "85", "89", "93",
    "100"], ["grey", "gray"]),
  (["1", "2", "3", "4"], ["deep_sky_blue", "spring_green", "deep_pink", "chartreuse", "plum"]),
  (["1", "2", "3"], ["dodger_blue", "sky_blue", "sea_green", "dark_slate_gray",
    "dark_olive_green", "light_goldenrod"]),
  (["2", "4"], ["turquoise"]),
  (["", "3", "4"], ["purple"]),
  (["1", "3", "4"], ["orange", "light_pink"]),
  (["1", "3"], ["slate_blue", "pale_green", "aquamarine", "light_sky_blue", "light_salmon",
    "gold", "navajo_white", "light_cyan", "pink", "misty_rose", "thistle", "khaki"]),
  (["1"], ["royal_blue", "orange_red", "salmon", "pale_violet_red", "cornsilk"]),
  (["1", "4"], ["pale_turquoise", "wheat"]),
  (["", "3"], ["dark_orange"]),
  (["", "1"], ["indian_red"]),
  (["", "2", "3"], ["hot_pink"]),
  (["", "1", "2"], ["orchid"]),
  (["3"], ["light_yellow"]),
  (["2"], ["honeydew"])]

/-- Whether a text is written with six hexadecimal digits behind a number sign. -/
def isHexColour : List Char → Bool
  | '#' :: ds => ds.length == 6 && ds.all (isDigitIn 16)
  | _ => false

/-- The numbers between brackets behind a word, if a text is written so. -/
def numbersOf? (word : String) (s : List Char) : Option (List Nat) :=
  let start := word.toList ++ ['(']
  if start.isPrefixOf s && s.getLast? == some ')' then
    (Text.splitAt ',' (s.drop start.length).dropLast).mapM fun ds =>
      let ds := Text.trim ds
      if ds.isEmpty || !ds.all Char.isDigit then none else some (numberIn 10 ds)
  else none

/-- Whether a lowercase word is a colour. -/
def isColour (word : String) : Bool :=
  let s := word.toList
  let stem := String.ofList (Text.dropEndWhile Char.isDigit s)
  let number := String.ofList (s.drop stem.length)
  word == "default" || isHexColour s
    || colourNames.any (fun (numbers, names) => numbers.contains number && names.contains stem)
    || (match numbersOf? "color" s, numbersOf? "rgb" s with
      | some [n], _ => n ≤ 255
      | _, some [r, g, b] => r ≤ 255 && g ≤ 255 && b ≤ 255
      | _, _ => false)

/-- What a style is made of. -/
structure Style where
  /-- Attributes and whether they are switched on. -/
  switched : List (String × Bool)
  colour : Option String
  ground : Option String
  link : Option String
  deriving DecidableEq, Repr

/-- The style that changes nothing. -/
def Style.plain : Style := ⟨[], none, none, none⟩

/-- Switches an attribute; of several times the last counts. -/
def Style.switch (style : Style) (a : String) (isOn : Bool) : Style :=
  { style with switched := (a, isOn) :: style.switched.filter (·.1 != a) }

/-- The style that words tell, if they tell one. -/
def Style.ofWords? : Style → List String → Option Style
  | style, [] => some style
  | style, word :: rest =>
    let small := Text.lowercase word
    match small, rest with
    | "on", ground :: rest =>
      if isColour (Text.lowercase ground) then
        { style with ground := some (Text.lowercase ground) }.ofWords? rest
      else none
    | "not", a :: rest => (attribute? a).bind fun a => (style.switch a false).ofWords? rest
    | "link", address :: rest => { style with link := some address }.ofWords? rest
    | _, rest =>
      match attribute? small with
      | some a => (style.switch a true).ofWords? rest
      | none =>
        if isColour small then { style with colour := some small }.ofWords? rest else none

/-- The words of a style in their canonical order. -/
def Style.words (style : Style) : List String :=
  let attrs := attributes.filterMap fun (a, _) =>
    (style.switched.find? (·.1 == a)).map fun (_, isOn) => if isOn then a else "not " ++ a
  attrs ++ style.colour.toList ++ (style.ground.map ("on " ++ ·)).toList
    ++ (style.link.map ("link " ++ ·)).toList

/-- The canonical name of a style. -/
def canonicalStyle (name : List Char) : String :=
  let trimmed := Text.trim name
  let style? :=
    if trimmed == "none".toList then some .plain
    else Style.plain.ofWords? ((Text.words name).map String.ofList)
  match style? with
  | some style => if style.words.isEmpty then "none" else " ".intercalate style.words
  | none => Text.lowercase (String.ofList trimmed)

end SpokenIndex.Display
