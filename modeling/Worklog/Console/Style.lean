import Worklog.Number.Numeral
import Worklog.Text.Lowercase

/-!
# Styles

A tag names a style by words: attributes such as `bold`, which may be taken back with `not`, a
colour, a colour behind `on` for the ground, and an address behind `link`. Different words may name
one style, so tags are compared by the words that `Style.text` writes for it: `Style.normalName`.
Words that name no style stay as they are, in small letters.

The order in which two attributes are named does not matter (`Style.withAttribute_comm`).
-/

namespace Worklog

/-- What a style may do to the letters. -/
inductive Attribute where
  | bold
  | dim
  | italic
  | underline
  | blink
  | blink2
  | reverse
  | conceal
  | strike
  | underline2
  | frame
  | encircle
  | overline
  deriving DecidableEq, Repr

namespace Attribute

/-- The attributes in the order in which they are written, with their short names. -/
def names : List (Attribute × String × Option String) :=
  [(.bold, "bold", "b"), (.dim, "dim", "d"), (.italic, "italic", "i"),
   (.underline, "underline", "u"), (.blink, "blink", none), (.blink2, "blink2", none),
   (.reverse, "reverse", "r"), (.conceal, "conceal", "c"), (.strike, "strike", "s"),
   (.underline2, "underline2", "uu"), (.frame, "frame", none), (.encircle, "encircle", none),
   (.overline, "overline", "o")]

/-- The attribute that a word names. -/
def ofWord? (word : Text) : Option Attribute :=
  (names.find? fun n => n.2.1.toList == word || n.2.2.map String.toList == some word).map (·.1)

end Attribute

/-- A style. -/
structure Style where
  /-- Whether an attribute is asked for or taken back. -/
  asked : Attribute → Option Bool
  colour : Option Text
  ground : Option Text
  link : Option Text

namespace Style

/-! ## 1. Colours -/

/-- The colours that have names. -/
def colours : List String :=
  ["default", "black", "red", "green", "yellow", "blue", "magenta", "cyan", "white",
   "bright_black", "bright_red", "bright_green", "bright_yellow", "bright_blue",
   "bright_magenta", "bright_cyan", "bright_white", "grey0", "gray0", "navy_blue", "dark_blue",
   "blue3", "blue1", "dark_green", "deep_sky_blue4", "dodger_blue3", "dodger_blue2", "green4",
   "spring_green4", "turquoise4", "deep_sky_blue3", "dodger_blue1", "green3", "spring_green3",
   "dark_cyan", "light_sea_green", "deep_sky_blue2", "deep_sky_blue1", "spring_green2", "cyan3",
   "dark_turquoise", "turquoise2", "green1", "spring_green1", "medium_spring_green", "cyan2",
   "cyan1", "dark_red", "deep_pink4", "purple4", "purple3", "blue_violet", "orange4", "grey37",
   "gray37", "medium_purple4", "slate_blue3", "royal_blue1", "chartreuse4", "dark_sea_green4",
   "pale_turquoise4", "steel_blue", "steel_blue3", "cornflower_blue", "chartreuse3",
   "cadet_blue", "sky_blue3", "steel_blue1", "pale_green3", "sea_green3", "aquamarine3",
   "medium_turquoise", "chartreuse2", "sea_green2", "sea_green1", "aquamarine1",
   "dark_slate_gray2", "dark_magenta", "dark_violet", "purple", "light_pink4", "plum4",
   "medium_purple3", "slate_blue1", "yellow4", "wheat4", "grey53", "gray53", "light_slate_grey",
   "light_slate_gray", "medium_purple", "light_slate_blue", "dark_olive_green3",
   "dark_sea_green", "light_sky_blue3", "sky_blue2", "dark_sea_green3", "dark_slate_gray3",
   "sky_blue1", "chartreuse1", "light_green", "pale_green1", "dark_slate_gray1", "red3",
   "medium_violet_red", "magenta3", "dark_orange3", "indian_red", "hot_pink3",
   "medium_orchid3", "medium_orchid", "medium_purple2", "dark_goldenrod", "light_salmon3",
   "rosy_brown", "grey63", "gray63", "medium_purple1", "gold3", "dark_khaki", "navajo_white3",
   "grey69", "gray69", "light_steel_blue3", "light_steel_blue", "yellow3", "dark_sea_green2",
   "light_cyan3", "light_sky_blue1", "green_yellow", "dark_olive_green2", "dark_sea_green1",
   "pale_turquoise1", "deep_pink3", "magenta2", "hot_pink2", "orchid", "medium_orchid1",
   "orange3", "light_pink3", "pink3", "plum3", "violet", "light_goldenrod3", "tan",
   "misty_rose3", "thistle3", "plum2", "khaki3", "light_goldenrod2", "light_yellow3", "grey84",
   "gray84", "light_steel_blue1", "yellow2", "dark_olive_green1", "honeydew2", "light_cyan1",
   "red1", "deep_pink2", "deep_pink1", "magenta1", "orange_red1", "indian_red1", "hot_pink",
   "dark_orange", "salmon1", "light_coral", "pale_violet_red1", "orchid2", "orchid1",
   "orange1", "sandy_brown", "light_salmon1", "light_pink1", "pink1", "plum1", "gold1",
   "navajo_white1", "misty_rose1", "thistle1", "yellow1", "light_goldenrod1", "khaki1",
   "wheat1", "cornsilk1", "grey100", "gray100", "grey3", "gray3", "grey7", "gray7", "grey11",
   "gray11", "grey15", "gray15", "grey19", "gray19", "grey23", "gray23", "grey27", "gray27",
   "grey30", "gray30", "grey35", "gray35", "grey39", "gray39", "grey42", "gray42", "grey46",
   "gray46", "grey50", "gray50", "grey54", "gray54", "grey58", "gray58", "grey62", "gray62",
   "grey66", "gray66", "grey70", "gray70", "grey74", "gray74", "grey78", "gray78", "grey82",
   "gray82", "grey85", "gray85", "grey89", "gray89", "grey93", "gray93"]

/-- What stands in round brackets behind a name. -/
def argument? (name : String) (word : Text) : Option Text :=
  let start := name.toList ++ ['(']
  if start.isPrefixOf word && word.getLast? == some ')' then
    some ((word.drop start.length).dropLast)
  else none

/-- Whether a text is the number of a colour. -/
def isColourNumber (t : Text) : Bool :=
  !t.isEmpty && decide (t.length ≤ 3) && t.all Text.isAsciiDigit && decide (Text.numeral t ≤ 255)

/-- Whether a text is six digits of base sixteen. -/
def isColourCode (t : Text) : Bool :=
  t.length == 6 && t.all fun c => Text.isAsciiDigit c || "abcdef".toList.contains c

/-- Whether a text gives the shares of red, green and blue. A share without digits is no number. -/
def isMixture (t : Text) : Except Fault Bool := do
  let shares := t.splitOn ','
  if shares.length != 3 then return false
  return (← shares.mapM (Numeral.whole 10)).all fun n => decide (n ≤ 255)

/-- **Whether a word names a colour.** -/
def isColour (word : Text) : Except Fault Bool :=
  let word := Text.lower word
  if colours.contains (String.ofList word) then .ok true
  else match word with
    | '#' :: code => .ok (isColourCode code)
    | _ =>
      match argument? "color" word, argument? "rgb" word with
      | some t, _ => .ok (isColourNumber t)
      | none, some t =>
        if !t.isEmpty && t.all fun c => Text.isDigit c || c == ',' then isMixture t else .ok false
      | none, none => .ok false

/-! ## 2. Words -/

/-- No style at all. -/
def plain : Style := ⟨fun _ => none, none, none, none⟩

/-- A style in which an attribute is asked for or taken back as well. -/
def withAttribute (s : Style) (a : Attribute) (on : Bool) : Style :=
  { s with asked := fun x => if x = a then some on else s.asked x }

/-- **The order of two attributes does not matter.** -/
theorem withAttribute_comm (s : Style) {a b : Attribute} (h : a ≠ b) (p q : Bool) :
    (s.withAttribute a p).withAttribute b q = (s.withAttribute b q).withAttribute a p := by
  simp only [withAttribute, Style.mk.injEq, and_true]
  funext x
  split <;> split <;> simp_all

/-- The latest word on an attribute holds. -/
theorem withAttribute_self (s : Style) (a : Attribute) (p q : Bool) :
    (s.withAttribute a p).withAttribute a q = s.withAttribute a q := by
  simp only [withAttribute, Style.mk.injEq, and_true]
  funext x
  split <;> rfl

/-- The style that some words add to one, if they do. -/
def extend? (s : Style) : List Text → Except Fault (Option Style)
  | [] => .ok (some s)
  | w :: rest =>
    let word := Text.lower w
    if word == "on".toList then
      match rest with
      | [] => .ok none
      | ground :: rest => do
        if ← isColour ground then extend? { s with ground := some (Text.lower ground) } rest
        else return none
    else if word == "not".toList then
      match rest with
      | [] => .ok none
      | name :: rest =>
        match Attribute.ofWord? name with
        | some a => extend? (s.withAttribute a false) rest
        | none => .ok none
    else if word == "link".toList then
      match rest with
      | [] => .ok none
      | address :: rest => extend? { s with link := some address } rest
    else match Attribute.ofWord? word with
      | some a => extend? (s.withAttribute a true) rest
      | none => do
        if ← isColour word then extend? { s with colour := some word } rest
        else return none

/-- The words that write a style. -/
def words (s : Style) : List Text :=
  (Attribute.names.flatMap fun (a, name, _) =>
    match s.asked a with
    | none => []
    | some true => [name.toList]
    | some false => ["not".toList, name.toList]) ++
  s.colour.toList ++
  (s.ground.toList.flatMap fun t => ["on".toList, t]) ++
  (s.link.toList.flatMap fun t => ["link".toList, t])

/-- What is written for no style. -/
def noStyle : Text := "none".toList

/-- A style in words. -/
def text (s : Style) : Text :=
  if s.words.isEmpty then noStyle else Text.joinWith [' '] s.words

/-- **The words by which tags are compared.** -/
def normalName (t : Text) : Except Fault Text := do
  match ← extend? plain (Text.words t) with
  | some s => return s.text
  | none => return Text.lower (Text.strip t)

end Style

end Worklog
