import JobMatrix.Markup.Emoji

/-! Styles by their words: attributes, a colour, a colour for the ground, a link. Two texts that
describe one style have one normal form. -/

namespace JobMatrix.Markup.Style

def colours : List String := [
  "aquamarine1 aquamarine3 black blue blue1 blue3 blue_violet bright_black bright_blue",
  "bright_cyan bright_green bright_magenta bright_red bright_white bright_yellow cadet_blue",
  "chartreuse1 chartreuse2 chartreuse3 chartreuse4 cornflower_blue cornsilk1 cyan cyan1 cyan2",
  "cyan3 dark_blue dark_cyan dark_goldenrod dark_green dark_khaki dark_magenta",
  "dark_olive_green1 dark_olive_green2 dark_olive_green3 dark_orange dark_orange3 dark_red",
  "dark_sea_green dark_sea_green1 dark_sea_green2 dark_sea_green3 dark_sea_green4",
  "dark_slate_gray1 dark_slate_gray2 dark_slate_gray3 dark_turquoise dark_violet deep_pink1",
  "deep_pink2 deep_pink3 deep_pink4 deep_sky_blue1 deep_sky_blue2 deep_sky_blue3 deep_sky_blue4",
  "dodger_blue1 dodger_blue2 dodger_blue3 gold1 gold3 gray0 gray100 gray11 gray15 gray19 gray23",
  "gray27 gray3 gray30 gray35 gray37 gray39 gray42 gray46 gray50 gray53 gray54 gray58 gray62",
  "gray63 gray66 gray69 gray7 gray70 gray74 gray78 gray82 gray84 gray85 gray89 gray93 green",
  "green1 green3 green4 green_yellow grey0 grey100 grey11 grey15 grey19 grey23 grey27 grey3",
  "grey30 grey35 grey37 grey39 grey42 grey46 grey50 grey53 grey54 grey58 grey62 grey63 grey66",
  "grey69 grey7 grey70 grey74 grey78 grey82 grey84 grey85 grey89 grey93 honeydew2 hot_pink",
  "hot_pink2 hot_pink3 indian_red indian_red1 khaki1 khaki3 light_coral light_cyan1 light_cyan3",
  "light_goldenrod1 light_goldenrod2 light_goldenrod3 light_green light_pink1 light_pink3",
  "light_pink4 light_salmon1 light_salmon3 light_sea_green light_sky_blue1 light_sky_blue3",
  "light_slate_blue light_slate_gray light_slate_grey light_steel_blue light_steel_blue1",
  "light_steel_blue3 light_yellow3 magenta magenta1 magenta2 magenta3 medium_orchid",
  "medium_orchid1 medium_orchid3 medium_purple medium_purple1 medium_purple2 medium_purple3",
  "medium_purple4 medium_spring_green medium_turquoise medium_violet_red misty_rose1",
  "misty_rose3 navajo_white1 navajo_white3 navy_blue orange1 orange3 orange4 orange_red1 orchid",
  "orchid1 orchid2 pale_green1 pale_green3 pale_turquoise1 pale_turquoise4 pale_violet_red1",
  "pink1 pink3 plum1 plum2 plum3 plum4 purple purple3 purple4 red red1 red3 rosy_brown",
  "royal_blue1 salmon1 sandy_brown sea_green1 sea_green2 sea_green3 sky_blue1 sky_blue2",
  "sky_blue3 slate_blue1 slate_blue3 spring_green1 spring_green2 spring_green3 spring_green4",
  "steel_blue steel_blue1 steel_blue3 tan thistle1 thistle3 turquoise2 turquoise4 violet wheat1",
  "wheat4 white yellow yellow1 yellow2 yellow3 yellow4"]

def attributes : List (String × String) := [
  ("bold", "bold"), ("b", "bold"), ("dim", "dim"), ("d", "dim"), ("italic", "italic"),
  ("i", "italic"), ("underline", "underline"), ("u", "underline"), ("blink", "blink"),
  ("blink2", "blink2"), ("reverse", "reverse"), ("r", "reverse"), ("conceal", "conceal"),
  ("c", "conceal"), ("strike", "strike"), ("s", "strike"), ("underline2", "underline2"),
  ("uu", "underline2"), ("frame", "frame"), ("encircle", "encircle"), ("overline", "overline"),
  ("o", "overline")]

def order : List String := (attributes.map (·.2)).eraseDups

def attribute? (word : String) : Option String :=
  (attributes.find? (·.1 == word)).map (·.2)

def small (s : String) : String := s.map Emoji.small

def argument? (opening : String) (word : String) : Option String :=
  if word.startsWith opening && word.endsWith ")" then
    some (String.ofList ((word.toList.drop opening.length).dropLast))
  else none

def isByte (s : String) : Bool := s.all Char.isDigit && (s.toNat?).elim false (· ≤ 255)

/-- Whether a word names a colour: by name, by six hexadecimal digits, by number or by parts. -/
def isColour (word : String) : Bool :=
  word == "default" || colours.any (fun line => (line.splitOn " ").contains word) ||
    (match word.toList with
      | '#' :: digits =>
        digits.length == 6 && digits.all fun c => c.isDigit || ('a' ≤ c && c ≤ 'f')
      | _ => false) ||
    (argument? "color(" word).elim false (fun n => n.length ≤ 3 && isByte n) ||
    (argument? "rgb(" word).elim false fun s =>
      let parts := s.splitOn ","
      parts.length == 3 && parts.all isByte

/-- A style: the attributes that are switched on or off, the colours, and a link. -/
structure Sheet where
  switches : List (String × Bool) := []
  colour : Option String := none
  ground : Option String := none
  link : Option String := none

/-- Reads words into a style; none when a word has no meaning. -/
def read : Sheet → List String → Option Sheet
  | s, [] => some s
  | s, w :: rest =>
    let word := small w
    if word == "on" then
      match rest with
      | next :: rest =>
        let c := small next
        if isColour c then read { s with ground := some c } rest else none
      | [] => none
    else if word == "not" then
      match rest with
      | next :: rest =>
        match attribute? next with
        | some a => read { s with switches := (a, false) :: s.switches } rest
        | none => none
      | [] => none
    else if word == "link" then
      match rest with
      | next :: rest => read { s with link := some next } rest
      | [] => none
    else match attribute? word with
      | some a => read { s with switches := (a, true) :: s.switches } rest
      | none => if isColour word then read { s with colour := some word } rest else none

def Sheet.text (s : Sheet) : String :=
  let switches := order.filterMap fun a =>
    (s.switches.find? (·.1 == a)).map fun on => if on.2 then a else "not " ++ a
  let words := switches ++ s.colour.toList ++ s.ground.toList.map ("on " ++ ·) ++
    s.link.toList.map ("link " ++ ·)
  if words.isEmpty then "none" else " ".intercalate words

def words (s : List Char) : List String :=
  ((s.splitOnP Text.isBlank).filter (!·.isEmpty)).map String.ofList

/-- The normal form of a style; a text that describes none is kept, in small letters. -/
def normal (s : List Char) : String :=
  if Text.strip s == "none".toList then "none"
  else match read {} (words s) with
    | some sheet => sheet.text
    | none => small (String.ofList (Text.strip s))

end JobMatrix.Markup.Style
