import TensorCompiler.Text.Basic

/-!
# Markup

## Named colors

The colors that have a name on the web, by their parts of red, green and blue.
-/

namespace TensorCompiler.Markup

/-- The named colors, in the order of their names. -/
def palette : List (String × List Nat) :=
  [("aliceblue", [240, 248, 255]), ("antiquewhite", [250, 235, 215]), ("aqua", [0, 255, 255]),
    ("aquamarine", [127, 255, 212]), ("azure", [240, 255, 255]), ("beige", [245, 245, 220]),
    ("bisque", [255, 228, 196]), ("black", [0, 0, 0]), ("blanchedalmond", [255, 235, 205]),
    ("blue", [0, 0, 255]), ("blueviolet", [138, 43, 226]), ("brown", [165, 42, 42]),
    ("burlywood", [222, 184, 135]), ("cadetblue", [95, 158, 160]), ("chartreuse", [127, 255, 0]),
    ("chocolate", [210, 105, 30]), ("coral", [255, 127, 80]), ("cornflowerblue", [100, 149, 237]),
    ("cornsilk", [255, 248, 220]), ("crimson", [220, 20, 60]), ("cyan", [0, 255, 255]),
    ("darkblue", [0, 0, 139]), ("darkcyan", [0, 139, 139]), ("darkgoldenrod", [184, 134, 11]),
    ("darkgray", [169, 169, 169]), ("darkgreen", [0, 100, 0]), ("darkgrey", [169, 169, 169]),
    ("darkkhaki", [189, 183, 107]), ("darkmagenta", [139, 0, 139]),
    ("darkolivegreen", [85, 107, 47]), ("darkorange", [255, 140, 0]),
    ("darkorchid", [153, 50, 204]), ("darkred", [139, 0, 0]), ("darksalmon", [233, 150, 122]),
    ("darkseagreen", [143, 188, 143]), ("darkslateblue", [72, 61, 139]),
    ("darkslategray", [47, 79, 79]), ("darkslategrey", [47, 79, 79]),
    ("darkturquoise", [0, 206, 209]), ("darkviolet", [148, 0, 211]), ("deeppink", [255, 20, 147]),
    ("deepskyblue", [0, 191, 255]), ("dimgray", [105, 105, 105]), ("dimgrey", [105, 105, 105]),
    ("dodgerblue", [30, 144, 255]), ("firebrick", [178, 34, 34]), ("floralwhite", [255, 250, 240]),
    ("forestgreen", [34, 139, 34]), ("fuchsia", [255, 0, 255]), ("gainsboro", [220, 220, 220]),
    ("ghostwhite", [248, 248, 255]), ("gold", [255, 215, 0]), ("goldenrod", [218, 165, 32]),
    ("gray", [128, 128, 128]), ("green", [0, 128, 0]), ("greenyellow", [173, 255, 47]),
    ("grey", [128, 128, 128]), ("honeydew", [240, 255, 240]), ("hotpink", [255, 105, 180]),
    ("indianred", [205, 92, 92]), ("indigo", [75, 0, 130]), ("ivory", [255, 255, 240]),
    ("khaki", [240, 230, 140]), ("lavender", [230, 230, 250]), ("lavenderblush", [255, 240, 245]),
    ("lawngreen", [124, 252, 0]), ("lemonchiffon", [255, 250, 205]),
    ("lightblue", [173, 216, 230]), ("lightcoral", [240, 128, 128]),
    ("lightcyan", [224, 255, 255]), ("lightgoldenrodyellow", [250, 250, 210]),
    ("lightgray", [211, 211, 211]), ("lightgreen", [144, 238, 144]),
    ("lightgrey", [211, 211, 211]), ("lightpink", [255, 182, 193]),
    ("lightsalmon", [255, 160, 122]), ("lightseagreen", [32, 178, 170]),
    ("lightskyblue", [135, 206, 250]), ("lightslategray", [119, 136, 153]),
    ("lightslategrey", [119, 136, 153]), ("lightsteelblue", [176, 196, 222]),
    ("lightyellow", [255, 255, 224]), ("lime", [0, 255, 0]), ("limegreen", [50, 205, 50]),
    ("linen", [250, 240, 230]), ("magenta", [255, 0, 255]), ("maroon", [128, 0, 0]),
    ("mediumaquamarine", [102, 205, 170]), ("mediumblue", [0, 0, 205]),
    ("mediumorchid", [186, 85, 211]), ("mediumpurple", [147, 112, 219]),
    ("mediumseagreen", [60, 179, 113]), ("mediumslateblue", [123, 104, 238]),
    ("mediumspringgreen", [0, 250, 154]), ("mediumturquoise", [72, 209, 204]),
    ("mediumvioletred", [199, 21, 133]), ("midnightblue", [25, 25, 112]),
    ("mintcream", [245, 255, 250]), ("mistyrose", [255, 228, 225]), ("moccasin", [255, 228, 181]),
    ("navajowhite", [255, 222, 173]), ("navy", [0, 0, 128]), ("oldlace", [253, 245, 230]),
    ("olive", [128, 128, 0]), ("olivedrab", [107, 142, 35]), ("orange", [255, 165, 0]),
    ("orangered", [255, 69, 0]), ("orchid", [218, 112, 214]), ("palegoldenrod", [238, 232, 170]),
    ("palegreen", [152, 251, 152]), ("paleturquoise", [175, 238, 238]),
    ("palevioletred", [219, 112, 147]), ("papayawhip", [255, 239, 213]),
    ("peachpuff", [255, 218, 185]), ("peru", [205, 133, 63]), ("pink", [255, 192, 203]),
    ("plum", [221, 160, 221]), ("powderblue", [176, 224, 230]), ("purple", [128, 0, 128]),
    ("red", [255, 0, 0]), ("rosybrown", [188, 143, 143]), ("royalblue", [65, 105, 225]),
    ("saddlebrown", [139, 69, 19]), ("salmon", [250, 128, 114]), ("sandybrown", [244, 164, 96]),
    ("seagreen", [46, 139, 87]), ("seashell", [255, 245, 238]), ("sienna", [160, 82, 45]),
    ("silver", [192, 192, 192]), ("skyblue", [135, 206, 235]), ("slateblue", [106, 90, 205]),
    ("slategray", [112, 128, 144]), ("slategrey", [112, 128, 144]), ("snow", [255, 250, 250]),
    ("springgreen", [0, 255, 127]), ("steelblue", [70, 130, 180]), ("tan", [210, 180, 140]),
    ("teal", [0, 128, 128]), ("thistle", [216, 191, 216]), ("tomato", [255, 99, 71]),
    ("turquoise", [64, 224, 208]), ("violet", [238, 130, 238]), ("wheat", [245, 222, 179]),
    ("white", [255, 255, 255]), ("whitesmoke", [245, 245, 245]), ("yellow", [255, 255, 0]),
    ("yellowgreen", [154, 205, 50])]

/-!
## Markup in messages

A message may color a part of itself: between a tag and its end, as in `<red>stop</>`, or by the
codes of a terminal. A tag is rendered as codes, and a plain log shows no codes, so that neither is
left in it. A tag with an unknown name is kept as it is.
-/

/-- The character that starts the code of a terminal. -/
def escape : Char := Char.ofNat 27

/-- The named tags with their codes. -/
def tagCodes : List (String × String) :=
  [("red", "0;31"), ("red1", "1;31"), ("redB", "1;31"), ("red_b", "1;31"), ("blue", "0;34"),
    ("blue1", "1;34"), ("blueB", "1;34"), ("blue_b", "1;34"), ("cyan", "0;36"), ("cyan1", "1;36"),
    ("cyanB", "1;36"), ("cyan_b", "1;36"), ("green", "0;32"), ("green1", "1;32"),
    ("greenB", "1;32"), ("green_b", "1;32"), ("black", "0;30"), ("white", "1;37"),
    ("default", "0;39"), ("normal", "0;39"), ("brown", "0;33"), ("yellow", "0;33"),
    ("ylw0", "0;33"), ("yellowB", "1;33"), ("ylw1", "1;33"), ("ylwB", "1;33"),
    ("magenta", "0;35"), ("mga", "0;35"), ("magentaB", "1;35"), ("magenta1", "1;35"),
    ("mgb", "1;35"), ("mga1", "1;35"), ("mgaB", "1;35"), ("gray", "0;90"), ("darkGray", "0;90"),
    ("dark_gray", "0;90"), ("lightYellow", "0;93"), ("light_yellow", "0;93"),
    ("hiYellow", "0;93"), ("hi_yellow", "0;93"), ("hiYellowB", "1;93"), ("hi_yellow_b", "1;93"),
    ("lightMagenta", "0;95"), ("light_magenta", "0;95"), ("hiMagenta", "0;95"),
    ("hi_magenta", "0;95"), ("lightMagenta1", "1;95"), ("hiMagentaB", "1;95"),
    ("hi_magenta_b", "1;95"), ("lightRed", "0;91"), ("light_red", "0;91"), ("hiRed", "0;91"),
    ("hi_red", "0;91"), ("lightRedB", "1;91"), ("light_red_b", "1;91"), ("hi_red_b", "1;91"),
    ("lightGreen", "0;92"), ("light_green", "0;92"), ("hiGreen", "0;92"), ("hi_green", "0;92"),
    ("lightGreenB", "1;92"), ("light_green_b", "1;92"), ("hi_green_b", "1;92"),
    ("lightBlue", "0;94"), ("light_blue", "0;94"), ("hiBlue", "0;94"), ("hi_blue", "0;94"),
    ("lightBlueB", "1;94"), ("light_blue_b", "1;94"), ("hi_blue_b", "1;94"),
    ("lightCyan", "0;96"), ("light_cyan", "0;96"), ("hiCyan", "0;96"), ("hi_cyan", "0;96"),
    ("lightCyanB", "1;96"), ("light_cyan_b", "1;96"), ("hi_cyan_b", "1;96"),
    ("lightWhite", "0;97;40"), ("light_white", "0;97;40"), ("bold", "1"), ("b", "1"),
    ("italic", "3"), ("i", "3"), ("underscore", "4"), ("us", "4"), ("blink", "5"), ("fb", "6"),
    ("reverse", "7"), ("st", "9"), ("suc", "1;32"), ("success", "1;32"), ("info", "0;32"),
    ("comment", "0;33"), ("note", "36;1"), ("notice", "36;4"), ("warn", "0;1;33"),
    ("warning", "0;30;43"), ("primary", "0;34"), ("danger", "1;31"), ("err", "97;41"),
    ("error", "97;41")]

/-- The colors of an attribute with their codes for a text. -/
def colors : List (String × Nat) :=
  [("black", 30), ("red", 31), ("green", 32), ("yellow", 33), ("brown", 33), ("ylw", 33),
    ("blue", 34), ("magenta", 35), ("mga", 35), ("cyan", 36), ("white", 37), ("default", 39),
    ("normal", 39), ("gray", 90), ("darkGray", 90), ("lightRed", 91), ("hiRed", 91),
    ("lightGreen", 92), ("hiGreen", 92), ("lightYellow", 93), ("hiYellow", 93), ("lightBlue", 94),
    ("hiBlue", 94), ("lightMagenta", 95), ("hiMagenta", 95), ("lightCyan", 96), ("hiCyan", 96),
    ("lightWhite", 97)]

/-- The code of a color for the ground of a text: ten more than for the text itself. White has one
code for both. -/
def groundCode (name : String) (code : Nat) : Nat :=
  if name == "white" then code else code + 10

/-- The styles of letters. -/
def styles : List (String × Nat) :=
  [("reset", 0), ("bold", 1), ("b", 1), ("fuzzy", 2), ("italic", 3), ("i", 3), ("underscore", 4),
    ("us", 4), ("u", 4), ("blink", 5), ("fastblink", 6), ("fb", 6), ("reverse", 7),
    ("concealed", 8), ("strikethrough", 9), ("st", 9)]

/-- An ASCII letter or digit. -/
def isPlain (c : Char) : Bool :=
  ('a' ≤ c && c ≤ 'z') || ('A' ≤ c && c ≤ 'Z') || ('0' ≤ c && c ≤ '9')

/-- The value of two hexadecimal digits. -/
def hexPair? (a b : Char) : Option Nat :=
  let digit? (c : Char) : Option Nat :=
    if '0' ≤ c && c ≤ '9' then some (c.toNat - 48)
    else if 'a' ≤ c && c ≤ 'f' then some (c.toNat - 87)
    else if 'A' ≤ c && c ≤ 'F' then some (c.toNat - 55)
    else none
  match digit? a, digit? b with
  | some x, some y => some (16 * x + y)
  | _, _ => none

/-- The three parts of a color in six hexadecimal digits. -/
def hexColor? (value : List Char) : Option (List Nat) :=
  match value with
  | [a, b, c, d, e, f] =>
    match hexPair? a b, hexPair? c d, hexPair? e f with
    | some red, some green, some blue => some [red, green, blue]
    | _, _, _ => none
  | _ => none

/-- The code of a color: a named one, three parts in hexadecimal or between commas, or a number. -/
def colorCode? (ground : Bool) (value : List Char) : Option String :=
  let lead := if ground then "48" else "38"
  match colors.find? (·.1 == String.ofList value) with
  | some p => some (Text.ofNat (if ground then groundCode p.1 p.2 else p.2))
  | none =>
    match hexColor? value with
    | some parts => some (Text.joinWith ";" (lead :: "2" :: parts.map Text.ofNat))
    | none =>
      if value.contains ',' then
        some (lead ++ ";2;" ++ String.ofList (value.map fun c => if c == ',' then ';' else c))
      else if value.length < 4 && value.all Char.isDigit then
        some (lead ++ ";5;" ++ String.ofList value)
      else none

/-- The codes of the styles between commas. -/
def styleCodes (value : List Char) : List String :=
  (Text.splitChars ',' value).filterMap fun part =>
    (styles.find? (·.1 == String.ofList part)).map fun p => Text.ofNat p.2

/-- The codes of one attribute. -/
def attributeCodes (kind value : List Char) : List String :=
  if kind == ['o', 'p'] then styleCodes value
  else (colorCode? (kind == ['b', 'g']) value).toList

/-- The attributes of a tag: a kind, an equals sign and a value each. -/
def attributes : Nat → List Char → List (List Char × List Char)
  | 0, _ => []
  | _, [] => []
  | fuel + 1, c :: cs =>
    match c, cs with
    | a, b :: '=' :: rest =>
      let value := rest.takeWhile fun c => isPlain c || c == ','
      if [['f', 'g'], ['b', 'g'], ['o', 'p']].contains [a, b] && !value.isEmpty then
        ([a, b], value) :: attributes fuel (rest.drop value.length)
      else attributes fuel cs
    | _, cs => attributes fuel cs

/-- The code of a tag, or an empty text if it has none. -/
def tagCode (tag : List Char) : String :=
  if tag.contains '=' then
    let isEdge (c : Char) := c == ';' || c == '=' || c == ','
    let inner := ((tag.dropWhile isEdge).reverse.dropWhile isEdge).reverse
    Text.joinWith ";" ((attributes inner.length inner).flatMap fun p => attributeCodes p.1 p.2)
  else
    let name := String.ofList tag
    match tagCodes.find? (·.1 == name), palette.find? (·.1 == name) with
    | some p, _ => p.2
    | none, some p => Text.joinWith ";" ("38" :: "2" :: p.2.map Text.ofNat)
    | none, none => ""

/-- A part of a message between a tag and its end. -/
structure Tagged where
  tag : List Char
  body : List Char

/-- The part as it was written. -/
def Tagged.source (t : Tagged) : List Char :=
  '<' :: t.tag ++ '>' :: t.body ++ ['<', '/', '>']

/-- The part with codes around it. Nothing is put around an empty part. -/
def Tagged.rendered (t : Tagged) (code : String) : List Char :=
  if t.body.isEmpty then []
  else escape :: '[' :: code.toList ++ 'm' :: t.body ++ [escape, '[', '0', 'm']

/-- The characters before the end of a tag. -/
def bodyOf? : List Char → Option (List Char)
  | [] => none
  | '<' :: '/' :: '>' :: _ => some []
  | c :: cs => (bodyOf? cs).map (c :: ·)

/-- The tagged part at the front of some characters. -/
def taggedAt? (cs : List Char) : Option Tagged :=
  match cs with
  | '<' :: rest =>
    let tag := rest.takeWhile fun c => isPlain c || ['_', '=', ',', ';'].contains c
    match tag, rest.drop tag.length with
    | _ :: _, '>' :: inner => (bodyOf? inner).map (⟨tag, ·⟩)
    | _, _ => none
  | _ => none

/-- The tagged parts of a message, none inside another. `skip` characters are passed over first. -/
def taggedParts (skip : Nat) : List Char → List Tagged
  | [] => []
  | c :: cs =>
    match skip with
    | skip + 1 => taggedParts skip cs
    | 0 =>
      match taggedAt? (c :: cs) with
      | some t => t :: taggedParts (t.source.length - 1) cs
      | none => taggedParts 0 cs

/-- Replaces the first occurrence of some characters. -/
def replaceFirst (old new : List Char) : List Char → List Char
  | [] => []
  | c :: cs =>
    if old.isPrefixOf (c :: cs) then new ++ (c :: cs).drop old.length
    else c :: replaceFirst old new cs

/-- Renders the tagged parts of a message whose tags have codes. -/
def render (message : List Char) : List Char :=
  (taggedParts 0 message).foldl (fun m t =>
    let code := tagCode t.tag
    if code.isEmpty then m else replaceFirst t.source (t.rendered code) m) message

/-- The number of characters of the code at the front. -/
def codeLength? (cs : List Char) : Option Nat :=
  match cs with
  | c :: '[' :: rest =>
    let inner := rest.takeWhile fun c => c.isDigit || c == ';' || c == '?'
    if c == escape && !inner.isEmpty && (rest.drop inner.length).head? == some 'm' then
      some (inner.length + 3)
    else none
  | _ => none

/-- The characters without codes. `skip` characters are passed over first. -/
def dropCodes (skip : Nat) : List Char → List Char
  | [] => []
  | c :: cs =>
    match skip with
    | skip + 1 => dropCodes skip cs
    | 0 =>
      match codeLength? (c :: cs) with
      | some n => dropCodes (n - 1) cs
      | none => c :: dropCodes 0 cs

end TensorCompiler.Markup
