import DeclaredOptions.Console.ColorTable
import DeclaredOptions.Literal.Typed
import DeclaredOptions.Text.Lower

/-!
Contract: the styles that tags name.

Owns:
- the words of styles: attributes, colors and addresses to link to;
- the names by which opening and closing tags are compared.

Does not own: what a style looks like.
-/

namespace DeclaredOptions.Console

/-- The attributes of styles with their short names, in the order that a style lists them. -/
def attributeNames : List (String × String) :=
  [("bold", "b"), ("dim", "d"), ("italic", "i"), ("underline", "u"), ("blink", "blink"),
    ("blink2", "blink2"), ("reverse", "r"), ("conceal", "c"), ("strike", "s"),
    ("underline2", "uu"), ("frame", "frame"), ("encircle", "encircle"), ("overline", "o")]

def attribute? (word : String) : Option String :=
  (attributeNames.find? fun (name, short) => word == name || word == short).map (·.1)

/-! ## Colors -/

def isHexColor (digits : List Char) : Bool :=
  digits.length == 6 && digits.all fun c => (Numeral.digitBelow? 16 c).isSome

def isPaletteColor (digits : List Char) : Bool :=
  (1 ≤ digits.length && digits.length ≤ 3 && digits.all (·.isDigit)) &&
    Number.ofDigits 10 (digits.map fun c => c.toNat - 0x30) ≤ 255

/-- Whether three numbers between commas give a color. Numbers that cannot be read are refused. -/
def isMixedColor (inside : List Char) : Except ValueFault Bool :=
  if inside.isEmpty || !inside.all (fun c => c == ',' || Text.isDecimal c) then .ok false
  else
    match Text.pieces ',' inside with
    | [red, green, blue] => do
      let parts ← [red, green, blue].mapM fun part =>
        Numeral.wholeOfText part (Text.quoted (String.ofList part))
      pure (parts.all (· ≤ 255))
    | _ => .ok false

/-- What a word holds in parentheses behind a name. -/
def inParentheses? (name : String) (word : List Char) : Option (List Char) :=
  (Text.after? (name.toList ++ ['(']) word).bind (Text.before? [')'])

/-- Whether a word in lower case gives a color. -/
def isColor (word : String) : Except ValueFault Bool :=
  if colorNames.contains word then .ok true
  else
    match Text.after? ['#'] word.toList, inParentheses? "color" word.toList,
      inParentheses? "rgb" word.toList with
    | some digits, _, _ => .ok (isHexColor digits)
    | none, some digits, _ => .ok (isPaletteColor digits)
    | none, none, some inside => isMixedColor inside
    | none, none, none => .ok false

/-! ## Styles -/

/-- A style: the attributes that are set or unset, the two colors, and an address to link to. -/
structure Style where
  attributes : List (String × Bool)
  color : Option String
  background : Option String
  link : Option String

/-- A style with more words read, or nothing if they mean no style. Each word comes in lower case first,
and then as it is. -/
def readStyle (style : Style) : List (String × String) → Except ValueFault (Option Style)
  | [] => .ok (some style)
  | ("on", _) :: (color, _) :: rest => do
    if ← isColor color then readStyle { style with background := some color } rest else pure none
  | ("not", _) :: (_, word) :: rest =>
    match attribute? word with
    | some name => readStyle { style with attributes := (name, false) :: style.attributes } rest
    | none => .ok none
  | ("link", _) :: (_, address) :: rest => readStyle { style with link := some address } rest
  | (word, _) :: rest =>
    match attribute? word with
    | some name => readStyle { style with attributes := (name, true) :: style.attributes } rest
    | none => do
      if ← isColor word then readStyle { style with color := some word } rest else pure none

def Style.words (style : Style) : List String :=
  let part (name : String) :=
    match style.attributes.find? fun (other, _) => other == name with
    | some (_, true) => [name]
    | some (_, false) => ["not " ++ name]
    | none => []
  attributeNames.flatMap (fun (name, _) => part name) ++ style.color.toList
    ++ (style.background.map ("on " ++ ·)).toList ++ (style.link.map ("link " ++ ·)).toList

/-- The name that opening and closing tags are compared by: the usual form of a style, and any other
text without the blanks at its ends and in lower case. -/
def styleName (text : List Char) : Except ValueFault String := do
  let words := (Text.words text).map fun word => (String.ofList (Text.lower word), String.ofList word)
  match ← readStyle ⟨[], none, none, none⟩ words with
  | some style => pure (if style.words.isEmpty then "none" else Text.joined " " style.words)
  | none => pure (String.ofList (Text.lower (Text.trim text)))

end DeclaredOptions.Console
