import DeclaredOptions.Text.Cut

/-!
Contract: names in a running text.

Owns: the style tags around each name, and the commas and the word between names.

Does not own: what a style looks like.
-/

namespace DeclaredOptions.Console

def styled (style : Option String) (text : String) : String :=
  match style with
  | some style => "[" ++ style ++ "]" ++ text ++ "[/" ++ style ++ "]"
  | none => text

/-- Items in a running text; `empty` stands for no items. -/
def listing (style : Option String) (empty : String) (items : List String) : String :=
  match items.map (styled style) with
  | [] => styled style empty
  | [one] => one
  | [first, second] => first ++ " and " ++ second
  | many => Text.joined ", " many.dropLast ++ ", and " ++ many.getLastD ""

end DeclaredOptions.Console
