/-!
# Support — Json

The values that `JSON.parse` returns, with what ECMAScript makes of them where it wants a boolean
or a string.  The conversion to a string throws on an object with a property `toString`, since no
property of such a value can be called.
-/

/-- A number as `String(n)` writes it. -/
structure NumberText where
  text : String
  start : (text.toList.head?.any fun c => c.isDigit || c == '-' || c == 'I') = true

inductive Json where
  | null
  | bool (b : Bool)
  | num (n : NumberText)
  | str (s : String)
  | arr (items : List Json)
  | obj (fields : List (String × Json))

namespace Json

/-- The value is neither `undefined`, `null`, `false`, zero nor empty. -/
def truthy : Option Json → Bool
  | none | some .null => false
  | some (.bool b)    => b
  | some (.num n)     => n.text ≠ "0"
  | some (.str s)     => s ≠ ""
  | some (.arr _) | some (.obj _) => true

mutual

/-- `String(value)`, unless it throws. -/
def toText : Json → Option String
  | .null       => some "null"
  | .bool b     => some (if b then "true" else "false")
  | .num n      => some n.text
  | .str s      => some s
  | .arr items  => (itemTexts items).map (String.intercalate ",")
  | .obj fields => if fields.any fun x => x.1 == "toString" then none else some "[object Object]"

/-- What `items.join(',')` joins. -/
def itemTexts : List Json → Option (List String)
  | []             => some []
  | .null :: items => (itemTexts items).map ("" :: ·)
  | item :: items  =>
      match toText item, itemTexts items with
      | some text, some texts => some (text :: texts)
      | _, _ => none

end

/-- A property of an object; of two with one name the later one counts. -/
def field (fields : List (String × Json)) (name : String) : Option Json :=
  (fields.reverse.find? fun x => x.1 == name).map Prod.snd

end Json
