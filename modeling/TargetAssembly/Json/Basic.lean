import TargetAssembly.Binary64
import TargetAssembly.Decimal.Shortest
import TargetAssembly.Keyed
import TargetAssembly.Text.Quoted
import TargetAssembly.Value.Written

/-!
# JSON values

A JSON value as it is read from a text or written to one.  Texts are lists of positions, since an
escape can name half of a surrogate pair.  An object binds each name once, in the order of first
mention.  Whole numbers come from reading or from `Value.toJson`, and neither lets one pass that has
more than `Decimal.maxDigits` digits, so each has a text.
-/

namespace TargetAssembly

/-! ## Values -/

open Text (Point)

/-- A JSON value. -/
inductive Json where
  /-- The absent value. -/
  | null
  /-- A truth value. -/
  | bool (b : Bool)
  /-- A whole number. -/
  | int (i : Int)
  /-- A number with a point or an exponent, or one that no digits can say. -/
  | float (x : Binary64)
  /-- A text. -/
  | text (s : List Point)
  /-- A list. -/
  | list (items : List Json)
  /-- An object. -/
  | object (members : List (List Point × Json))

namespace Json

/-- A string as a JSON text. -/
def ofString (s : String) : Json := text (Point.ofString s)

/-- The value under a name, if there is one. -/
def member? (name : String) (members : List (List Point × Json)) : Option Json :=
  members.lookup (Point.ofString name)

mutual

/-- A JSON value as messages quote it. -/
def quoted : Json → String
  | null => "None"
  | bool b => Value.writtenBool b
  | int i => toString i
  | float x => x.text
  | text s => Text.quotedPoints s
  | list items => "[" ++ Value.commaList (quotedItems items) ++ "]"
  | object members => Value.writtenMapping false (quotedMembers members)

/-- The items of a list. -/
def quotedItems : List Json → List String
  | [] => []
  | v :: rest => v.quoted :: quotedItems rest

/-- The members of an object. -/
def quotedMembers : List (List Point × Json) → List String
  | [] => []
  | (name, v) :: rest => (Text.quotedPoints name ++ ": " ++ v.quoted) :: quotedMembers rest

end

end Json

end TargetAssembly

namespace TargetAssembly.Json

/-!
## Writing

Values are written in ASCII alone: every other character, and every control character, is escaped
by its number, in two halves if it lies beyond the first 65536.  `inline` writes a value on one
line, `indented` writes each part on a line of its own.  Members are written in the order in
which the object has them.
-/

open Text (Point)

/-- A code below 65536 behind a backslash and the letter `u`. -/
def escapeCode (code : Nat) : List Char := '\\' :: 'u' :: Text.hexDigits 4 code

/-- A code by its number, in two halves if it has more than sixteen bits. -/
def escapeNumber (code : Nat) : List Char :=
  if code < 0x10000 then escapeCode code
  else
    escapeCode (0xd800 + (code - 0x10000) / 0x400) ++ escapeCode (0xdc00 + (code - 0x10000) % 0x400)

/-- One position of a text. -/
def escapePoint : Point → List Char
  | .char '\x22' => ['\\', '\x22']
  | .char '\\' => ['\\', '\\']
  | .char '\n' => ['\\', 'n']
  | .char '\r' => ['\\', 'r']
  | .char '\t' => ['\\', 't']
  | .char '\x0c' => ['\\', 'f']
  | .char '\x08' => ['\\', 'b']
  | .char c => if 0x20 ≤ c.toNat ∧ c.toNat ≤ 0x7e then [c] else escapeNumber c.toNat
  | .half code => escapeNumber code

/-- A text in quotes. -/
def writtenText (s : List Point) : List Char :=
  '\x22' :: s.flatMap escapePoint ++ ['\x22']

/-- A scalar, or nothing for a list or an object. -/
def writtenScalar : Json → List Char
  | null => "null".toList
  | bool b => (if b then "true" else "false").toList
  | int i => (toString i).toList
  | float x => (x.textWith "Infinity" "NaN").toList
  | text s => writtenText s
  | list _ => []
  | object _ => []

/-- Parts between separators. -/
def separated (separator : List Char) : List (List Char) → List Char
  | [] => []
  | [part] => part
  | part :: rest => part ++ separator ++ separated separator rest

/-! ### On one line -/

mutual

/-- A value on one line. -/
def inline : Json → List Char
  | list items => '[' :: separated [',', ' '] (inlineItems items) ++ [']']
  | object members => '\x7b' :: separated [',', ' '] (inlineMembers members) ++ ['\x7d']
  | v => writtenScalar v

/-- The items of a list. -/
def inlineItems : List Json → List (List Char)
  | [] => []
  | v :: rest => v.inline :: inlineItems rest

/-- The members of an object. -/
def inlineMembers : List (List Point × Json) → List (List Char)
  | [] => []
  | (name, v) :: rest => (writtenText name ++ ':' :: ' ' :: v.inline) :: inlineMembers rest

end

/-! ### On several lines -/

/-- A line end and two spaces for each level. -/
def newLine (level : Nat) : List Char := '\n' :: List.replicate (2 * level) ' '

/-- Parts between brackets, each on a line of its own one level further in. -/
def onLines (left right : Char) (level : Nat) (parts : List (List Char)) : List Char :=
  if parts.isEmpty then [left, right]
  else
    left :: newLine (level + 1) ++ separated (',' :: newLine (level + 1)) parts ++
      newLine level ++ [right]

mutual

/-- A value on several lines, at a level. -/
def indented (level : Nat) : Json → List Char
  | list items => onLines '[' ']' level (indentedItems (level + 1) items)
  | object members => onLines '\x7b' '\x7d' level (indentedMembers (level + 1) members)
  | v => writtenScalar v

/-- The items of a list. -/
def indentedItems (level : Nat) : List Json → List (List Char)
  | [] => []
  | v :: rest => v.indented level :: indentedItems level rest

/-- The members of an object. -/
def indentedMembers (level : Nat) : List (List Point × Json) → List (List Char)
  | [] => []
  | (name, v) :: rest =>
    (writtenText name ++ ':' :: ' ' :: v.indented level) :: indentedMembers level rest

end

end TargetAssembly.Json
