import TargetAssembly.Template.Subject

/-!
# Templates with one name

A template is a text in which the field `name` stands between braces; a brace that is text is
doubled.  A field can go on to a part of the name by a point or by an index in brackets, can ask
for it in quotes by an exclamation mark and a letter, and can ask for alignment, width and length
behind a colon.  What stands behind the colon may hold fields itself, one level deep.

`Template.fill` fills a template from left to right and stops at the first thing that is wrong
with it.
-/

namespace TargetAssembly.Template

/-! ## Fields -/

/-- A field between braces. -/
structure Field where
  /-- What stands before the first exclamation mark or colon. -/
  name : List Char
  /-- The letter behind an exclamation mark. -/
  conversion : Option Char := none
  /-- What stands behind the colon. -/
  spec : List Char := []

/-- The name of a field, the character that ends it, and the text behind that.  Inside brackets
every character but the closing bracket belongs to the name. -/
def fieldName (inBrackets : Bool) :
    List Char → Except Failure (List Char × Char × List Char)
  | [] => .error .unclosedField
  | c :: rest =>
    if inBrackets then
      if c = ']' then (fieldName false rest).map fun (n, e, r) => (c :: n, e, r)
      else (fieldName true rest).map fun (n, e, r) => (c :: n, e, r)
    else if c = '\x7b' then .error .openingInField
    else if c = '\x7d' ∨ c = ':' ∨ c = '!' then .ok ([], c, rest)
    else (fieldName (c == '[') rest).map fun (n, e, r) => (c :: n, e, r)

/-- What stands behind a colon, up to the brace that closes the field; `depth` braces are open in
it. -/
def specText (depth : Nat) : List Char → Except Failure (List Char × List Char)
  | [] => .error .unclosedSpec
  | c :: rest =>
    if c = '\x7b' then (specText (depth + 1) rest).map fun (s, r) => (c :: s, r)
    else if c = '\x7d' then
      if depth = 0 then .ok ([], rest)
      else (specText (depth - 1) rest).map fun (s, r) => (c :: s, r)
    else (specText depth rest).map fun (s, r) => (c :: s, r)

/-- Read a field behind its opening brace. -/
def fieldOf (cs : List Char) : Except Failure (Field × List Char) := do
  let (name, stop, rest) ← fieldName false cs
  if stop = '\x7d' then return ({ name }, rest)
  else if stop = ':' then
    let (spec, rest) ← specText 0 rest
    return ({ name, spec }, rest)
  else
    match rest with
    | [] => throw .missingConversion
    | [_] => throw .unclosedSpec
    | c :: next :: rest =>
      if next = '\x7d' then return ({ name, conversion := some c }, rest)
      else if next = ':' then
        let (spec, rest) ← specText 0 rest
        return ({ name, conversion := some c, spec }, rest)
      else throw .afterConversion

/-- Follow the points and brackets of a field from a subject to a part of it.  `fuel` bounds the
steps; the length of the field is enough. -/
def partOf : (fuel : Nat) → (path : List Char) → Subject → Except Failure Subject
  | _, [], s => .ok s
  | 0, _, s => .ok s
  | fuel + 1, c :: path, s =>
    if c = '.' then
      let name := path.takeWhile fun c => c != '.' && c != '['
      if name.isEmpty then .error .emptyPart
      else do partOf fuel (path.drop name.length) (← s.part (String.ofList name))
    else if c = '[' then
      if ']' ∈ path then do
        let index := path.takeWhile (· != ']')
        let n ← number? index
        if index.isEmpty then throw .emptyPart
        let index' := n.elim (Index.word (String.ofList index)) Index.number
        partOf fuel (path.drop (index.length + 1)) (← s.item index')
      else .error .missingBracket
    else .error .afterBracket

/-- What a field names. -/
def named (field value : List Char) : Except Failure Subject := do
  let first := field.takeWhile fun c => c != '.' && c != '['
  match ← number? first with
  | some index => throw (.noPosition index)
  | none =>
    if first.isEmpty then throw (.noPosition 0)
    else if first = "name".toList then
      partOf field.length (field.drop first.length) (.text value)
    else throw (.noName (String.ofList first))

/-! ## Filling -/

/-- Fill the rest of a template.  `fuel` bounds the steps, and `expand` fills what stands behind a
colon. -/
def fillFrom (expand : List Char → Except Failure (List Char)) (value : List Char) :
    (fuel : Nat) → List Char → Except Failure (List Char)
  | _, [] => .ok []
  | 0, _ => .ok []
  | fuel + 1, c :: rest =>
    if c = '\x7b' ∨ c = '\x7d' then
      match rest with
      | [] => .error (if c = '\x7b' then .singleOpening else .singleClosing)
      | next :: more =>
        if next = c then (fillFrom expand value fuel more).map (c :: ·)
        else if c = '\x7d' then .error .singleClosing
        else do
          let (field, rest) ← fieldOf rest
          let subject ← named field.name value
          let subject ← subject.converted field.conversion
          let spec ← if '\x7b' ∈ field.spec then expand field.spec else pure field.spec
          let shown ← subject.layOut spec
          let filled ← fillFrom expand value fuel rest
          return shown ++ filled
    else (fillFrom expand value fuel rest).map (c :: ·)

/-- Fill a template in which fields may be nested to a depth. -/
def fillNested (value : List Char) : (depth : Nat) → List Char → Except Failure (List Char)
  | 0, _ => .error .tooDeep
  | depth + 1, cs => fillFrom (fillNested value depth) value cs.length cs

/-- Fill a template with a name. -/
def fill (template name : String) : Except Failure String :=
  (fillNested name.toList 2 template.toList).map String.ofList

end TargetAssembly.Template
