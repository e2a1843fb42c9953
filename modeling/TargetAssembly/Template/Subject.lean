import TargetAssembly.Template.Kind.Catalogue
import TargetAssembly.Template.Number

/-!
# What a field of a template can name

A field names a text, and can go on from there.  A point leads to a part: to the kind of what is
there, to one of its operations, or to a part of these.  An index in brackets leads to a
character of a text, to an item of a row or to an entry of a table.  `Subject.part` and
`Subject.item` take one such step; `Subject.layOut` is what is put in place of the field.

Operations are only named, never performed.  So all that a field can come to is the text, its
characters, and what the catalogue of kinds says.
-/

namespace TargetAssembly.Template

/-- What stands in brackets. -/
inductive Index where
  /-- A number. -/
  | number (n : Nat)
  /-- A word that is no number. -/
  | word (w : String)
deriving DecidableEq, Repr

/-- What a field can come to.  A kind is meant by its name. -/
inductive Subject where
  /-- A text. -/
  | text (cs : List Char)
  /-- A number. -/
  | number (n : Nat)
  /-- The truth value of what is not so. -/
  | no
  /-- Nothing. -/
  | nothing
  /-- A kind. -/
  | kind (name : String)
  /-- A row of kinds. -/
  | kinds (names : List String)
  /-- A kind with an index. -/
  | indexed (origin : String) (index : Index)
  /-- The row of the index of a kind, or an empty one. -/
  | indices (index : Option Index)
  /-- A member of a kind, by the kind that it comes from and its name. -/
  | member (owner name : String)
  /-- An operation of what it was asked of, by the member that makes it. -/
  | operation (receiver : Subject) (owner name : String)
  /-- The members of a kind in a table. -/
  | members (kind : String)
  /-- An operation that a kind keeps to itself. -/
  | kept (owner name : String)
  /-- A table without entries. -/
  | emptyTable
deriving DecidableEq, Repr

namespace Subject

/-- A text as a subject. -/
def ofText (s : String) : Subject := text s.toList

/-- A text that may be missing as a subject. -/
def ofText? (s : Option String) : Subject := s.elim nothing ofText

/-! ## Kinds -/

/-- The member of a kind that comes from a kind and has a name. -/
def memberOf (owner name : String) : Member :=
  ((Kind.ofName owner).own? name).getD { name, sort := .fixed }

/-- The kind of the members of a sort. -/
def kindOfSort : MemberSort → Kind
  | .basic => Kind.basicMember
  | .named => Kind.namedMember
  | .ofType => Kind.memberOfKind
  | .computed => Kind.computedMember
  | .stored => Kind.storedMember
  | .shared | .fixed => Kind.keptOperation

/-- The kind of a subject. -/
def kindOf : Subject → Kind
  | text _ => Kind.text
  | number _ => Kind.number
  | no => Kind.truth
  | nothing => Kind.nothing
  | kind _ => Kind.kind
  | kinds _ | indices _ => Kind.row
  | indexed .. => Kind.indexed
  | member owner name => kindOfSort (memberOf owner name).sort
  | operation _ owner name =>
    if (memberOf owner name).sort = .basic then Kind.basicOperation else Kind.namedOperation
  | members _ => Kind.view
  | kept .. => Kind.keptOperation
  | emptyTable => Kind.table

/-- The name of the kind that an operation is of: the receiver, if it is a kind, or else its
kind. -/
def kindName : Subject → String
  | kind name => name
  | s => s.kindOf.name

/-! ## Members -/

/-- A member of a kind for itself. -/
def ofMember (owner : String) (m : Member) : Subject :=
  match m.sort with
  | .fixed => ofText? m.words
  | .shared =>
    if m.name = Member.maker.name then operation (kind owner) owner m.name else kept owner m.name
  | _ => member owner m.name

/-- A member of a kind that was asked of the kind itself. -/
def ofKindMember (asked owner : String) (m : Member) : Subject :=
  match m.sort with
  | .fixed => ofText? m.words
  | .shared => operation (kind owner) owner m.name
  | .ofType => operation (kind asked) owner m.name
  | _ => member owner m.name

/-- The part of a kind that is computed or stored under a name. -/
def valueOfKind (k : Kind) (name : String) : Except Failure Subject :=
  match name with
  | "__class__" => .ok (kind Kind.kind.name)
  | "__name__" | "__qualname__" => .ok (ofText k.name)
  | "__module__" => .ok (ofText k.home)
  | "__base__" => .ok (k.above.head?.elim nothing kind)
  | "__bases__" => .ok (kinds (k.above.take 1))
  | "__mro__" => .ok (kinds k.line)
  | "__basicsize__" => .ok (number k.sizes.basic)
  | "__itemsize__" => .ok (number k.sizes.item)
  | "__flags__" => .ok (number k.sizes.marks)
  | "__dictoffset__" => .ok (number k.sizes.members)
  | "__weakrefoffset__" => .ok (number k.sizes.references)
  | "__dict__" => .ok (members k.name)
  | "__text_signature__" => .ok (ofText? k.signature)
  | "__doc__" => match k.words with
    | some lines => .ok (ofText? (Member.joined lines))
    | none => .ok ((k.own? name).elim nothing (ofKindMember k.name k.name))
  | "__abstractmethods__" => .error (.missingPart name)
  | _ => .error (.noPartOfKind k.fullName name)

/-- The part of a kind that a name stands for: what is computed or stored for every kind, a
member of the kind, or an operation of all kinds. -/
def partOfKind (k : Kind) (name : String) : Except Failure Subject :=
  let common := Kind.kind.member? name
  let isValue := common.any fun m => m.2.sort = .computed || m.2.sort = .stored
  if isValue then valueOfKind k name
  else match k.member? name, common with
    | some (owner, m), _ => .ok (ofKindMember k.name owner m)
    | none, some (owner, m) =>
      .ok (operation (kind (if m.sort = .ofType then Kind.kind.name else k.name)) owner name)
    | none, none => .error (.noPartOfKind k.fullName name)

/-- The part of an operation that is computed or stored under a name. -/
def valueOfOperation (receiver : Subject) (owner : String) (m : Member) (name : String) : Subject :=
  match name with
  | "__name__" => ofText m.name
  | "__qualname__" =>
    ofText ((if m.sort = .basic then owner else receiver.kindName) ++ "." ++ m.name)
  | "__self__" => if m.sort = .shared ∧ m.name ≠ Member.maker.name then nothing else receiver
  | "__objclass__" => kind owner
  | "__doc__" => ofText? m.words
  | "__text_signature__" => ofText? m.signature
  | _ => nothing

/-- The part of a member that is computed or stored under a name. -/
def valueOfMember (owner : String) (m : Member) (name : String) : Subject :=
  match name with
  | "__name__" => ofText m.name
  | "__qualname__" => ofText (owner ++ "." ++ m.name)
  | "__objclass__" => kind owner
  | "__doc__" => ofText? m.words
  | "__text_signature__" => ofText? m.signature
  | _ => nothing

/-- The part of a subject that is computed or stored under a name. -/
def value (s : Subject) (name : String) : Subject :=
  if name = "__class__" then kind s.kindOf.name
  else match s with
    | number n => match name with
      | "imag" => number 0
      | "denominator" => number 1
      | _ => number n
    | no => number (if name = "denominator" then 1 else 0)
    | member owner m => valueOfMember owner (memberOf owner m) name
    | operation receiver owner m => valueOfOperation receiver owner (memberOf owner m) name
    | indexed origin index => match name with
      | "__origin__" => kind origin
      | "__args__" => indices (some index)
      | "__parameters__" => indices none
      | "__unpacked__" => no
      | _ => nothing
    | kept owner m => match name with
      | "__isabstractmethod__" => no
      | "__dict__" => emptyTable
      | _ => operation (kind owner) owner m
    | _ => nothing

/-- The part of a value that a name stands for. -/
def partOfValue (s : Subject) (name : String) : Except Failure Subject :=
  match s.kindOf.member? name with
  | none => .error (.noPart s.kindOf.fullName name)
  | some (owner, m) => .ok <| match m.sort with
    | .computed | .stored => s.value name
    | .fixed => ofText? m.words
    | .basic | .named => operation s owner name
    | .ofType => operation (kind s.kindOf.name) owner name
    | .shared => operation (kind owner) owner name

/-- The parts that a kind with an index has of its own; all others are those of the kind. -/
def indexedParts : List String := [
  "__class__", "__origin__", "__args__", "__unpacked__", "__parameters__",
  "__typing_unpacked_tuple_args__", "__mro_entries__", "__reduce_ex__", "__reduce__", "__copy__",
  "__deepcopy__"]

/-- The part of a subject that a name stands for. -/
def part (name : String) (s : Subject) : Except Failure Subject :=
  match s with
  | kind k => partOfKind (Kind.ofName k) name
  | indexed origin _ =>
    if indexedParts.contains name then s.partOfValue name
    else partOfKind (Kind.ofName origin) name
  | _ => s.partOfValue name

/-! ## In words -/

/-- A text in quotes, perhaps in ASCII only. -/
def quotedWord (ascii : Bool) (w : String) : String :=
  if ascii then Text.quotedAscii w else Text.quoted w

/-- An index in words. -/
def writtenIndex (ascii : Bool) : Index → String
  | .number n => toString n
  | .word w => quotedWord ascii w

/-- A kind in words. -/
def writtenKind (name : String) : String := "<class '" ++ (Kind.ofName name).fullName ++ "'>"

/-- What the members of a sort are called. -/
def sortName : MemberSort → String
  | .basic => "slot wrapper"
  | .computed => "attribute"
  | .stored => "member"
  | _ => "method"

/-- Items of a row in words. -/
def writtenRow : List String → String
  | [item] => "(" ++ item ++ ",)"
  | items => "(" ++ ", ".intercalate items ++ ")"

/-- How an operation says where it stands.  The number that follows has no meaning. -/
def place : String := " at 0x7f0000000000"

/-- An operation that belongs to one kind alone in words, as it stands among the members of the
kind. -/
def writtenShared (name : String) : String :=
  let plain := "<built-in method " ++ name ++ " of type object" ++ place ++ ">"
  if name = Member.maker.name then plain else "<staticmethod(" ++ plain ++ ")>"

/-- A member that was asked of a kind in words. -/
def writtenMember (ascii : Bool) (owner : String) (m : Member) : String :=
  match m.sort with
  | .fixed => m.words.elim "None" (quotedWord ascii)
  | .shared => writtenShared m.name
  | sort => "<" ++ sortName sort ++ " '" ++ m.name ++ "' of '" ++ (Kind.ofName owner).fullName ++
      "' objects>"

/-- The members of a kind in words. -/
def writtenMembers (ascii : Bool) (name : String) : String :=
  let entries := (Kind.ofName name).members.map fun m =>
    quotedWord ascii m.name ++ ": " ++ writtenMember ascii name m
  "\x7b" ++ ", ".intercalate entries ++ "\x7d"

/-- A subject in words, as it stands inside others. -/
def written (ascii : Bool) : Subject → String
  | text cs => quotedWord ascii (String.ofList cs)
  | number n => toString n
  | no => "False"
  | nothing => "None"
  | kind name => writtenKind name
  | kinds names => writtenRow (names.map writtenKind)
  | indexed origin index => origin ++ "[" ++ writtenIndex ascii index ++ "]"
  | indices index => writtenRow (index.toList.map (writtenIndex ascii))
  | member owner name => writtenMember ascii owner (memberOf owner name)
  | operation receiver owner name =>
    let sort := if (memberOf owner name).sort = .basic then "method-wrapper '" ++ name ++ "'"
      else "built-in method " ++ name
    "<" ++ sort ++ " of " ++ receiver.kindOf.fullName ++ " object" ++ place ++ ">"
  | members name => "mappingproxy(" ++ writtenMembers ascii name ++ ")"
  | kept _ name => writtenShared name
  | emptyTable => "\x7b\x7d"

/-- A subject as plain text. -/
def shown : Subject → List Char
  | text cs => cs
  | members name => (writtenMembers false name).toList
  | s => (s.written false).toList

/-! ## Items -/

/-- The item of a row at an index. -/
def itemOf (items : List Subject) : Index → Except Failure Subject
  | .number n => match items[n]? with
    | some s => .ok s
    | none => .error .noItem
  | .word _ => .error .itemNotNumbered

/-- The item of a subject at an index. -/
def item (index : Index) (s : Subject) : Except Failure Subject :=
  match s with
  | text cs => match index with
    | .number n => match cs[n]? with
      | some c => .ok (text [c])
      | none => .error .noCharacter
    | .word _ => .error .characterNotNumbered
  | kinds names => itemOf (names.map kind) index
  | indices i =>
    let items := i.toList.map fun
      | .number n => number n
      | .word w => ofText w
    itemOf items index
  | kind name =>
    let k := Kind.ofName name
    if k.takesIndex then .ok (indexed name index) else .error (.kindNotIndexed k.fullName)
  | indexed .. => .error (.indexedAgain (s.written false))
  | members name => match index with
    | .word w => match (Kind.ofName name).own? w with
      | some m => .ok (ofMember name m)
      | none => .error (.noEntry (writtenIndex false index))
    | .number _ => .error (.noEntry (writtenIndex false index))
  | emptyTable => .error (.noEntry (writtenIndex false index))
  | _ => .error (.notIndexed s.kindOf.fullName)

/-! ## Layout -/

/-- A subject as the letter behind an exclamation mark asks for it.  A null character asks for
nothing. -/
def converted (conversion : Option Char) (s : Subject) : Except Failure Subject :=
  match conversion with
  | none => .ok s
  | some '\x00' => .ok s
  | some 's' => .ok (text s.shown)
  | some 'r' => .ok (ofText (s.written false))
  | some 'a' => .ok (ofText (s.written true))
  | some c => .error (.unknownConversion c)

/-- A subject laid out as what stands behind a colon asks for; only texts and numbers can be. -/
def layOut (spec : List Char) (s : Subject) : Except Failure (List Char) :=
  if spec.isEmpty then .ok s.shown
  else match s with
    | text cs => Template.layOut spec cs
    | number n => layOutNumber s.kindOf.name spec n
    | no => layOutNumber s.kindOf.name spec 0
    | _ => .error (.noLayout s.kindOf.fullName)

end Subject

end TargetAssembly.Template
