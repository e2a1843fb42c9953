/-!
# Kinds

A kind is what a value is, with the members that all values of the kind share.  A member is an
operation, a value that is computed or stored, or a fixed value.  Most members say in words what
they are for, and which arguments they take.  A field can ask for these words, so they stand here
letter for letter as they are put in its place.
-/

namespace TargetAssembly.Template

/-- What sort a member is of. -/
inductive MemberSort where
  /-- An operation that a sign or a keyword stands for. -/
  | basic
  /-- An operation with a name of its own. -/
  | named
  /-- An operation of a kind itself. -/
  | ofType
  /-- An operation that belongs to the kind with the member alone. -/
  | shared
  /-- A value that is computed. -/
  | computed
  /-- A value that is stored. -/
  | stored
  /-- A value that is the same for all. -/
  | fixed
deriving DecidableEq, Repr

/-- A member of a kind. -/
structure Member where
  /-- The name. -/
  name : String
  /-- The sort. -/
  sort : MemberSort
  /-- The arguments that an operation takes. -/
  signature : Option String := none
  /-- What the member is for; of a fixed value, the value itself. -/
  words : Option String := none
deriving DecidableEq, Repr

namespace Member

/-- Lines as one text. -/
def joined (lines : List String) : Option String :=
  if lines.isEmpty then none else some ("\n".intercalate lines)

/-- The arguments and the words of the operations that a sign or a keyword stands for.  These do not
depend on the kind. -/
def basicWords : List (String × String × String) := [
  ("__abs__", "($self, /)", "abs(self)"),
  ("__add__", "($self, value, /)", "Return self+value."),
  ("__and__", "($self, value, /)", "Return self&value."),
  ("__bool__", "($self, /)", "True if self else False"),
  ("__call__", "($self, /, *args, **kwargs)", "Call self as a function."),
  ("__contains__", "($self, key, /)", "Return key in self."),
  ("__delattr__", "($self, name, /)", "Implement delattr(self, name)."),
  ("__delete__", "($self, instance, /)", "Delete an attribute of instance."),
  ("__delitem__", "($self, key, /)", "Delete self[key]."),
  ("__divmod__", "($self, value, /)", "Return divmod(self, value)."),
  ("__eq__", "($self, value, /)", "Return self==value."),
  ("__float__", "($self, /)", "float(self)"),
  ("__floordiv__", "($self, value, /)", "Return self//value."),
  ("__ge__", "($self, value, /)", "Return self>=value."),
  ("__get__", "($self, instance, owner=None, /)",
    "Return an attribute of instance, which is of type owner."),
  ("__getattribute__", "($self, name, /)", "Return getattr(self, name)."),
  ("__getitem__", "($self, key, /)", "Return self[key]."),
  ("__gt__", "($self, value, /)", "Return self>value."),
  ("__hash__", "($self, /)", "Return hash(self)."),
  ("__index__", "($self, /)",
    "Return self converted to an integer, if self is suitable for use as an index into a list."),
  ("__init__", "($self, /, *args, **kwargs)",
    "Initialize self.  See help(type(self)) for accurate signature."),
  ("__int__", "($self, /)", "int(self)"),
  ("__invert__", "($self, /)", "~self"),
  ("__ior__", "($self, value, /)", "Return self|=value."),
  ("__iter__", "($self, /)", "Implement iter(self)."),
  ("__le__", "($self, value, /)", "Return self<=value."),
  ("__len__", "($self, /)", "Return len(self)."),
  ("__lshift__", "($self, value, /)", "Return self<<value."),
  ("__lt__", "($self, value, /)", "Return self<value."),
  ("__mod__", "($self, value, /)", "Return self%value."),
  ("__mul__", "($self, value, /)", "Return self*value."),
  ("__ne__", "($self, value, /)", "Return self!=value."),
  ("__neg__", "($self, /)", "-self"),
  ("__or__", "($self, value, /)", "Return self|value."),
  ("__pos__", "($self, /)", "+self"),
  ("__pow__", "($self, value, mod=None, /)", "Return pow(self, value, mod)."),
  ("__radd__", "($self, value, /)", "Return value+self."),
  ("__rand__", "($self, value, /)", "Return value&self."),
  ("__rdivmod__", "($self, value, /)", "Return divmod(value, self)."),
  ("__repr__", "($self, /)", "Return repr(self)."),
  ("__rfloordiv__", "($self, value, /)", "Return value//self."),
  ("__rlshift__", "($self, value, /)", "Return value<<self."),
  ("__rmod__", "($self, value, /)", "Return value%self."),
  ("__rmul__", "($self, value, /)", "Return value*self."),
  ("__ror__", "($self, value, /)", "Return value|self."),
  ("__rpow__", "($self, value, mod=None, /)", "Return pow(value, self, mod)."),
  ("__rrshift__", "($self, value, /)", "Return value>>self."),
  ("__rshift__", "($self, value, /)", "Return self>>value."),
  ("__rsub__", "($self, value, /)", "Return value-self."),
  ("__rtruediv__", "($self, value, /)", "Return value/self."),
  ("__rxor__", "($self, value, /)", "Return value^self."),
  ("__set__", "($self, instance, value, /)", "Set an attribute of instance to value."),
  ("__setattr__", "($self, name, value, /)", "Implement setattr(self, name, value)."),
  ("__setitem__", "($self, key, value, /)", "Set self[key] to value."),
  ("__str__", "($self, /)", "Return str(self)."),
  ("__sub__", "($self, value, /)", "Return self-value."),
  ("__truediv__", "($self, value, /)", "Return self/value."),
  ("__xor__", "($self, value, /)", "Return self^value.")]

/-- An operation that a sign or a keyword stands for. -/
def basic (name : String) : Member :=
  let words := basicWords.lookup name
  { name, sort := .basic, signature := words.map (·.1), words := words.map (·.2) }

/-- An operation with a name of its own. -/
def named (name : String) (signature : Option String := none) (lines : List String := []) :
    Member :=
  { name, sort := .named, signature, words := joined lines }

/-- An operation of a kind itself. -/
def ofType (name : String) (signature : Option String := none) (lines : List String := []) :
    Member :=
  { name, sort := .ofType, signature, words := joined lines }

/-- An operation that belongs to one kind alone. -/
def shared (name : String) (signature : Option String := none) (lines : List String := []) :
    Member :=
  { name, sort := .shared, signature, words := joined lines }

/-- The operation that makes a value of a kind. -/
def maker : Member :=
  shared "__new__" (some "($type, *args, **kwargs)")
    ["Create and return a new object.  See help(type) for accurate signature."]

/-- A value that is computed. -/
def computed (name : String) (signature : Option String := none) (lines : List String := []) :
    Member :=
  { name, sort := .computed, signature, words := joined lines }

/-- A value that is stored. -/
def stored (name : String) (signature : Option String := none) (lines : List String := []) :
    Member :=
  { name, sort := .stored, signature, words := joined lines }

/-- A value that is the same for all: a text or nothing. -/
def fixed (name : String) (lines : Option (List String)) : Member :=
  { name, sort := .fixed, words := lines.bind joined }

end Member

/-- The numbers that describe how values of a kind are laid out. -/
structure Sizes where
  /-- The size of a value. -/
  basic : Nat
  /-- The size of each item of a value. -/
  item : Nat
  /-- Marks, as one number. -/
  marks : Nat
  /-- Where the members of a value stand. -/
  members : Nat
  /-- Where weak references to a value stand. -/
  references : Nat
deriving DecidableEq, Repr

/-- A kind. -/
structure Kind where
  /-- The name. -/
  name : String
  /-- Where the kind is at home. -/
  home : String := "builtins"
  /-- The names of the kinds above it, the nearest first. -/
  above : List String := []
  /-- How its values are laid out. -/
  sizes : Sizes
  /-- The arguments that making a value takes. -/
  signature : Option String := none
  /-- What the kind is for, if it says so itself and not by a member. -/
  words : Option (List String) := none
  /-- Whether the kind can be given an index. -/
  takesIndex : Bool := false
  /-- The members. -/
  members : List Member

end TargetAssembly.Template
