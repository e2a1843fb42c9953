import TargetAssembly.Template.Kind.Basic
import TargetAssembly.Template.Kind.Text

/-!
# All kinds

The kinds of everything that a field of a template can come to.  A kind shares the members of the
kinds above it; where several have a member of one name, that of the nearest kind is meant.
-/

namespace TargetAssembly.Template.Kind

/-!
## Numbers

Whole numbers, and the truth values among them.
-/

/-- The kind of whole numbers. -/
def number : Kind where
  name := "int"
  above := ["object"]
  sizes := ⟨24, 4, 21501184, 0, 0⟩
  members := [
    .maker, .basic "__repr__", .basic "__hash__", .basic "__getattribute__", .basic "__lt__",
    .basic "__le__", .basic "__eq__", .basic "__ne__", .basic "__gt__", .basic "__ge__",
    .basic "__add__", .basic "__radd__", .basic "__sub__", .basic "__rsub__", .basic "__mul__",
    .basic "__rmul__", .basic "__mod__", .basic "__rmod__", .basic "__divmod__",
    .basic "__rdivmod__", .basic "__pow__", .basic "__rpow__", .basic "__neg__", .basic "__pos__",
    .basic "__abs__", .basic "__bool__", .basic "__invert__", .basic "__lshift__",
    .basic "__rlshift__", .basic "__rshift__", .basic "__rrshift__", .basic "__and__",
    .basic "__rand__", .basic "__xor__", .basic "__rxor__", .basic "__or__", .basic "__ror__",
    .basic "__int__", .basic "__float__", .basic "__floordiv__", .basic "__rfloordiv__",
    .basic "__truediv__", .basic "__rtruediv__", .basic "__index__",
    .named "conjugate" none ["Returns self, the complex conjugate of any int."],
    .named "bit_length" (some "($self, /)") [
      "Number of bits necessary to represent self in binary.", "", ">>> bin(37)", "'0b100101'",
      ">>> (37).bit_length()", "6"],
    .named "bit_count" (some "($self, /)") [
      "Number of ones in the binary representation of the absolute value of self.", "",
      "Also known as the population count.", "", ">>> bin(13)", "'0b1101'",
      ">>> (13).bit_count()", "3"],
    .named "to_bytes" (some "($self, /, length=1, byteorder='big', *, signed=False)") [
      "Return an array of bytes representing an integer.", "", "  length",
      "    Length of bytes object to use.  An OverflowError is raised if the",
      "    integer is not representable with the given number of bytes.  Default",
      "    is length 1.", "  byteorder",
      "    The byte order used to represent the integer.  If byteorder is 'big',",
      "    the most significant byte is at the beginning of the byte array.  If",
      "    byteorder is 'little', the most significant byte is at the end of the",
      "    byte array.  To request the native byte order of the host system, use",
      "    `sys.byteorder' as the byte order value.  Default is to use 'big'.", "  signed",
      "    Determines whether two's complement is used to represent the integer.",
      "    If signed is False and a negative integer is given, an OverflowError",
      "    is raised."],
    .ofType "from_bytes" (some "($type, /, bytes, byteorder='big', *, signed=False)") [
      "Return the integer represented by the given array of bytes.", "", "  bytes",
      "    Holds the array of bytes to convert.  The argument must either",
      "    support the buffer protocol or be an iterable object producing bytes.",
      "    Bytes and bytearray are examples of built-in objects that support the",
      "    buffer protocol.", "  byteorder",
      "    The byte order used to represent the integer.  If byteorder is 'big',",
      "    the most significant byte is at the beginning of the byte array.  If",
      "    byteorder is 'little', the most significant byte is at the end of the",
      "    byte array.  To request the native byte order of the host system, use",
      "    `sys.byteorder' as the byte order value.  Default is to use 'big'.", "  signed",
      "    Indicates whether two's complement is used to represent the integer."],
    .named "as_integer_ratio" (some "($self, /)") [
      "Return integer ratio.", "",
      "Return a pair of integers, whose ratio is exactly equal to the original int",
      "and with a positive denominator.", "", ">>> (10).as_integer_ratio()", "(10, 1)",
      ">>> (-10).as_integer_ratio()", "(-10, 1)", ">>> (0).as_integer_ratio()", "(0, 1)"],
    .named "__trunc__" none ["Truncating an Integral returns itself."],
    .named "__floor__" none ["Flooring an Integral returns itself."],
    .named "__ceil__" none ["Ceiling of an Integral returns itself."],
    .named "__round__" (some "($self, ndigits=<unrepresentable>, /)") [
      "Rounding an Integral returns itself.", "",
      "Rounding with an ndigits argument also returns an integer."],
    .named "__getnewargs__" (some "($self, /)"),
    .named "__format__" (some "($self, format_spec, /)"),
    .named "__sizeof__" (some "($self, /)") ["Returns size in memory, in bytes."],
    .computed "real" none ["the real part of a complex number"],
    .computed "imag" none ["the imaginary part of a complex number"],
    .computed "numerator" none ["the numerator of a rational number in lowest terms"],
    .computed "denominator" none ["the denominator of a rational number in lowest terms"],
    .fixed "__doc__" (some [
      "int([x]) -> integer", "int(x, base=10) -> integer", "",
      "Convert a number or string to an integer, or return 0 if no arguments",
      "are given.  If x is a number, return x.__int__().  For floating point",
      "numbers, this truncates towards zero.", "",
      "If x is not a number or if base is given, then x must be a string,",
      "bytes, or bytearray instance representing an integer literal in the",
      "given base.  The literal can be preceded by '+' or '-' and be surrounded",
      "by whitespace.  The base defaults to 10.  Valid bases are 0 and 2-36.",
      "Base 0 means to interpret the base from the string as an integer literal.",
      ">>> int('0b100', base=0)", "4"])]

/-- The kind of truth values. -/
def truth : Kind where
  name := "bool"
  above := ["int", "object"]
  sizes := ⟨32, 4, 21500160, 0, 0⟩
  members := [
    .maker, .basic "__repr__", .basic "__and__", .basic "__rand__", .basic "__xor__",
    .basic "__rxor__", .basic "__or__", .basic "__ror__",
    .fixed "__doc__" (some [
      "bool(x) -> bool", "", "Returns True when the argument x is true, False otherwise.",
      "The builtins True and False are the only two instances of the class bool.",
      "The class bool is a subclass of the class int, and cannot be subclassed."])]

/-!
## Collections

Rows, tables and views of tables, and kinds that were given an index.  Beside them stands the kind
of nothing.
-/

/-- The kind of rows. -/
def row : Kind where
  name := "tuple"
  above := ["object"]
  sizes := ⟨24, 8, 71849248, 0, 0⟩
  signature := some "(iterable=(), /)"
  takesIndex := true
  members := [
    .maker, .basic "__repr__", .basic "__hash__", .basic "__getattribute__", .basic "__lt__",
    .basic "__le__", .basic "__eq__", .basic "__ne__", .basic "__gt__", .basic "__ge__",
    .basic "__iter__", .basic "__len__", .basic "__getitem__", .basic "__add__", .basic "__mul__",
    .basic "__rmul__", .basic "__contains__", .named "__getnewargs__" (some "($self, /)"),
    .named "index" (some "($self, value, start=0, stop=sys.maxsize, /)") [
      "Return first index of value.", "", "Raises ValueError if the value is not present."],
    .named "count" (some "($self, value, /)") ["Return number of occurrences of value."],
    .ofType "__class_getitem__" none ["See PEP 585"],
    .fixed "__doc__" (some [
      "Built-in immutable sequence.", "",
      "If no argument is given, the constructor returns an empty tuple.",
      "If iterable is specified the tuple is initialized from iterable's items.", "",
      "If the argument is a tuple, the return value is the same object."])]

/-- The kind of tables. -/
def table : Kind where
  name := "dict"
  above := ["object"]
  sizes := ⟨48, 0, 541611328, 0, 0⟩
  takesIndex := true
  members := [
    .maker, .basic "__repr__", .fixed "__hash__" none, .basic "__getattribute__", .basic "__lt__",
    .basic "__le__", .basic "__eq__", .basic "__ne__", .basic "__gt__", .basic "__ge__",
    .basic "__iter__", .basic "__init__", .basic "__or__", .basic "__ror__", .basic "__ior__",
    .basic "__len__",
    .named "__getitem__" none ["x.__getitem__(y) <==> x[y]"],
    .basic "__setitem__", .basic "__delitem__",
    .named "__contains__" (some "($self, key, /)") [
      "True if the dictionary has the specified key, else False."],
    .named "__sizeof__" none ["D.__sizeof__() -> size of D in memory, in bytes"],
    .named "get" (some "($self, key, default=None, /)") [
      "Return the value for key if key is in the dictionary, else default."],
    .named "setdefault" (some "($self, key, default=None, /)") [
      "Insert key with a value of default if key is not in the dictionary.", "",
      "Return the value for key if key is in the dictionary, else default."],
    .named "pop" (some "($self, key, default=<unrepresentable>, /)") [
      "D.pop(k[,d]) -> v, remove specified key and return the corresponding value.", "",
      "If the key is not found, return the default if given; otherwise,", "raise a KeyError."],
    .named "popitem" (some "($self, /)") [
      "Remove and return a (key, value) pair as a 2-tuple.", "",
      "Pairs are returned in LIFO (last-in, first-out) order.",
      "Raises KeyError if the dict is empty."],
    .named "keys" none ["D.keys() -> a set-like object providing a view on D's keys"],
    .named "items" none ["D.items() -> a set-like object providing a view on D's items"],
    .named "values" none ["D.values() -> an object providing a view on D's values"],
    .named "update" none [
      "D.update([E, ]**F) -> None.  Update D from dict/iterable E and F.",
      "If E is present and has a .keys() method, then does:  for k in E: D[k] = E[k]",
      "If E is present and lacks a .keys() method, then does:  for k, v in E: D[k] = v",
      "In either case, this is followed by: for k in F:  D[k] = F[k]"],
    .ofType "fromkeys" (some "($type, iterable, value=None, /)") [
      "Create a new dictionary with keys from iterable and values set to value."],
    .named "clear" none ["D.clear() -> None.  Remove all items from D."],
    .named "copy" none ["D.copy() -> a shallow copy of D"],
    .named "__reversed__" (some "($self, /)") ["Return a reverse iterator over the dict keys."],
    .ofType "__class_getitem__" none ["See PEP 585"],
    .fixed "__doc__" (some [
      "dict() -> new empty dictionary",
      "dict(mapping) -> new dictionary initialized from a mapping object's",
      "    (key, value) pairs", "dict(iterable) -> new dictionary initialized as if via:",
      "    d = \x7b\x7d", "    for k, v in iterable:", "        d[k] = v",
      "dict(**kwargs) -> new dictionary initialized with the name=value pairs",
      "    in the keyword argument list.  For example:  dict(one=1, two=2)"])]

/-- The kind of views of tables. -/
def view : Kind where
  name := "mappingproxy"
  above := ["object"]
  sizes := ⟨24, 0, 545088, 0, 0⟩
  takesIndex := true
  members := [
    .maker, .basic "__repr__", .basic "__str__", .basic "__getattribute__", .basic "__lt__",
    .basic "__le__", .basic "__eq__", .basic "__ne__", .basic "__gt__", .basic "__ge__",
    .basic "__iter__", .basic "__or__", .basic "__ror__", .basic "__ior__", .basic "__len__",
    .basic "__getitem__", .basic "__contains__",
    .named "get" none ["D.get(k[,d]) -> D[k] if k in D, else d.  d defaults to None."],
    .named "keys" none ["D.keys() -> a set-like object providing a view on D's keys"],
    .named "values" none ["D.values() -> an object providing a view on D's values"],
    .named "items" none ["D.items() -> a set-like object providing a view on D's items"],
    .named "copy" none ["D.copy() -> a shallow copy of D"],
    .ofType "__class_getitem__" none ["See PEP 585"],
    .named "__reversed__" none ["D.__reversed__() -> reverse iterator"],
    .fixed "__doc__" none, .fixed "__hash__" none]

/-- The kind of kinds that were given an index. -/
def indexed : Kind where
  name := "GenericAlias"
  home := "types"
  above := ["object"]
  sizes := ⟨64, 0, 548096, 0, 40⟩
  members := [
    .maker, .basic "__repr__", .basic "__hash__", .basic "__call__", .basic "__getattribute__",
    .basic "__lt__", .basic "__le__", .basic "__eq__", .basic "__ne__", .basic "__gt__",
    .basic "__ge__", .basic "__iter__", .basic "__or__", .basic "__ror__", .basic "__getitem__",
    .named "__mro_entries__", .named "__instancecheck__", .named "__subclasscheck__",
    .named "__reduce__", .named "__dir__", .stored "__origin__", .stored "__args__",
    .stored "__unpacked__",
    .computed "__parameters__" none ["Type variables in the GenericAlias."],
    .computed "__typing_unpacked_tuple_args__",
    .fixed "__doc__" (some [
      "Represent a PEP 585 generic type", "",
      "E.g. for t = list[int], t.__origin__ is list and t.__args__ is (int,)."])]

/-- The kind of nothing. -/
def nothing : Kind where
  name := "NoneType"
  above := ["object"]
  sizes := ⟨16, 0, 528640, 0, 0⟩
  members := [
    .maker, .basic "__repr__", .basic "__bool__", .fixed "__doc__" none]

/-!
## Operations

Operations that belong to what they were asked of, and members of kinds that belong to nothing yet.
-/

/-- The kind of operations with a name. -/
def namedOperation : Kind where
  name := "builtin_function_or_method"
  above := ["object"]
  sizes := ⟨56, 0, 547200, 0, 40⟩
  members := [
    .basic "__repr__", .basic "__hash__", .basic "__call__", .basic "__getattribute__",
    .basic "__lt__", .basic "__le__", .basic "__eq__", .basic "__ne__", .basic "__gt__",
    .basic "__ge__", .named "__reduce__", .stored "__module__", .computed "__doc__",
    .computed "__name__", .computed "__qualname__", .computed "__self__",
    .computed "__text_signature__"]

/-- The kind of operations that a sign or a keyword stands for. -/
def basicOperation : Kind where
  name := "method-wrapper"
  above := ["object"]
  sizes := ⟨32, 0, 545152, 0, 0⟩
  members := [
    .basic "__repr__", .basic "__hash__", .basic "__call__", .basic "__getattribute__",
    .basic "__lt__", .basic "__le__", .basic "__eq__", .basic "__ne__", .basic "__gt__",
    .basic "__ge__", .named "__reduce__", .stored "__self__", .computed "__objclass__",
    .computed "__name__", .computed "__qualname__", .computed "__doc__",
    .computed "__text_signature__"]

/-- The kind of members that make operations with a name. -/
def namedMember : Kind where
  name := "method_descriptor"
  above := ["object"]
  sizes := ⟨56, 0, 678272, 0, 0⟩
  members := [
    .basic "__repr__", .basic "__call__", .basic "__getattribute__", .basic "__get__",
    .named "__reduce__", .stored "__objclass__", .stored "__name__", .computed "__doc__",
    .computed "__qualname__", .computed "__text_signature__"]

/-- The kind of members that make operations of a sign or a keyword. -/
def basicMember : Kind where
  name := "wrapper_descriptor"
  above := ["object"]
  sizes := ⟨56, 0, 676224, 0, 0⟩
  members := [
    .basic "__repr__", .basic "__call__", .basic "__getattribute__", .basic "__get__",
    .named "__reduce__", .stored "__objclass__", .stored "__name__", .computed "__doc__",
    .computed "__qualname__", .computed "__text_signature__"]

/-- The kind of members that make operations of a kind itself. -/
def memberOfKind : Kind where
  name := "classmethod_descriptor"
  above := ["object"]
  sizes := ⟨56, 0, 545152, 0, 0⟩
  members := [
    .basic "__repr__", .basic "__call__", .basic "__getattribute__", .basic "__get__",
    .stored "__objclass__", .stored "__name__", .computed "__doc__", .computed "__qualname__",
    .computed "__text_signature__"]

/-- The kind of members that are computed. -/
def computedMember : Kind where
  name := "getset_descriptor"
  above := ["object"]
  sizes := ⟨48, 0, 545152, 0, 0⟩
  members := [
    .basic "__repr__", .basic "__getattribute__", .basic "__get__", .basic "__set__",
    .basic "__delete__", .stored "__objclass__", .stored "__name__", .computed "__doc__",
    .computed "__qualname__"]

/-- The kind of members that are stored. -/
def storedMember : Kind where
  name := "member_descriptor"
  above := ["object"]
  sizes := ⟨48, 0, 545152, 0, 0⟩
  members := [
    .basic "__repr__", .basic "__getattribute__", .basic "__get__", .basic "__set__",
    .basic "__delete__", .named "__reduce__", .stored "__objclass__", .stored "__name__",
    .computed "__doc__", .computed "__qualname__"]

/-- The kind of operations that a kind keeps to itself. -/
def keptOperation : Kind where
  name := "staticmethod"
  above := ["object"]
  sizes := ⟨32, 0, 546048, 24, 0⟩
  members := [
    .maker, .basic "__repr__", .basic "__call__", .basic "__get__", .basic "__init__",
    .stored "__func__", .stored "__wrapped__", .computed "__isabstractmethod__",
    .computed "__dict__",
    .fixed "__doc__" (some [
      "staticmethod(function) -> method", "", "Convert a function to be a static method.", "",
      "A static method does not receive an implicit first argument.",
      "To declare a static method, use this idiom:", "", "     class C:",
      "         @staticmethod", "         def f(arg1, arg2, argN):", "             ...", "",
      "It can be called either on the class (e.g. C.f()) or on an instance",
      "(e.g. C().f()). Both the class and the instance are ignored, and",
      "neither is passed implicitly as the first argument to the method.", "",
      "Static methods in Python are similar to those found in Java or C++.",
      "For a more advanced concept, see the classmethod builtin."])]

/-!
## All and kinds

The kind above all others, and the kind of kinds themselves.
-/

/-- The kind above all others. -/
def top : Kind where
  name := "object"
  sizes := ⟨16, 0, 529664, 0, 0⟩
  signature := some "()"
  members := [
    .maker, .basic "__repr__", .basic "__hash__", .basic "__str__", .basic "__getattribute__",
    .basic "__setattr__", .basic "__delattr__", .basic "__lt__", .basic "__le__", .basic "__eq__",
    .basic "__ne__", .basic "__gt__", .basic "__ge__", .basic "__init__",
    .named "__reduce_ex__" (some "($self, protocol, /)") ["Helper for pickle."],
    .named "__reduce__" (some "($self, /)") ["Helper for pickle."],
    .named "__getstate__" (some "($self, /)") ["Helper for pickle."],
    .ofType "__subclasshook__" none [
      "Abstract classes can override this to customize issubclass().", "",
      "This is invoked early on by abc.ABCMeta.__subclasscheck__().",
      "It should return True, False or NotImplemented.  If it returns",
      "NotImplemented, the normal algorithm is used.  Otherwise, it",
      "overrides the normal algorithm (and the outcome is cached).", ""],
    .ofType "__init_subclass__" none [
      "This method is called when a class is subclassed.", "",
      "The default implementation does nothing. It may be", "overridden to extend subclasses.",
      ""],
    .named "__format__" (some "($self, format_spec, /)") ["Default object formatter."],
    .named "__sizeof__" (some "($self, /)") ["Size of object in memory, in bytes."],
    .named "__dir__" (some "($self, /)") ["Default dir() implementation."],
    .computed "__class__" none ["the object's class"],
    .fixed "__doc__" (some [
      "The base class of the class hierarchy.", "",
      "When called, it accepts no arguments and returns a new featureless",
      "instance that has no instance attributes and cannot be given any.", ""])]

/-- The kind of kinds. -/
def kind : Kind where
  name := "type"
  above := ["object"]
  sizes := ⟨904, 40, 2148031744, 264, 368⟩
  words := some [
    "type(object) -> the object's type", "type(name, bases, dict, **kwds) -> a new type"]
  takesIndex := true
  members := [
    .maker, .basic "__repr__", .basic "__call__", .basic "__getattribute__", .basic "__setattr__",
    .basic "__delattr__", .basic "__init__", .basic "__or__", .basic "__ror__",
    .named "mro" (some "($self, /)") ["Return a type's method resolution order."],
    .named "__subclasses__" (some "($self, /)") ["Return a list of immediate subclasses."],
    .ofType "__prepare__" none [
      "__prepare__() -> dict", "used to create the namespace for the class statement"],
    .named "__instancecheck__" (some "($self, instance, /)") [
      "Check if an object is an instance."],
    .named "__subclasscheck__" (some "($self, subclass, /)") ["Check if a class is a subclass."],
    .named "__dir__" (some "($self, /)") ["Specialized __dir__ implementation for types."],
    .named "__sizeof__" (some "($self, /)") ["Return memory consumption of the type object."],
    .stored "__basicsize__", .stored "__itemsize__", .stored "__flags__",
    .stored "__weakrefoffset__", .stored "__base__", .stored "__dictoffset__", .stored "__mro__",
    .computed "__name__", .computed "__qualname__", .computed "__bases__", .computed "__module__",
    .computed "__abstractmethods__", .computed "__dict__", .computed "__doc__",
    .computed "__text_signature__", .computed "__annotations__"]

end TargetAssembly.Template.Kind

namespace TargetAssembly.Template.Kind

/-- The kinds of everything that a field of a template can come to. -/
def all : List Kind := [
  top, kind, text, number, truth, row, table, view, indexed, nothing, namedOperation,
  basicOperation, namedMember, basicMember, memberOfKind, computedMember, storedMember,
  keptOperation]

/-- The kind of a name; what has no name is of the kind above all others. -/
def ofName (name : String) : Kind := (all.find? (·.name == name)).getD top

/-- The name of a kind with its home, which is left out where it is the common one. -/
def fullName (k : Kind) : String := if k.home = "builtins" then k.name else k.home ++ "." ++ k.name

/-- The names of a kind and of those above it. -/
def line (k : Kind) : List String := k.name :: k.above

/-- The member of its own that a kind has under a name. -/
def own? (k : Kind) (name : String) : Option Member := k.members.find? (·.name == name)

/-- The member that a kind has under a name, behind the name of the kind that it comes from. -/
def member? (k : Kind) (name : String) : Option (String × Member) :=
  k.line.findSome? fun owner => ((ofName owner).own? name).map (owner, ·)

end TargetAssembly.Template.Kind
