import ClassChain.Text.Part.Declaration

/-!
# What rows, records and lists of declarations declare

The declarations stand in their order.
-/

namespace ClassChain.Text.Declaration

/-- The declarations of rows. -/
def ofRow : List Declaration :=
  [maker] ++
  operators ["__repr__", "__hash__", "__getattribute__", "__lt__", "__le__", "__eq__", "__ne__", "__gt__", "__ge__",
    "__iter__", "__len__", "__getitem__", "__add__", "__mul__", "__rmul__", "__contains__"] ++
  [operation "__getnewargs__" (some "($self, /)") [],
    operation "index" (some "($self, value, start=0, stop=sys.maxsize, /)") [
      "Return first index of value.", "", "Raises ValueError if the value is not present."],
    operation "count" (some "($self, value, /)") ["Return number of occurrences of value."],
    forKind "__class_getitem__" none ["See PEP 585"],
    about [
      "Built-in immutable sequence.", "", "If no argument is given, the constructor returns an empty tuple.",
      "If iterable is specified the tuple is initialized from iterable's items.", "",
      "If the argument is a tuple, the return value is the same object."]]

/-- The declarations of records. -/
def ofRecord : List Declaration :=
  [maker] ++
  operators ["__repr__"] ++
  [missing "__hash__"] ++
  operators ["__getattribute__", "__lt__", "__le__", "__eq__", "__ne__", "__gt__", "__ge__", "__iter__", "__init__",
    "__or__", "__ror__", "__ior__", "__len__"] ++
  [operation "__getitem__" none ["x.__getitem__(y) <==> x[y]"]] ++
  operators ["__setitem__", "__delitem__"] ++
  [operation "__contains__" (some "($self, key, /)") ["True if the dictionary has the specified key, else False."],
    operation "__sizeof__" none ["D.__sizeof__() -> size of D in memory, in bytes"],
    operation "get" (some "($self, key, default=None, /)") [
      "Return the value for key if key is in the dictionary, else default."],
    operation "setdefault" (some "($self, key, default=None, /)") [
      "Insert key with a value of default if key is not in the dictionary.", "",
      "Return the value for key if key is in the dictionary, else default."],
    operation "pop" (some "($self, key, default=<unrepresentable>, /)") [
      "D.pop(k[,d]) -> v, remove specified key and return the corresponding value.", "",
      "If the key is not found, return the default if given; otherwise,", "raise a KeyError."],
    operation "popitem" (some "($self, /)") [
      "Remove and return a (key, value) pair as a 2-tuple.", "", "Pairs are returned in LIFO (last-in, first-out) order.",
      "Raises KeyError if the dict is empty."],
    operation "keys" none ["D.keys() -> a set-like object providing a view on D's keys"],
    operation "items" none ["D.items() -> a set-like object providing a view on D's items"],
    operation "values" none ["D.values() -> an object providing a view on D's values"],
    operation "update" none [
      "D.update([E, ]**F) -> None.  Update D from dict/iterable E and F.",
      "If E is present and has a .keys() method, then does:  for k in E: D[k] = E[k]",
      "If E is present and lacks a .keys() method, then does:  for k, v in E: D[k] = v",
      "In either case, this is followed by: for k in F:  D[k] = F[k]"],
    forKind "fromkeys" (some "($type, iterable, value=None, /)") [
      "Create a new dictionary with keys from iterable and values set to value."],
    operation "clear" none ["D.clear() -> None.  Remove all items from D."],
    operation "copy" none ["D.copy() -> a shallow copy of D"],
    operation "__reversed__" (some "($self, /)") ["Return a reverse iterator over the dict keys."],
    forKind "__class_getitem__" none ["See PEP 585"],
    about [
      "dict() -> new empty dictionary", "dict(mapping) -> new dictionary initialized from a mapping object's",
      "    (key, value) pairs", "dict(iterable) -> new dictionary initialized as if via:", "    d = \x7b\x7d",
      "    for k, v in iterable:", "        d[k] = v",
      "dict(**kwargs) -> new dictionary initialized with the name=value pairs",
      "    in the keyword argument list.  For example:  dict(one=1, two=2)"]]

/-- The declarations of declaration lists. -/
def ofDeclarations : List Declaration :=
  [maker] ++
  operators ["__repr__", "__str__", "__getattribute__", "__lt__", "__le__", "__eq__", "__ne__", "__gt__", "__ge__",
    "__iter__", "__or__", "__ror__", "__ior__", "__len__", "__getitem__", "__contains__"] ++
  [operation "get" none ["D.get(k[,d]) -> D[k] if k in D, else d.  d defaults to None."],
    operation "keys" none ["D.keys() -> a set-like object providing a view on D's keys"],
    operation "values" none ["D.values() -> an object providing a view on D's values"],
    operation "items" none ["D.items() -> a set-like object providing a view on D's items"],
    operation "copy" none ["D.copy() -> a shallow copy of D"],
    forKind "__class_getitem__" none ["See PEP 585"],
    operation "__reversed__" none ["D.__reversed__() -> reverse iterator"],
    missing "__doc__",
    missing "__hash__"]

end ClassChain.Text.Declaration
