import ClassChain.Text.Part.Declaration

/-!
# What kinds, and things of any kind, declare

The declarations stand in their order.
-/

namespace ClassChain.Text.Declaration

/-- The declarations of things of any kind. -/
def ofAnything : List Declaration :=
  [maker] ++
  operators ["__repr__", "__hash__", "__str__", "__getattribute__", "__setattr__", "__delattr__", "__lt__", "__le__",
    "__eq__", "__ne__", "__gt__", "__ge__", "__init__"] ++
  [operation "__reduce_ex__" (some "($self, protocol, /)") ["Helper for pickle."],
    operation "__reduce__" (some "($self, /)") ["Helper for pickle."],
    operation "__getstate__" (some "($self, /)") ["Helper for pickle."],
    forKind "__subclasshook__" none [
      "Abstract classes can override this to customize issubclass().", "",
      "This is invoked early on by abc.ABCMeta.__subclasscheck__().",
      "It should return True, False or NotImplemented.  If it returns",
      "NotImplemented, the normal algorithm is used.  Otherwise, it",
      "overrides the normal algorithm (and the outcome is cached).", ""],
    forKind "__init_subclass__" none [
      "This method is called when a class is subclassed.", "", "The default implementation does nothing. It may be",
      "overridden to extend subclasses.", ""],
    operation "__format__" (some "($self, format_spec, /)") ["Default object formatter."],
    operation "__sizeof__" (some "($self, /)") ["Size of object in memory, in bytes."],
    operation "__dir__" (some "($self, /)") ["Default dir() implementation."],
    property "__class__" ["the object's class"],
    about [
      "The base class of the class hierarchy.", "", "When called, it accepts no arguments and returns a new featureless",
      "instance that has no instance attributes and cannot be given any.", ""]]

/-- The declarations of kinds. -/
def ofKind : List Declaration :=
  [maker] ++
  operators ["__repr__", "__call__", "__getattribute__", "__setattr__", "__delattr__", "__init__", "__or__", "__ror__"] ++
  [operation "mro" (some "($self, /)") ["Return a type's method resolution order."],
    operation "__subclasses__" (some "($self, /)") ["Return a list of immediate subclasses."],
    forKind "__prepare__" none ["__prepare__() -> dict", "used to create the namespace for the class statement"],
    operation "__instancecheck__" (some "($self, instance, /)") ["Check if an object is an instance."],
    operation "__subclasscheck__" (some "($self, subclass, /)") ["Check if a class is a subclass."],
    operation "__dir__" (some "($self, /)") ["Specialized __dir__ implementation for types."],
    operation "__sizeof__" (some "($self, /)") ["Return memory consumption of the type object."],
    member "__basicsize__",
    member "__itemsize__",
    member "__flags__",
    member "__weakrefoffset__",
    member "__base__",
    member "__dictoffset__",
    member "__mro__",
    property "__name__" [],
    property "__qualname__" [],
    property "__bases__" [],
    property "__module__" [],
    property "__abstractmethods__" [],
    property "__dict__" [],
    property "__doc__" [],
    property "__text_signature__" [],
    property "__annotations__" []]

/-- The declarations of kinds that are applied to something. -/
def ofApplied : List Declaration :=
  [maker] ++
  operators ["__repr__", "__hash__", "__call__", "__getattribute__", "__lt__", "__le__", "__eq__", "__ne__", "__gt__",
    "__ge__", "__iter__", "__or__", "__ror__", "__getitem__"] ++
  [operation "__mro_entries__" none [],
    operation "__instancecheck__" none [],
    operation "__subclasscheck__" none [],
    operation "__reduce__" none [],
    operation "__dir__" none [],
    member "__origin__",
    member "__args__",
    member "__unpacked__",
    property "__parameters__" ["Type variables in the GenericAlias."],
    property "__typing_unpacked_tuple_args__" [],
    about ["Represent a PEP 585 generic type", "", "E.g. for t = list[int], t.__origin__ is list and t.__args__ is (int,)."]]

/-- The declarations of nothing. -/
def ofNothing : List Declaration :=
  [maker] ++
  operators ["__repr__", "__bool__"] ++
  [missing "__doc__"]

end ClassChain.Text.Declaration
