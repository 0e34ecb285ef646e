import ClassChain.Text.Part.Declaration

/-!
# What operations, and what declares them, declare

The declarations stand in their order.
-/

namespace ClassChain.Text.Declaration

/-- The declarations of operations of a value. -/
def ofOperation : List Declaration :=
  operators ["__repr__", "__hash__", "__call__", "__getattribute__", "__lt__", "__le__", "__eq__", "__ne__", "__gt__",
    "__ge__"] ++
  [operation "__reduce__" none [],
    member "__module__",
    property "__doc__" [],
    property "__name__" [],
    property "__qualname__" [],
    property "__self__" [],
    property "__text_signature__" []]

/-- The declarations of operators of a value. -/
def ofOperator : List Declaration :=
  operators ["__repr__", "__hash__", "__call__", "__getattribute__", "__lt__", "__le__", "__eq__", "__ne__", "__gt__",
    "__ge__"] ++
  [operation "__reduce__" none [],
    member "__self__",
    property "__objclass__" [],
    property "__name__" [],
    property "__qualname__" [],
    property "__doc__" [],
    property "__text_signature__" []]

/-- The declarations of declared operations. -/
def ofDeclaredOperation : List Declaration :=
  operators ["__repr__", "__call__", "__getattribute__", "__get__"] ++
  [operation "__reduce__" none [],
    member "__objclass__",
    member "__name__",
    property "__doc__" [],
    property "__qualname__" [],
    property "__text_signature__" []]

/-- The declarations of declared operators. -/
def ofDeclaredOperator : List Declaration :=
  operators ["__repr__", "__call__", "__getattribute__", "__get__"] ++
  [operation "__reduce__" none [],
    member "__objclass__",
    member "__name__",
    property "__doc__" [],
    property "__qualname__" [],
    property "__text_signature__" []]

/-- The declarations of declared operations of kinds. -/
def ofDeclaredForKind : List Declaration :=
  operators ["__repr__", "__call__", "__getattribute__", "__get__"] ++
  [member "__objclass__",
    member "__name__",
    property "__doc__" [],
    property "__qualname__" [],
    property "__text_signature__" []]

/-- The declarations of declared operations of nothing. -/
def ofDeclaredAlone : List Declaration :=
  [maker] ++
  operators ["__repr__", "__call__", "__get__", "__init__"] ++
  [member "__func__",
    member "__wrapped__",
    property "__isabstractmethod__" [],
    property "__dict__" [],
    about [
      "staticmethod(function) -> method", "", "Convert a function to be a static method.", "",
      "A static method does not receive an implicit first argument.", "To declare a static method, use this idiom:", "",
      "     class C:", "         @staticmethod", "         def f(arg1, arg2, argN):", "             ...", "",
      "It can be called either on the class (e.g. C.f()) or on an instance",
      "(e.g. C().f()). Both the class and the instance are ignored, and",
      "neither is passed implicitly as the first argument to the method.", "",
      "Static methods in Python are similar to those found in Java or C++.",
      "For a more advanced concept, see the classmethod builtin."]]

/-- The declarations of declared properties. -/
def ofProperty : List Declaration :=
  operators ["__repr__", "__getattribute__", "__get__", "__set__", "__delete__"] ++
  [member "__objclass__",
    member "__name__",
    property "__doc__" [],
    property "__qualname__" []]

/-- The declarations of declared members. -/
def ofMember : List Declaration :=
  operators ["__repr__", "__getattribute__", "__get__", "__set__", "__delete__"] ++
  [operation "__reduce__" none [],
    member "__objclass__",
    member "__name__",
    property "__doc__" [],
    property "__qualname__" []]

end ClassChain.Text.Declaration
