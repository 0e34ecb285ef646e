import ClassChain.Text.Part.Kind

/-!
# Declarations

What a kind declares: operations of its things, some of them with symbols of the language that stand for them, and what is known
of its things. A declaration says how the operation is called and what it does.
-/

namespace ClassChain.Text

/-- What a declaration is. -/
inductive Role where
  /-- An operation that makes things of the kind. -/
  | maker
  | operation
  /-- An operation that a symbol or a word of the language stands for. -/
  | operator
  /-- An operation of the kind itself. -/
  | forKind
  /-- An operation of nothing. -/
  | alone
  | property
  | member
  /-- What is said of the kind. -/
  | about
  /-- Things of the kind lack what wider kinds have. -/
  | missing
  deriving DecidableEq, Repr

/-- Something that a kind declares. -/
structure Declaration where
  name : String
  role : Role
  /-- How it is called. -/
  signature? : Option String := none
  about? : Option String := none
  deriving DecidableEq, Repr

namespace Declaration

/-- Lines of text. -/
def lines? (ls : List String) : Option String := if ls.isEmpty then none else some ("\n".intercalate ls)

/-- The operation that makes things. -/
def maker : Declaration :=
  { name := "__new__", role := .maker, signature? := some "($type, *args, **kwargs)",
    about? := some "Create and return a new object.  See help(type) for accurate signature." }

/-- The operators, with how they are called and what they do, whatever their kind. -/
def operatorTexts : List (String × String × String) :=
  [("__abs__", "($self, /)", "abs(self)"), ("__add__", "($self, value, /)", "Return self+value."),
    ("__and__", "($self, value, /)", "Return self&value."), ("__bool__", "($self, /)", "True if self else False"),
    ("__call__", "($self, /, *args, **kwargs)", "Call self as a function."),
    ("__contains__", "($self, key, /)", "Return key in self."),
    ("__delattr__", "($self, name, /)", "Implement delattr(self, name)."),
    ("__delete__", "($self, instance, /)", "Delete an attribute of instance."),
    ("__delitem__", "($self, key, /)", "Delete self[key]."), ("__divmod__", "($self, value, /)", "Return divmod(self, value)."),
    ("__eq__", "($self, value, /)", "Return self==value."), ("__float__", "($self, /)", "float(self)"),
    ("__floordiv__", "($self, value, /)", "Return self//value."), ("__ge__", "($self, value, /)", "Return self>=value."),
    ("__get__", "($self, instance, owner=None, /)", "Return an attribute of instance, which is of type owner."),
    ("__getattribute__", "($self, name, /)", "Return getattr(self, name)."),
    ("__getitem__", "($self, key, /)", "Return self[key]."), ("__gt__", "($self, value, /)", "Return self>value."),
    ("__hash__", "($self, /)", "Return hash(self)."),
    ("__index__", "($self, /)", "Return self converted to an integer, if self is suitable for use as an index into a list."),
    ("__init__", "($self, /, *args, **kwargs)", "Initialize self.  See help(type(self)) for accurate signature."),
    ("__int__", "($self, /)", "int(self)"), ("__invert__", "($self, /)", "~self"),
    ("__ior__", "($self, value, /)", "Return self|=value."), ("__iter__", "($self, /)", "Implement iter(self)."),
    ("__le__", "($self, value, /)", "Return self<=value."), ("__len__", "($self, /)", "Return len(self)."),
    ("__lshift__", "($self, value, /)", "Return self<<value."), ("__lt__", "($self, value, /)", "Return self<value."),
    ("__mod__", "($self, value, /)", "Return self%value."), ("__mul__", "($self, value, /)", "Return self*value."),
    ("__ne__", "($self, value, /)", "Return self!=value."), ("__neg__", "($self, /)", "-self"),
    ("__or__", "($self, value, /)", "Return self|value."), ("__pos__", "($self, /)", "+self"),
    ("__pow__", "($self, value, mod=None, /)", "Return pow(self, value, mod)."),
    ("__radd__", "($self, value, /)", "Return value+self."), ("__rand__", "($self, value, /)", "Return value&self."),
    ("__rdivmod__", "($self, value, /)", "Return divmod(value, self)."), ("__repr__", "($self, /)", "Return repr(self)."),
    ("__rfloordiv__", "($self, value, /)", "Return value//self."), ("__rlshift__", "($self, value, /)", "Return value<<self."),
    ("__rmod__", "($self, value, /)", "Return value%self."), ("__rmul__", "($self, value, /)", "Return value*self."),
    ("__ror__", "($self, value, /)", "Return value|self."),
    ("__rpow__", "($self, value, mod=None, /)", "Return pow(value, self, mod)."),
    ("__rrshift__", "($self, value, /)", "Return value>>self."), ("__rshift__", "($self, value, /)", "Return self>>value."),
    ("__rsub__", "($self, value, /)", "Return value-self."), ("__rtruediv__", "($self, value, /)", "Return value/self."),
    ("__rxor__", "($self, value, /)", "Return value^self."),
    ("__set__", "($self, instance, value, /)", "Set an attribute of instance to value."),
    ("__setattr__", "($self, name, value, /)", "Implement setattr(self, name, value)."),
    ("__setitem__", "($self, key, value, /)", "Set self[key] to value."), ("__str__", "($self, /)", "Return str(self)."),
    ("__sub__", "($self, value, /)", "Return self-value."), ("__truediv__", "($self, value, /)", "Return self/value."),
    ("__xor__", "($self, value, /)", "Return self^value.")]

/-- Operators with names. -/
def operators (names : List String) : List Declaration :=
  names.map fun name =>
    let texts? := operatorTexts.lookup name
    { name := name, role := .operator, signature? := texts?.map (·.1), about? := texts?.map (·.2) }

/-- An operation of things. -/
def operation (name : String) (signature? : Option String) (about : List String) : Declaration :=
  { name := name, role := .operation, signature? := signature?, about? := lines? about }

/-- An operation of the kind itself. -/
def forKind (name : String) (signature? : Option String) (about : List String) : Declaration :=
  { operation name signature? about with role := .forKind }

/-- An operation of nothing. -/
def alone (name : String) (signature? : Option String) (about : List String) : Declaration :=
  { operation name signature? about with role := .alone }

/-- Something that is known of things. -/
def property (name : String) (about : List String) : Declaration :=
  { name := name, role := .property, about? := lines? about }

/-- A member of things. -/
def member (name : String) : Declaration := { name := name, role := .member }

/-- What is said of the kind. -/
def about (text : List String) : Declaration := { name := "__doc__", role := .about, about? := lines? text }

/-- Something that things of the kind lack. -/
def missing (name : String) : Declaration := { name := name, role := .missing }

end Declaration

end ClassChain.Text
