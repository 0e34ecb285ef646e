import ClassChain.Text.Part.OfCollections
import ClassChain.Text.Part.OfKinds
import ClassChain.Text.Part.OfNumbers
import ClassChain.Text.Part.OfOperations
import ClassChain.Text.Part.OfTexts

/-!
# Finding declarations

What a name means for things of a kind is what the first kind of its line declares by that name.
-/

namespace ClassChain.Text.Kind

/-- What a kind itself declares. -/
def declared : Kind → List Declaration
  | .text => Declaration.ofText
  | .number => Declaration.ofNumber
  | .switch => Declaration.ofSwitch
  | .nothing => Declaration.ofNothing
  | .row => Declaration.ofRow
  | .record => Declaration.ofRecord
  | .declarations => Declaration.ofDeclarations
  | .kind => Declaration.ofKind
  | .applied => Declaration.ofApplied
  | .anything => Declaration.ofAnything
  | .operation => Declaration.ofOperation
  | .operator => Declaration.ofOperator
  | .declaredOperation => Declaration.ofDeclaredOperation
  | .declaredOperator => Declaration.ofDeclaredOperator
  | .declaredForKind => Declaration.ofDeclaredForKind
  | .declaredAlone => Declaration.ofDeclaredAlone
  | .property => Declaration.ofProperty
  | .member => Declaration.ofMember

/-- What a kind itself declares by a name. -/
def own? (k : Kind) (name : String) : Option Declaration := k.declared.find? (·.name == name)

/-- What a name means for things of a kind, with the kind that declares it. -/
def find? (k : Kind) (name : String) : Option (Kind × Declaration) :=
  k.line.findSome? fun k => (k.own? name).map (k, ·)

end ClassChain.Text.Kind
