/- Declarations of classes and interfaces with their members. -/
import EndpointGen.Declaration.Annotation

namespace EndpointGen

open Text

inductive MemberKind where
  | method
  | property
deriving DecidableEq, Repr

structure Parameter where
  name : String
  type : TypeExpr
deriving DecidableEq, Repr

/-- A method with its return type, or a property with its value type; a synthetic member is
    generated by the compiler. -/
structure Member where
  kind : MemberKind
  name : String
  type : TypeExpr
  parameters : List Parameter
  annotations : List Annotation
  initializer? : Option String
  synthetic : Bool
deriving DecidableEq, Repr

namespace Member

def bare (kind : MemberKind) (name : String) (type : TypeExpr) : Member :=
  ⟨kind, name, type, [], [], none, false⟩

def addParameter (m : Member) (name : String) (type : TypeExpr) : Member :=
  { m with parameters := m.parameters ++ [⟨name, type⟩] }

def addAnnotation (m : Member) (a : Annotation) : Member :=
  { m with annotations := m.annotations ++ [a] }

def initializedBy (m : Member) (text : String) : Member := { m with initializer? := some text }

def asSynthetic (m : Member) : Member := { m with synthetic := true }

def isMethod (m : Member) : Bool := m.kind == .method

def isProperty (m : Member) : Bool := m.kind == .property

/-- The equality machinery of record types, reported as an ordinary property by some hosts. -/
def isEqualityMachinery (m : Member) : Bool := m.synthetic || m.name == "EqualityContract"

end Member

inductive DeclarationKind where
  | classDecl
  | interfaceDecl
deriving DecidableEq, Repr

def DeclarationKind.text : DeclarationKind → String
  | .classDecl => "class"
  | .interfaceDecl => "interface"

/-- One source fragment of a declaration; fragments of one declaration share its identity. -/
structure Declaration where
  identity : String
  kind : DeclarationKind
  namespaceName : String
  isPartial : Bool
  baseType? : Option String
  interfaces : List TypeExpr
  annotations : List Annotation
  members : List Member
deriving DecidableEq, Repr

/-- What follows the last dot of a qualified name. -/
def simpleName (qualified : String) : String := String.ofList (afterLast '.' qualified.toList)

namespace Declaration

def bare (kind : DeclarationKind) (identity ns : String) : Declaration :=
  ⟨identity, kind, ns, false, none, [], [], []⟩

def asPartial (d : Declaration) : Declaration := { d with isPartial := true }

def basedOn (d : Declaration) (base : String) : Declaration := { d with baseType? := some base }

def addInterface (d : Declaration) (t : TypeExpr) : Declaration :=
  { d with interfaces := d.interfaces ++ [t] }

def addAnnotation (d : Declaration) (a : Annotation) : Declaration :=
  { d with annotations := d.annotations ++ [a] }

def addMember (d : Declaration) (m : Member) : Declaration :=
  { d with members := d.members ++ [m] }

def isInterface (d : Declaration) : Bool := d.kind == .interfaceDecl

def simpleName (d : Declaration) : String := EndpointGen.simpleName d.identity

def methods (d : Declaration) : List Member := d.members.filter (·.isMethod)

def properties (d : Declaration) : List Member := d.members.filter (·.isProperty)

end Declaration

end EndpointGen
