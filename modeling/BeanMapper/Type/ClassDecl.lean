/-!
Class declarations: what is known of a class before any type that mentions it is looked at. The
texts of supertypes and property types may use the class's own type parameters.
-/

namespace BeanMapper

inductive ClassKind where
  | plain
  | interface
  | enumeration
  | record
  deriving DecidableEq, Repr

/-- A property as a class declares it: its type is still a text. -/
structure PropertyDecl where
  name : String
  typeText : String
  hasGetter : Bool := true
  hasSetter : Bool := true
  hasPresenceChecker : Bool := false
  deriving DecidableEq, Repr

/-- The declared shape of a class. -/
structure ClassDecl where
  name : String
  kind : ClassKind := .plain
  isAbstract : Bool := false
  typeParams : List String := []
  supertypes : List String := []
  properties : List PropertyDecl := []
  hasDefaultConstructor : Bool := true
  isImmutable : Bool := false
  enumConstants : List String := []
  deriving DecidableEq, Repr

namespace ClassDecl

/-- A class that can be instantiated and changed. -/
def plain (name : String) : ClassDecl where
  name := name

/-- A class that other classes have to complete. -/
def abstractClass (name : String) : ClassDecl where
  name := name
  isAbstract := true

/-- An interface: abstract and without a constructor. -/
def interface (name : String) : ClassDecl where
  name := name
  kind := .interface
  isAbstract := true
  hasDefaultConstructor := false

/-- An enumeration: a fixed set of unchanging constants. -/
def enumeration (name : String) (constants : List String) : ClassDecl where
  name := name
  kind := .enumeration
  hasDefaultConstructor := false
  isImmutable := true
  enumConstants := constants

/-- A record, which differs from a plain class in its kind alone. -/
def record (name : String) : ClassDecl where
  name := name
  kind := .record

/-- The class with the given type parameters and supertype texts. -/
def generic (decl : ClassDecl) (typeParams supertypes : List String) : ClassDecl :=
  { decl with typeParams, supertypes }

end ClassDecl

/-- The declarations in force, the latest first: a later declaration of a name hides an earlier. -/
structure ClassTable where
  decls : List ClassDecl := []
  deriving Repr

namespace ClassTable

def declare (table : ClassTable) (decl : ClassDecl) : ClassTable := ⟨decl :: table.decls⟩

def declareAll (table : ClassTable) (decls : List ClassDecl) : ClassTable :=
  decls.foldl declare table

def find? (table : ClassTable) (name : String) : Option ClassDecl :=
  table.decls.find? fun decl => decl.name == name

def declares (table : ClassTable) (name : String) : Bool := (table.find? name).isSome

theorem find?_declare (table : ClassTable) (decl : ClassDecl) (name : String) :
    (table.declare decl).find? name = if decl.name = name then some decl else table.find? name := by
  simp only [find?, declare, List.find?_cons]
  by_cases h : decl.name = name
  · simp [h]
  · rw [if_neg h, beq_eq_false_iff_ne.2 h]

end ClassTable

end BeanMapper
