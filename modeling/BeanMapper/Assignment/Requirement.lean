import BeanMapper.Assignment.Basic

/-!
What an assignment requires of the class around it: imports, declared exceptions, and the methods it
calls. The lists here may repeat; the sets made of them keep the first of each.
-/

namespace BeanMapper

/-! ## Imports -/

/-- The classes that a null check around a container needs: the class copied into where the value is
taken as it is, and the type of the local variable unless a presence check replaces it. -/
def Guard.importList (guard : Guard) (inner : Assignment) : List Ty :=
  (if inner.isDirect then
    guard.target.instantiated.imports ++
      (if guard.target.isEnumSet then [.named Platform.enumSet] else [])
  else []) ++
  (if inner.isDirect || !inner.presence.isChecked then
    (Assignment.localType guard inner).imports
  else [])

mutual

/-- The classes that an assignment mentions, from the inside out. -/
def Assignment.importList : Assignment → List Ty
  | .direct _ presence => presence.importList
  | .convert conversion argument => conversion.imports ++ argument.importList
  | .call reference => reference.importList
  | .nullCheck guard inner => inner.importList ++ guard.importList inner
  | .merge guard _ property inner =>
    inner.importList ++ guard.importList inner ++
      (if property = .setToDefault then
        (guard.target.implementation?.map Ty.imports).getD []
      else [])
  | .setter setting inner none =>
    inner.importList ++
      (if setting.resetsToDefault then setting.target.instantiated.imports else [])
  | .setter setting inner (some fallback) =>
    inner.importList ++ fallback.importList ++
      (if setting.resetsToDefault then setting.target.instantiated.imports else [])

def Reference.importList : Reference → List Ty
  | .mk call none => call.imports
  | .mk call (some argument) => call.imports ++ argument.importList

def Presence.importList : Presence → List Ty
  | .unchecked => []
  | .accessor _ => []
  | .method reference => reference.importList

end

def Assignment.imports (assignment : Assignment) : List Ty := distinct assignment.importList

def Reference.imports (reference : Reference) : List Ty := distinct reference.importList

/-! ## Exceptions -/

/-- The exceptions that are left when those of a list are declared. -/
def undeclared (declared thrown : List Ty) : List Ty := thrown.filter fun ty => ty ∉ declared

mutual

/-- The exceptions that an assignment can throw, less those that the wrappers around their origin
leave out. -/
def Assignment.thrownList : Assignment → List Ty
  | .direct _ _ => []
  | .convert conversion argument => conversion.thrownTypes ++ argument.thrownList
  | .call reference => reference.thrownList
  | .nullCheck guard inner => undeclared guard.excluded inner.thrownList
  | .merge guard _ _ inner => undeclared guard.excluded inner.thrownList
  | .setter setting inner none => undeclared setting.excluded inner.thrownList
  | .setter setting inner (some fallback) =>
    undeclared setting.excluded inner.thrownList ++
      undeclared setting.excluded fallback.thrownList

def Reference.thrownList : Reference → List Ty
  | .mk call none => call.thrownTypes
  | .mk call (some argument) => call.thrownTypes ++ argument.thrownList

end

def Assignment.thrown (assignment : Assignment) : List Ty := distinct assignment.thrownList

/-! ## Calls -/

def Presence.calls : Presence → List Call
  | .method reference => [reference.call]
  | _ => []

mutual

/-- The calls of an assignment, each before those of its argument. -/
def Assignment.calls : Assignment → List Call
  | .direct _ presence => presence.calls
  | .convert _ argument => argument.calls
  | .call reference => reference.calls
  | .nullCheck _ inner => inner.calls
  | .merge _ _ _ inner => inner.calls
  | .setter _ inner none => inner.calls
  | .setter _ inner (some fallback) => inner.calls ++ fallback.calls

/-- A call followed by those of its argument. -/
def Reference.calls : Reference → List Call
  | .mk call none => [call]
  | .mk call (some argument) => call :: argument.calls

end

end BeanMapper
