import BeanMapper.Type.Basic
import BeanMapper.Type.ClassDecl

/-!
The classes of the platform that generated mappers rely on: roots, boxes, collections, maps and the
few classes that conversions mention; and for each abstract container the class that stands in for
it where an instance is needed. `implementation?_of_implementation` says that no class that stands
in needs another.
-/

namespace BeanMapper.Platform

/-! ## Names -/

def object : String := "java.lang.Object"

/-- The class of texts. -/
def string : String := "java.lang.String"

def classLiteral : String := "java.lang.Class"

def enum : String := "java.lang.Enum"

/-- The root of numeric boxes. -/
def number : String := "java.lang.Number"

def iterable : String := "java.lang.Iterable"

def collection : String := "java.util.Collection"

def list : String := "java.util.List"

/-- The sequence in general use. -/
def arrayList : String := "java.util.ArrayList"

def set : String := "java.util.Set"

/-- The set in general use, which keeps the order of insertion. -/
def linkedHashSet : String := "java.util.LinkedHashSet"

def enumSet : String := "java.util.EnumSet"

def map : String := "java.util.Map"

/-- The map in general use, which keeps the order of insertion. -/
def linkedHashMap : String := "java.util.LinkedHashMap"

def date : String := "java.util.Date"

def calendar : String := "java.util.Calendar"

/-- The calendar in general use. -/
def gregorianCalendar : String := "java.util.GregorianCalendar"

/-- Writes and reads dates by a pattern. -/
def simpleDateFormat : String := "java.text.SimpleDateFormat"

/-- Thrown where a date cannot be read. -/
def parseException : String := "java.text.ParseException"

/-! ## Stand-ins for abstract containers -/

/-- Abstract containers, each with the class instantiated in its place. -/
def implementations : List (String × String) := [
  (iterable, arrayList),
  (collection, arrayList),
  (list, arrayList),
  (set, linkedHashSet),
  ("java.util.SortedSet", "java.util.TreeSet"),
  ("java.util.NavigableSet", "java.util.TreeSet"),
  (map, linkedHashMap),
  ("java.util.SortedMap", "java.util.TreeMap"),
  ("java.util.NavigableMap", "java.util.TreeMap"),
  ("java.util.concurrent.ConcurrentMap", "java.util.concurrent.ConcurrentHashMap"),
  ("java.util.concurrent.ConcurrentNavigableMap", "java.util.concurrent.ConcurrentSkipListMap")]

def implementation? (name : String) : Option String := implementations.lookup name

theorem implementation?_of_implementation :
    ∀ entry ∈ implementations, implementation? entry.2 = none := by decide

/-- A class that stands in for another needs no stand-in. -/
theorem implementation?_stand {name stand : String} (h : implementation? name = some stand) :
    implementation? stand = none := by
  obtain ⟨before, after, heq, -⟩ := List.lookup_eq_some_iff.1 h
  refine implementation?_of_implementation (name, stand) ?_
  rw [heq]
  exact List.mem_append_right _ List.mem_cons_self

/-! ## Declarations -/

/-- The box of a primitive type; all but two are numbers. -/
def box (p : Primitive) : ClassDecl where
  name := p.boxedName
  supertypes := if p = .boolean ∨ p = .char then [] else [number]
  hasDefaultConstructor := false
  isImmutable := true

/-- The declarations of the platform's classes. -/
def declarations : List ClassDecl := [
  .plain object,
  { ClassDecl.plain string with isImmutable := true },
  { ClassDecl.plain classLiteral with typeParams := ["T"], hasDefaultConstructor := false },
  (ClassDecl.abstractClass enum).generic ["E"] [],
  .abstractClass number,
  .plain "java.lang.Exception",
  (ClassDecl.plain parseException).generic [] ["java.lang.Exception"],
  { ClassDecl.plain "java.math.BigDecimal" with
    supertypes := [number], isImmutable := true, hasDefaultConstructor := false },
  .plain date,
  .abstractClass calendar,
  (ClassDecl.plain gregorianCalendar).generic [] [calendar],
  .plain simpleDateFormat,
  (ClassDecl.interface iterable).generic ["T"] [],
  (ClassDecl.interface collection).generic ["E"] ["java.lang.Iterable<E>"],
  (ClassDecl.interface list).generic ["E"] ["java.util.Collection<E>"],
  (ClassDecl.plain arrayList).generic ["E"] ["java.util.List<E>"],
  (ClassDecl.plain "java.util.LinkedList").generic ["E"] ["java.util.List<E>"],
  (ClassDecl.interface set).generic ["E"] ["java.util.Collection<E>"],
  (ClassDecl.interface "java.util.SortedSet").generic ["E"] ["java.util.Set<E>"],
  (ClassDecl.interface "java.util.NavigableSet").generic ["E"] ["java.util.SortedSet<E>"],
  (ClassDecl.plain "java.util.HashSet").generic ["E"] ["java.util.Set<E>"],
  (ClassDecl.plain linkedHashSet).generic ["E"] ["java.util.HashSet<E>"],
  (ClassDecl.plain "java.util.TreeSet").generic ["E"] ["java.util.NavigableSet<E>"],
  { ClassDecl.abstractClass enumSet with
    typeParams := ["E"], supertypes := ["java.util.Set<E>"], hasDefaultConstructor := false },
  (ClassDecl.interface map).generic ["K", "V"] [],
  (ClassDecl.interface "java.util.SortedMap").generic ["K", "V"] ["java.util.Map<K, V>"],
  (ClassDecl.interface "java.util.NavigableMap").generic ["K", "V"] ["java.util.SortedMap<K, V>"],
  (ClassDecl.plain "java.util.HashMap").generic ["K", "V"] ["java.util.Map<K, V>"],
  (ClassDecl.plain linkedHashMap).generic ["K", "V"] ["java.util.HashMap<K, V>"],
  (ClassDecl.plain "java.util.TreeMap").generic ["K", "V"] ["java.util.NavigableMap<K, V>"],
  (ClassDecl.interface "java.util.concurrent.ConcurrentMap").generic ["K", "V"]
    ["java.util.Map<K, V>"],
  (ClassDecl.interface "java.util.concurrent.ConcurrentNavigableMap").generic ["K", "V"]
    ["java.util.concurrent.ConcurrentMap<K, V>", "java.util.NavigableMap<K, V>"],
  (ClassDecl.plain "java.util.concurrent.ConcurrentHashMap").generic ["K", "V"]
    ["java.util.concurrent.ConcurrentMap<K, V>"],
  (ClassDecl.plain "java.util.concurrent.ConcurrentSkipListMap").generic ["K", "V"]
    ["java.util.concurrent.ConcurrentNavigableMap<K, V>"]] ++ Primitive.all.map box

/-- A table that holds the platform's classes and no others. -/
def table : ClassTable := ClassTable.declareAll {} declarations

end BeanMapper.Platform

namespace BeanMapper.Ty

/-- The class instantiated in place of an abstract container, with the same arguments. -/
def implementation? : Ty → Option Ty
  | declared name args => (Platform.implementation? name).map fun stand => declared stand args
  | _ => none

/-- The type to instantiate where the given one is asked for. -/
def instantiated (ty : Ty) : Ty := ty.implementation?.getD ty

def object : Ty := named Platform.object

def string : Ty := named Platform.string

def isString (ty : Ty) : Bool := ty.isClass Platform.string

def isObject (ty : Ty) : Bool := ty.isClass Platform.object

def isEnumSet (ty : Ty) : Bool := ty.isClass Platform.enumSet

end BeanMapper.Ty
