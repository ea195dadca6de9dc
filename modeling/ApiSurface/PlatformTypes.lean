/-!
# Classes of the Java platform

Class facts cover an application and seldom the platform beneath it, so the direct supertypes of
the platform's common classes are kept here.
-/

namespace ApiSurface.PlatformTypes

def table : List (String × List String) :=
  [("java.lang.Iterable", []),
   ("java.util.Collection", ["java.lang.Iterable"]),
   ("java.util.List", ["java.util.Collection"]),
   ("java.util.Set", ["java.util.Collection"]),
   ("java.util.SortedSet", ["java.util.Set"]),
   ("java.util.NavigableSet", ["java.util.SortedSet"]),
   ("java.util.Queue", ["java.util.Collection"]),
   ("java.util.Deque", ["java.util.Queue"]),
   ("java.util.AbstractCollection", ["java.util.Collection"]),
   ("java.util.AbstractList", ["java.util.AbstractCollection", "java.util.List"]),
   ("java.util.AbstractSet", ["java.util.AbstractCollection", "java.util.Set"]),
   ("java.util.ArrayList", ["java.util.AbstractList", "java.util.List"]),
   ("java.util.LinkedList", ["java.util.AbstractList", "java.util.List", "java.util.Deque"]),
   ("java.util.Vector", ["java.util.AbstractList", "java.util.List"]),
   ("java.util.Stack", ["java.util.Vector"]),
   ("java.util.HashSet", ["java.util.AbstractSet", "java.util.Set"]),
   ("java.util.LinkedHashSet", ["java.util.HashSet"]),
   ("java.util.TreeSet", ["java.util.AbstractSet", "java.util.NavigableSet"]),
   ("java.util.EnumSet", ["java.util.AbstractSet"]),
   ("java.util.ArrayDeque", ["java.util.AbstractCollection", "java.util.Deque"]),
   ("java.util.PriorityQueue", ["java.util.AbstractCollection", "java.util.Queue"]),
   ("java.util.concurrent.CopyOnWriteArrayList", ["java.util.List"]),
   ("java.util.concurrent.CopyOnWriteArraySet", ["java.util.AbstractSet"]),
   ("java.util.Map", []),
   ("java.util.SortedMap", ["java.util.Map"]),
   ("java.util.NavigableMap", ["java.util.SortedMap"]),
   ("java.util.AbstractMap", ["java.util.Map"]),
   ("java.util.HashMap", ["java.util.AbstractMap", "java.util.Map"]),
   ("java.util.LinkedHashMap", ["java.util.HashMap"]),
   ("java.util.TreeMap", ["java.util.AbstractMap", "java.util.NavigableMap"]),
   ("java.util.EnumMap", ["java.util.AbstractMap"]),
   ("java.util.IdentityHashMap", ["java.util.AbstractMap"]),
   ("java.util.WeakHashMap", ["java.util.AbstractMap"]),
   ("java.util.Hashtable", ["java.util.Map"]),
   ("java.util.Properties", ["java.util.Hashtable"]),
   ("java.util.concurrent.ConcurrentMap", ["java.util.Map"]),
   ("java.util.concurrent.ConcurrentHashMap",
     ["java.util.AbstractMap", "java.util.concurrent.ConcurrentMap"]),
   ("java.util.Optional", []),
   ("java.util.OptionalInt", []),
   ("java.util.OptionalLong", []),
   ("java.util.OptionalDouble", []),
   ("java.lang.Number", ["java.io.Serializable"]),
   ("java.lang.Byte", ["java.lang.Number", "java.lang.Comparable"]),
   ("java.lang.Short", ["java.lang.Number", "java.lang.Comparable"]),
   ("java.lang.Integer", ["java.lang.Number", "java.lang.Comparable"]),
   ("java.lang.Long", ["java.lang.Number", "java.lang.Comparable"]),
   ("java.lang.Float", ["java.lang.Number", "java.lang.Comparable"]),
   ("java.lang.Double", ["java.lang.Number", "java.lang.Comparable"]),
   ("java.math.BigInteger", ["java.lang.Number", "java.lang.Comparable"]),
   ("java.math.BigDecimal", ["java.lang.Number", "java.lang.Comparable"]),
   ("java.util.concurrent.atomic.AtomicInteger", ["java.lang.Number"]),
   ("java.util.concurrent.atomic.AtomicLong", ["java.lang.Number"]),
   ("java.lang.CharSequence", []),
   ("java.lang.String", ["java.lang.CharSequence", "java.lang.Comparable", "java.io.Serializable"]),
   ("java.lang.Boolean", ["java.lang.Comparable", "java.io.Serializable"]),
   ("java.lang.Character", ["java.lang.Comparable", "java.io.Serializable"]),
   ("java.lang.Enum", ["java.lang.Comparable", "java.io.Serializable"])]

/-- Direct supertypes of a class of the platform, if it is one of those listed. -/
def supertypes (name : String) : Option (List String) := table.lookup name

end ApiSurface.PlatformTypes
