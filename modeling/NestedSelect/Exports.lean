import NestedSelect.Fault

/-!
The names that the package has at its top.

Few are there from the start. The others are fetched from their modules when they are first asked
for, and so are the classes of failures.
-/

namespace NestedSelect.Exports

def fetched : List (String × String) :=
  [("AggregatedQuery", ".query"), ("Page", ".query"), ("AggregatedQueryMixin", ".mixins"),
    ("belongs_to", ".core.relations"), ("has_one", ".core.relations"),
    ("has_many", ".core.relations"), ("RelationKind", ".core.relations"),
    ("RelationDescriptor", ".core.relations"), ("RelationMetadata", ".core.relations"),
    ("RelationResolver", ".core.relations"), ("RequestMode", ".core.requests"),
    ("Hydrator", ".core.hydration"), ("GenericHydrator", ".core.hydration"),
    ("EntityHydrator", ".core.hydration"), ("register_hydrator", ".core.hydration"),
    ("SessionExecutor", ".execution"), ("AsyncSessionExecutor", ".execution"),
    ("SqlGenerator", ".adapters"), ("get_generator", ".adapters"),
    ("register_generator", ".adapters")]

def bound : List String :=
  ["AggregationConfig", "configure", "get_config", "reset_config", "annotations", "config",
    "_LAZY", "__getattr__", "__all__", "__builtins__", "__cached__", "__doc__", "__file__",
    "__loader__", "__name__", "__package__", "__path__", "__spec__", "__annotations__",
    "__class__", "__dict__", "__dir__", "__eq__", "__ge__", "__gt__", "__hash__", "__init__",
    "__le__", "__lt__", "__ne__", "__new__", "__repr__", "__str__", "__delattr__", "__format__",
    "__getattribute__", "__getstate__", "__init_subclass__", "__reduce__", "__reduce_ex__",
    "__setattr__", "__sizeof__", "__subclasshook__"]

inductive Origin where
  | bound
  | fetched (path : String)
  | classOfFailure (kind : FaultKind)

/-- Where a name of the package comes from. Modules that are `imported` by now are bound to it. -/
def origin? (imported : List String) (name : String) : Option Origin :=
  if name ∈ bound ++ imported then some .bound
  else if name = "errors" then some (.fetched ".errors")
  else
    match fetched.lookup name with
    | some path => some (.fetched path)
    | none => (FaultKind.ofName? name).map .classOfFailure

def announced : List String :=
  ["AggregationConfig", "configure", "get_config", "reset_config"] ++ fetched.map Prod.fst ++
    ["errors"]

/-- What is announced can be had, whatever has been imported. -/
theorem isSome_origin?_of_announced {imported : List String} {name : String}
    (there : name ∈ announced) : (origin? imported name).isSome = true := by
  have own : ∀ name ∈ announced, (origin? [] name).isSome = true := by decide
  by_cases taken : name ∈ bound ++ imported
  · rw [origin?, if_pos taken]
    rfl
  · have apart : name ∉ bound ++ [] := fun inside =>
      taken (List.mem_append_left _ (List.append_nil bound ▸ inside))
    have same : origin? imported name = origin? [] name := by
      unfold origin?
      rw [if_neg taken, if_neg apart]
    rw [same]
    exact own name there

end NestedSelect.Exports
