import NestedSelect.Schema.Accessor

/-!
What a text and null have under names of their own.

A bare table is a text and no root is null, so a relation of such a root is looked for among the
attributes that every text, or null, has. None of them is a descriptor or gives one.
-/

namespace NestedSelect.Inherent

private def under (accessor : Accessor) (names : List String) : List (String × Accessor) :=
  names.map (fun name => (name, accessor))

def positional (names : List String) : List Parameter := names.map (⟨·, .positionalOnly⟩)

def unlimited : List Parameter := [⟨"args", .variadic⟩, ⟨"kwargs", .variadicKeyword⟩]

def giving (parameters : List Parameter) (typeName : String) : Accessor :=
  .callable (some parameters) (.ok (.other typeName))

def refusing (parameters : List Parameter) : Accessor :=
  .callable (some parameters) (misused .wrongType)

def unread (called : Outcome Called) : Accessor := .callable none called

/-- Whether every brace of a template is doubled, so that nothing has to be filled in. -/
def isFilled : List Char → Bool
  | '{' :: '{' :: rest | '}' :: '}' :: rest => isFilled rest
  | '{' :: _ | '}' :: _ => false
  | _ :: rest => isFilled rest
  | [] => true

def iteratorName (s : String) : String :=
  if s.toList.all (fun c => c.toNat < 128) then "str_ascii_iterator" else "str_iterator"

def ofText (s : String) : List (String × Accessor) :=
  under .constant ["__doc__"] ++
  under (giving [] "str") ["capitalize", "casefold", "lower", "swapcase", "title", "upper",
    "__repr__", "__str__"] ++
  under (giving [] "bool") ["isalnum", "isalpha", "isascii", "isdecimal", "isdigit",
    "isidentifier", "islower", "isnumeric", "isprintable", "isspace", "istitle", "isupper"] ++
  under (giving [] "int") ["__hash__", "__len__", "__sizeof__"] ++
  under (giving [] "list") ["__dir__"] ++
  under (giving [] "NoneType") ["__getstate__"] ++
  under (giving [] (iteratorName s)) ["__iter__"] ++
  under (giving [⟨"encoding", .optional⟩, ⟨"errors", .optional⟩] "bytes") ["encode"] ++
  under (giving [⟨"tabsize", .optional⟩] "str") ["expandtabs"] ++
  under (giving [⟨"chars", .optionalPositional⟩] "str") ["lstrip", "rstrip", "strip"] ++
  under (giving [⟨"sep", .optional⟩, ⟨"maxsplit", .optional⟩] "list") ["rsplit", "split"] ++
  under (giving [⟨"keepends", .optional⟩] "list") ["splitlines"] ++
  under (giving unlimited "NoneType") ["__init__"] ++
  under (refusing unlimited) ["__new__"] ++
  under (refusing []) ["__reduce__"] ++
  under (refusing (positional ["value"])) ["__add__", "__eq__", "__ge__", "__gt__", "__le__",
    "__lt__", "__mod__", "__mul__", "__ne__", "__rmod__", "__rmul__"] ++
  under (refusing (positional ["key"])) ["__contains__", "__getitem__"] ++
  under (refusing (positional ["name"])) ["__delattr__", "__getattribute__"] ++
  under (refusing (positional ["name", "value"])) ["__setattr__"] ++
  under (refusing (positional ["format_spec"])) ["__format__"] ++
  under (refusing (positional ["protocol"])) ["__reduce_ex__"] ++
  under (refusing [⟨"width", .positionalOnly⟩, ⟨"fillchar", .optionalPositional⟩])
    ["center", "ljust", "rjust"] ++
  under (refusing (positional ["width"])) ["zfill"] ++
  under (refusing (positional ["iterable"])) ["join"] ++
  under (refusing (positional ["sep"])) ["partition", "rpartition"] ++
  under (refusing (positional ["prefix"])) ["removeprefix"] ++
  under (refusing (positional ["suffix"])) ["removesuffix"] ++
  under (refusing (positional ["old", "new"] ++ [⟨"count", .optionalPositional⟩])) ["replace"] ++
  under (refusing (positional ["table"])) ["translate"] ++
  under (unread (misused .wrongType)) ["count", "endswith", "find", "format_map", "index",
    "maketrans", "rfind", "rindex", "startswith"] ++
  under (unread (if isFilled s.toList then .ok (.other "str") else misused .badTemplate))
    ["format"] ++
  under (unread (.ok (.other "str"))) ["__class__"] ++
  under (unread (.ok (.other "tuple"))) ["__getnewargs__"] ++
  under (unread (.ok (.other "NoneType"))) ["__init_subclass__"] ++
  under (unread (.ok (.other "NotImplementedType"))) ["__subclasshook__"]

/-- A method of null does not show that it is bound to it, and so seems to need it. -/
def ofNull : List (String × Accessor) :=
  under .constant ["__doc__"] ++
  under (refusing (positional ["self"])) ["__bool__", "__dir__", "__getstate__", "__hash__",
    "__reduce__", "__repr__", "__sizeof__", "__str__"] ++
  under (refusing (positional ["self", "name"])) ["__delattr__", "__getattribute__"] ++
  under (refusing (positional ["self", "name", "value"])) ["__setattr__"] ++
  under (refusing (positional ["self", "value"])) ["__eq__", "__ge__", "__gt__", "__le__",
    "__lt__", "__ne__"] ++
  under (refusing (positional ["self", "format_spec"])) ["__format__"] ++
  under (refusing (positional ["self", "protocol"])) ["__reduce_ex__"] ++
  under (refusing (positional ["self"] ++ unlimited)) ["__init__"] ++
  under (refusing unlimited) ["__new__"] ++
  under (unread (.ok (.other "NoneType"))) ["__class__", "__init_subclass__"] ++
  under (unread (.ok (.other "NotImplementedType"))) ["__subclasshook__"]

end NestedSelect.Inherent
