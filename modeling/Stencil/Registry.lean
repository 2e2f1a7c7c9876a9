import Stencil.Tag.Kind

/-!
# Known tags

Which tags exist, by namespace and name.
-/
namespace Stencil

/-- The tags of a namespace by name, each as it is before initialization. -/
abbrev TagNames := Dict TagKind

abbrev Registry := Dict TagNames

namespace Registry

def builtinTags : List (String × String × TagKind) := [
  ("form", "form", .form []),
  ("form", "text", .text .text),
  ("form", "password", .text .password),
  ("form", "textarea", .text .textarea),
  ("form", "hidden", .text .hidden),
  ("form", "email", .text .email),
  ("form", "url", .text .url),
  ("form", "checkbox", .checkbox),
  ("form", "select", .select false),
  ("form", "multiselect", .select true),
  ("form", "radio", .radio),
  ("form", "file", .file),
  ("form", "group", .group none),
  ("form", "button", .button .button),
  ("form", "submit", .button .submit),
  ("form", "reset", .button .reset),
  ("form", "errors", .errors),
  ("static", "if", .staticIf none),
  ("static", "set", .staticSet)]

def builtinTag? (namespaceName name : String) : Option TagKind :=
  (builtinTags.find? fun tag => tag.1 = namespaceName ∧ tag.2.1 = name).map fun tag => tag.2.2

/-- Make a namespace known. -/
def addNamespace (registry : Registry) (namespaceName : String) : Registry :=
  registry.insert namespaceName (registry.getD namespaceName .empty)

def addTag (registry : Registry) (namespaceName name : String) (kind : TagKind) : Registry :=
  registry.insert namespaceName ((registry.getD namespaceName .empty).insert name kind)

def builtin : Registry :=
  builtinTags.foldl (fun registry tag => registry.addTag tag.1 tag.2.1 tag.2.2) .empty

def namespaces (registry : Registry) : List String := registry.keys

/-- The namespaces with bars in between. -/
def namespacePattern (registry : Registry) : String := "|".intercalate registry.namespaces

def tag? (registry : Registry) (namespaceName name : String) : Option TagKind :=
  (registry.get? namespaceName).bind fun names => names.get? name

def containsTag (registry : Registry) (namespaceName name : String) : Bool :=
  (registry.tag? namespaceName name).isSome

end Registry

end Stencil
