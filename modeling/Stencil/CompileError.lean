import Stencil.Double.Parse
import Stencil.Expr.Token
import Stencil.Files.Fault
import Stencil.Text.Quoted

/-!
# Compile errors

Everything that stops a compile. Faults in submitted data are no compile errors.
-/
namespace Stencil

/-- Where in a template something starts; lines and columns count from one. -/
structure Location where
  file : String
  line : Nat
  column : Nat
  deriving DecidableEq

def Location.text (location : Location) : String :=
  "template " ++ Text.quoted location.file ++ " line " ++ toString location.line
    ++ " character " ++ toString location.column

/-- A tag at its place. -/
structure TagRef where
  namespaceName : String
  name : String
  location : Location
  deriving DecidableEq

def TagRef.text (tag : TagRef) : String :=
  "<" ++ tag.namespaceName ++ ":" ++ tag.name ++ "> in " ++ tag.location.text

/-- What is wrong with the value of an attribute. -/
inductive AttributeFault where
  | natural (written : String) (error : Text.NaturalError)
  | double (written : String) (error : Double.ParseError)
  /-- The pattern is no regular expression. -/
  | pattern
  deriving DecidableEq

/-- What stands for the explanation of a fault in a pattern. -/
def patternExplanation : String := "<regex>"

def AttributeFault.message : AttributeFault → String
  | .natural written error => Text.quoted written ++ ": " ++ error.message
  | .double written error => Text.quoted written ++ ": " ++ error.message
  | .pattern => patternExplanation

inductive CompileError where
  | unknownTag (tag : TagRef)
  | malformedTag (tag : TagRef)
  | unexpectedClosingTag (tag : TagRef)
  | mismatchedClosingTag (expected found : TagRef)
  | unterminatedTag (tag : TagRef)
  | missingAttribute (tag : TagRef) (key : String)
  | missingComparison (tag : TagRef)
  | invalidAttribute (tag : TagRef) (key : String) (fault : AttributeFault)
  | duplicateFieldId (form : TagRef) (id : String)
  | fieldOutsideForm (tag : TagRef)
  | nestedForm (tag : TagRef)
  | unknownBaseType (tag : TagRef) (base : String)
  | expression (location : Location) (source : String) (error : Expr.ParseError)
  | namingConvention (path : String)
  | missingImplementation (path tag : String)
  | unbalancedSkip (source : String) (opened : Nat)
  | io (context : String) (fault : FileFault)
  deriving DecidableEq

namespace CompileError

def message : CompileError → String
  | .unknownTag tag => "unknown tag " ++ tag.text
  | .malformedTag tag => "invalid closing tag " ++ tag.text ++ ": closing tags cannot self-close"
  | .unexpectedClosingTag tag => "unexpected closing tag " ++ tag.text
  | .mismatchedClosingTag expected found =>
    "expecting closing tag for " ++ expected.text ++ ", found closing tag " ++ found.text
  | .unterminatedTag tag => "missing closing tag for " ++ tag.text
  | .missingAttribute tag key => "tag " ++ tag.text ++ " is missing \"" ++ key ++ "\" attribute"
  | .missingComparison tag => "tag " ++ tag.text ++ " is missing a comparison attribute"
  | .invalidAttribute tag key fault =>
    "tag " ++ tag.text ++ " has an invalid value for attribute \"" ++ key ++ "\": " ++ fault.message
  | .duplicateFieldId form id =>
    "form " ++ form.text ++ " already has a field with the id \"" ++ id ++ "\""
  | .fieldOutsideForm tag => "tag " ++ tag.text ++ " must have a parent <form:form> tag"
  | .nestedForm tag => "tag " ++ tag.text ++ " cannot have a parent <form:form> tag"
  | .unknownBaseType tag base =>
    "form " ++ tag.text ++ " expects non-existent base type \"" ++ base ++ "\""
  | .expression location source error =>
    "invalid expression " ++ Text.quoted source ++ " in " ++ location.text ++ ": " ++ error.message
  | .namingConvention path =>
    "tag file " ++ Text.quoted path ++ " does not follow the naming convention"
  | .missingImplementation path tag =>
    "tag file " ++ Text.quoted path ++ " does not resolve to a tag implementation " ++ Text.quoted tag
  | .unbalancedSkip source n =>
    "unbalanced static subtrees in template \"" ++ source ++ "\" (skip counter " ++ toString n
      ++ " at end)"
  | .io context fault => context ++ ": " ++ fault.message

/-- The tag an error is about, if it is about one. -/
def tag? : CompileError → Option TagRef
  | .unknownTag tag | .malformedTag tag | .unexpectedClosingTag tag | .unterminatedTag tag
  | .missingComparison tag | .invalidAttribute tag _ _ | .fieldOutsideForm tag | .nestedForm tag
  | .missingAttribute tag _ | .unknownBaseType tag _ => some tag
  | .mismatchedClosingTag _ found => some found
  | .duplicateFieldId form _ => some form
  | .expression .. | .namingConvention .. | .missingImplementation .. | .unbalancedSkip ..
  | .io .. => none

end CompileError

end Stencil
