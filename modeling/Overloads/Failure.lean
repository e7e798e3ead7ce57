import Overloads.Number.Reading
import Overloads.Settings.Problem
import Overloads.Class.Description

/-! Everything that can go wrong, by cause. -/
namespace Overloads

inductive Failure where
  /-- No member of a routine takes the arguments. -/
  | noOverload (owner memberName : String) (argTypes : List String) (reason : String)
  /-- An invariant of the library does not hold; `facts` are named texts of values. -/
  | broken (reason : String) (facts : List (String × String))
  | unknownClass (handle : Option String) (reason : String)
  | badPattern (pattern reason : String)
  | repetitionTooLarge
  | incompatibleFlags
  | unmetDependencies (coordinates : List String) (reason : String)
  | invalidSettings (model : String) (problems : List Settings.FieldProblem)
  | malformedCoordinate (raw : String)
  | missingArtifact (raw : String)
  | moduleMissing (reason : String)
  | emptyModuleName
  /-- A module is named relative to a package, and there is none. -/
  | relativeModule (name : String)
  | attributeMissing (reason : String)
  | notAHook (shown : Option String)
  | namesNoFunction (path : String)
  | notADottedPath (path : String)
  | notImportable (shown : Option String)
  | notTestable
  /-- A class that is asked whether another belongs to it answers neither yes nor no. -/
  | unfitVerdict
  | unfitArguments
  | inconsistentBases
  /-- An annotation is an expression that fails with its operands. -/
  | failingHint
  | unknownName (name : String)
  | unorderable
  | missingKey
  /-- A sequence has no item at a place; `what` names the place. -/
  | noItem (what : String)
  | nothingToTake (what : String)
  /-- A builtin function does not take a value; the reason is a sentence. -/
  | rejectedValue (reason : String)
  | absentItem (shown : Option String)
  | rejectedSize (reason : String)
  | zeroDenominator (shown : Option String)
  | unknownEncoding (name : String)
  /-- No way of mending broken text has this name. -/
  | unknownRemedy (name : String)
  | unencodableText
  | tooDeep
  | impossibleCode
  | notConvertible
  | notAnInteger (base : Nat) (shown : Option String)
  | integerTooLong (digits : Nat)
  | integerUnwritable
  | notANumber (shown : Option String)
  | integerOfNaN
  | integerOfInfinity
  | floatOfLargeInteger
  | floatOfLargeFraction
  | notOneCharacter (shown : Option String)
  | undecodableText
  | raised (kind : RaisedKind) (message : String)
  deriving BEq, Repr, Inhabited

namespace Failure

def unrecognised : String := "Unrecognised types for"

/-- A place marked as never reached was reached. -/
def marker (reason : String) (facts : List (String × String)) : Failure :=
  .broken (if reason.isEmpty then "never() marker reached" else reason) facts

def wrongNumber (count : Nat) : String := s!"Wrong number of arguments ({count}) for"

/-- The sentence that tells the failure, where its text is fixed. -/
def message : Failure → Option String
  | .noOverload owner memberName argTypes reason =>
    some (reason ++ " " ++ owner ++ "." ++ memberName ++ ": " ++ ", ".intercalate argTypes)
  | .broken reason _ => some reason
  | .unknownClass handle reason => handle.map fun h =>
    "Invalid class: " ++ h ++ (if reason.isEmpty then "" else " (" ++ reason ++ ")")
  | .badPattern pattern reason =>
    some ("Invalid filter pattern " ++ Text.quoted pattern ++ ": " ++ reason)
  | .repetitionTooLarge => some "the repetition number is too large"
  | .incompatibleFlags => some "ASCII and UNICODE flags are incompatible"
  | .unmetDependencies coordinates reason =>
    some ("Failed to resolve dependencies [" ++ ", ".intercalate coordinates ++ "]: " ++ reason)
  | .invalidSettings model problems => some (Settings.report model problems)
  | .malformedCoordinate raw => some ("malformed coordinate: " ++ Text.quoted raw)
  | .missingArtifact raw => some ("missing artifact in coordinate: " ++ Text.quoted raw)
  | .moduleMissing reason => some reason
  | .emptyModuleName => some "Empty module name"
  | .notAHook shown =>
    shown.map ("expecting a function, a dotted path or None, got: " ++ ·)
  | .namesNoFunction path => some (path ++ " does not name a function")
  | .noItem what => some (what ++ " out of range")
  | .nothingToTake what => some ("pop from empty " ++ what)
  | .rejectedValue reason | .rejectedSize reason => some reason
  | .absentItem shown => shown.map (· ++ " is not in list")
  | .zeroDenominator shown => shown
  | .unknownEncoding name => some ("unknown encoding: " ++ name)
  | .unknownRemedy name => some ("unknown error handler name '" ++ name ++ "'")
  | .impossibleCode => some "invalid SRE code"
  | .notADottedPath path => some ("not a dotted path: " ++ Text.quoted path)
  | .notImportable shown => shown.map (· ++ " is not importable by dotted path")
  | .notAnInteger base shown => shown.map fun s =>
    s!"invalid literal for int() with base {base}: " ++ String.ofList (s.toList.take 200)
  | .integerTooLong digits => some <|
    s!"Exceeds the limit ({Number.digitLimit} digits) for integer string conversion: " ++
    s!"value has {digits} digits; use sys.set_int_max_str_digits() to increase the limit"
  | .integerUnwritable => some <|
    s!"Exceeds the limit ({Number.digitLimit} digits) for integer string conversion; " ++
    "use sys.set_int_max_str_digits() to increase the limit"
  | .notANumber shown => shown.map ("could not convert string to float: " ++ ·)
  | .integerOfNaN => some "cannot convert float NaN to integer"
  | .integerOfInfinity => some "cannot convert float infinity to integer"
  | .floatOfLargeInteger => some "int too large to convert to float"
  | .floatOfLargeFraction => some "integer division result too large for a float"
  | .notOneCharacter shown => shown.map ("Character needs exactly one code point, got " ++ ·)
  | .raised kind message => some (if kind = .key then Text.quoted message else message)
  | .relativeModule name => some <|
    "the 'package' argument is required to perform a relative import for " ++ Text.quoted name
  | .attributeMissing reason => some reason
  | .unfitVerdict => some "__subclasshook__ must return either False, True, or NotImplemented"
  | .unknownName name => some (Unresolved.unknownName name).message
  | .notTestable | .unfitArguments | .inconsistentBases | .failingHint | .unorderable
  | .missingKey | .notConvertible | .undecodableText | .unencodableText | .tooDeep => none

/-- The name under which a caller catches the failure. -/
def kind : Failure → String
  | .noOverload _ _ _ _ => "OverloadResolutionError"
  | .broken _ _ => "NeverThrown"
  | .unknownClass _ _ => "ClassNotResolvable"
  | .badPattern _ _ => "InvalidFilterPattern"
  | .repetitionTooLarge | .integerOfInfinity | .floatOfLargeInteger | .floatOfLargeFraction
  | .rejectedSize _ => "OverflowError"
  | .unmetDependencies _ _ => "DependencyResolutionError"
  | .invalidSettings _ _ => "ValidationError"
  | .malformedCoordinate _ | .missingArtifact _ | .emptyModuleName | .notADottedPath _
  | .notImportable _ | .notAnInteger _ _ | .integerTooLong _ | .integerUnwritable | .notANumber _
  | .integerOfNaN | .notOneCharacter _ | .incompatibleFlags | .rejectedValue _
  | .absentItem _ => "ValueError"
  | .moduleMissing _ => "ModuleNotFoundError"
  | .relativeModule _ | .notAHook _ | .namesNoFunction _ | .notTestable | .unfitArguments
  | .inconsistentBases | .failingHint | .unorderable | .notConvertible => "TypeError"
  | .unknownName _ => "NameError"
  | .attributeMissing _ => "AttributeError"
  | .unfitVerdict => "AssertionError"
  | .missingKey => "KeyError"
  | .noItem _ | .nothingToTake _ => "IndexError"
  | .zeroDenominator _ => "ZeroDivisionError"
  | .unknownEncoding _ | .unknownRemedy _ => "LookupError"
  | .undecodableText => "UnicodeDecodeError"
  | .unencodableText => "UnicodeEncodeError"
  | .tooDeep => "RecursionError"
  | .impossibleCode => "RuntimeError"
  | .raised k _ => k.name

/-- Whether a caller that looks out for bad values catches the failure. -/
def isBadValue (f : Failure) : Bool :=
  ["ValueError", "UnicodeDecodeError", "UnicodeEncodeError", "InvalidFilterPattern",
    "ValidationError"].contains f.kind

end Failure

end Overloads
