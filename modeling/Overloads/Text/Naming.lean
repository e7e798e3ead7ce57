import Overloads.Text.Identifier
import Overloads.Text.Kebab

/-! Identifiers for names that are to be told apart. -/
namespace Overloads.Text

/-- The identifier for a name in its kebab form. -/
def kebabIdentifier (name : String) : String := identifier (kebab name) defaultFallback

/-- The identifiers for some names, each different from those before it. -/
def uniqueIdentifiers (names : List String) : List String :=
  names.foldl (fun taken n => taken ++ [uniqueIdentifier (kebabIdentifier n) taken]) []

end Overloads.Text
