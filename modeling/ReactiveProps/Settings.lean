import ReactiveProps.OrderedMap
import ReactiveProps.Value

/-!
# Configuration

A configuration holds values by section and key. `Settings` is what the analysis reads from it.
-/
namespace ReactiveProps

/-- Values by section and key, the last one written for each. -/
abbrev Configuration := OrderedMap (String × String) Value

namespace Configuration

def default : Configuration := .ofPairs [
  (("analysis", "property_decorator"), .text "property"),
  (("analysis", "static_properties_name"), .text "properties"),
  (("analysis", "custom_element_decorator"), .text "customElement"),
  (("analysis", "lit_base_classes"), .list [.text "LitElement", .text "ReactiveElement"]),
  (("analysis", "skip_failed_classes"), .bool true),
  (("analysis", "file_extensions"),
    .list [.text ".ts", .text ".tsx", .text ".js", .text ".jsx", .text ".mjs"]),
  (("logging", "level"), .text "WARNING")]

/-- The value of a key, or the fallback if it was never written. A null that was written is a
value. -/
def lookup (configuration : Configuration) (sectionName key : String) (fallback : Value) : Value :=
  (configuration.get? (sectionName, key)).getD fallback

def set (configuration : Configuration) (sectionName key : String) (value : Value) :
    Configuration :=
  configuration.insert (sectionName, key) value

def analysis (configuration : Configuration) (key : String) : Value :=
  configuration.lookup "analysis" key .null

/-- Whether a failing class ends the analysis, when the caller leaves it open. -/
def strictByDefault (configuration : Configuration) : Bool :=
  !(configuration.lookup "analysis" "skip_failed_classes" (.bool true)).truthy

end Configuration

/-- Names that are not texts match nothing and are none here. -/
structure Settings where
  propertyDecorator : Option String
  staticProperties : Option String
  elementDecorator : Option String
  /-- An error if the configured value is no collection. -/
  baseClasses : Except String (List String)

def Configuration.settings (configuration : Configuration) : Settings where
  propertyDecorator := (configuration.analysis "property_decorator").text?
  staticProperties := (configuration.analysis "static_properties_name").text?
  elementDecorator := (configuration.analysis "custom_element_decorator").text?
  baseClasses := (configuration.analysis "lit_base_classes").members?

end ReactiveProps
